import SafeMarkup.Audit.Event
import SafeMarkup.Command.Message
import SafeMarkup.Command.Outside
import SafeMarkup.Command.Usage
import SafeMarkup.Html.Parser
import SafeMarkup.Policy.Cache
import SafeMarkup.Policy.Default
import SafeMarkup.Policy.File
import SafeMarkup.Sanitizer.Basic

/-!
Contract: one run of the program.

Owns: the order of the steps, why a run fails, what is written where.
Does not own: the outside, which is given as operations.

Nothing is written to the output before all else has gone well, and the audit log only grows.
-/

namespace SafeMarkup

/-- Why a run fails. -/
inductive RunFailure where
  | unreadablePolicy (path : Text) (fault : FileFault)
  | malformedPolicy (path : Text)
  | defectivePolicy (defects : List Defect)
  | unreadableInput (path : Option Text) (fault : FileFault)
  | uncompiledPolicy (error : PolicyError)
  | unopenedLog (path : Text) (fault : FileFault)
  | refusedInput (failure : NonConvergence)
  | uncreatedOutput (path : Text) (fault : FileFault)
  | unwrittenOutput (fault : FileFault)
deriving DecidableEq, Repr

namespace RunFailure

/-- The text that stands for what a reader of policies has to say. -/
def policyDiagnostic : Text := "<yaml error>"

def message : RunFailure → Text
  | unreadablePolicy path fault => "Failed to read policy file " ++ path ++ ": " ++ fault.message
  | malformedPolicy path => "Failed to parse policy file " ++ path ++ ": " ++ policyDiagnostic
  | defectivePolicy defects => PolicySpec.defectMessage defects
  | unreadableInput (some path) fault =>
    "Failed to read input file: " ++ path ++ ": " ++ fault.message
  | unreadableInput none fault => "Failed to read input from stdin: " ++ fault.message
  | uncompiledPolicy error => "Failed to compile policy: " ++ error.message
  | unopenedLog path fault => "Failed to open audit log: " ++ path ++ ": " ++ fault.message
  | refusedInput failure => "Sanitization failed: " ++ failure.message
  | uncreatedOutput path fault =>
    "Failed to create output file: " ++ path ++ ": " ++ fault.message
  | unwrittenOutput fault => fault.message

end RunFailure

/-- A result in the form that is asked for. -/
def Sanitized.render (format : OutputFormat) (result : Sanitized) : Text :=
  match format with
  | .html => result.markup
  | .text => result.plainText
  | .json => Value.Json.writePretty 0
      (.record [("html", .string result.markup), ("plain_text", .string result.plainText)])

def RunOptions.logLevel (options : RunOptions) : LogLevel :=
  if options.quiet then .off else if options.debug then .all else .warnings

namespace Run

variable {m : Type → Type} [Monad m]

/-! ## What a run tells -/

def showStatus (outside : Outside m) (kind : StatusKind) (message : Text) : m Unit := do
  outside.report (kind.line (← outside.inColour) message)

def logNote (outside : Outside m) (options : RunOptions) (note : Note) : m Unit :=
  outside.report (note.logText options.logLevel options.trace)

/-- Records a decision in the audit log, if there is one. A line that cannot be written is lost with
a warning. -/
def recordDecision (outside : Outside m) (options : RunOptions) (decision : Decision) : m Unit := do
  match options.auditLog with
  | none => pure ()
  | some path =>
    let event := AuditEvent.ofDecision (← outside.now) decision
    match ← outside.append path (event.toLine ++ ['\n']) with
    | .ok () => pure ()
    | .error fault => logNote outside options (.warning .audit (Sink.lostLine fault.message))

def handleNotes (outside : Outside m) (options : RunOptions) : List Note → m Unit
  | [] => pure ()
  | .decision decision :: notes => do
    recordDecision outside options decision
    handleNotes outside options notes
  | note :: notes => do
    logNote outside options note
    handleNotes outside options notes

/-- The value of a result, once its notes are taken care of. -/
def noted {α : Type} (outside : Outside m) (options : RunOptions) (reported : Reported α) :
    m α := do
  handleNotes outside options reported.notes
  return reported.value

/-! ## Steps -/

/-- Turns a fault of the outside into a failure of the run. -/
def orFail {α : Type} (failure : FileFault → RunFailure) (act : m (Except FileFault α)) :
    ExceptT RunFailure m α := do
  match ← (act : m _) with
  | .ok value => return value
  | .error fault => throw (failure fault)

/-- The policy that the user wrote, if there is one. -/
def userPolicy (outside : Outside m) (options : RunOptions) :
    ExceptT RunFailure m (Option PolicySpec) := do
  match options.policy with
  | none => return none
  | some path =>
    let text ← orFail (.unreadablePolicy path) (outside.readFile path)
    match PolicySpec.ofText text with
    | .ok policy => return some policy
    | .error .malformed => throw (.malformedPolicy path)
    | .error (.defective defects) => throw (.defectivePolicy defects)

/-- The policy of a run: the built-in one with the user's put over it and without the elements that
are denied. -/
def policy (outside : Outside m) (options : RunOptions) : ExceptT RunFailure m PolicySpec := do
  let user ← userPolicy outside options
  let merged := PolicySpec.builtIn.mergeOptional user
  let policy ← (noted outside options (merged.deny options.deny) : m PolicySpec)
  return if options.trace then { policy with verbose := some true } else policy

def markup (outside : Outside m) (options : RunOptions) : ExceptT RunFailure m Text :=
  match options.input with
  | some path => orFail (.unreadableInput (some path)) (outside.readFile path)
  | none => orFail (.unreadableInput none) outside.readInput

def compiled (outside : Outside m) (options : RunOptions) (policy : PolicySpec) :
    ExceptT RunFailure m Policy := do
  match ← (noted outside options policy.compile : m _) with
  | .ok compiled => return compiled
  | .error error => throw (.uncompiledPolicy error)

/-- Opens the audit log, if there is one. -/
def openLog (outside : Outside m) (options : RunOptions) : ExceptT RunFailure m Unit :=
  match options.auditLog with
  | some path => orFail (.unopenedLog path) (outside.openToAppend path)
  | none => pure ()

def sanitized (outside : Outside m) (options : RunOptions) (compiled : Policy) (raw : Text) :
    ExceptT RunFailure m Sanitized := do
  let result := (Sanitizer.ofPolicy Html.parseFragment compiled).sanitize raw
  match ← (noted outside options result : m _) with
  | .ok output => return output
  | .error failure => throw (.refusedInput failure)

/-- The warning about a result with nothing in it. -/
def nothingLeft : Text := "Nothing in the input survived sanitization."

/-- The line about a file that is written. -/
def writingLine (path : Text) : Text := "Writing sanitized content to file: " ++ path

/-- Writes a text and the end of its line to where the output goes. -/
def deliver (outside : Outside m) (options : RunOptions) (text : Text) :
    ExceptT RunFailure m Unit := do
  match options.output with
  | some path =>
    if !options.quiet then (showStatus outside .info (writingLine path) : m Unit)
    orFail (.uncreatedOutput path) (outside.create path)
    orFail .unwrittenOutput (outside.append path (text ++ ['\n']))
  | none => orFail .unwrittenOutput (outside.print (text ++ ['\n']))

def perform (outside : Outside m) (options : RunOptions) : ExceptT RunFailure m Unit := do
  let policy ← policy outside options
  let raw ← markup outside options
  let compiled ← compiled outside options policy
  openLog outside options
  let result ← sanitized outside options compiled raw
  if result.markup.isEmpty && !(Text.trim raw).isEmpty && !options.quiet then
    (showStatus outside .warning nothingLeft : m Unit)
  deliver outside options (result.render options.format)

/-- The exit code of a run with some options. -/
def exitCode (outside : Outside m) (options : RunOptions) : m Nat := do
  match ← (perform outside options).run with
  | .ok () => return 0
  | .error failure =>
    showStatus outside .error failure.message
    return 1

/-- The exit code of a run with some arguments. `usualPolicy` is the policy file of a run that names
none. -/
def execute (outside : Outside m) (usualPolicy : Option Text) (arguments : List Text) : m Nat := do
  match RunOptions.ofArguments arguments with
  | .ok options =>
    exitCode outside { options with policy := options.policy.or usualPolicy }
  | .error stop =>
    if stop.isAnswer then
      let _ ← outside.print stop.message
      return 0
    else
      outside.report stop.message
      return 2

end Run
end SafeMarkup
