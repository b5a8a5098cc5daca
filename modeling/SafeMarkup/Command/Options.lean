import SafeMarkup.Dictionary

/-!
Contract: options from a command line.

Owns: which arguments are options, how values are attached to them, what is wrong with the rest.
Does not own: what the options do.

A value may follow its option as the next argument. It is looked at when the next option comes or
the line ends, so an argument that is no option at all is told first.
-/

namespace SafeMarkup

/-- The form a result is written in. -/
inductive OutputFormat where
  | html
  | text
  | json
deriving DecidableEq, Repr

def OutputFormat.ofName? (name : Text) : Option OutputFormat :=
  if name = "html" then some .html
  else if name = "text" then some .text
  else if name = "json" then some .json
  else none

/-- Options that have a value. -/
inductive ValueOption where
  | input
  | output
  | policy
  | deny
  | format
  | auditLog
deriving DecidableEq, Repr

/-- Options that have none. -/
inductive Switch where
  | trace
  | quiet
  | debug
  | help
  | version
deriving DecidableEq, Repr

/-- Why a command line is no run. -/
inductive UsageStop where
  /-- A value is missing, empty or not one of the possible ones. -/
  | invalidValue
  | unknownArgument
  /-- An option came twice. -/
  | repeatedOption
  /-- A value was attached to an option that has none. -/
  | unneededValue
  /-- Help was asked for. -/
  | help
  /-- The version was asked for. -/
  | version
deriving DecidableEq, Repr

/-- What a run is asked to do. -/
structure RunOptions where
  input : Option Text
  output : Option Text
  policy : Option Text
  deny : List Text
  chosenFormat : Option OutputFormat
  auditLog : Option Text
  trace : Bool
  quiet : Bool
  debug : Bool
deriving DecidableEq, Repr

namespace RunOptions

def usual : RunOptions := ⟨none, none, none, [], none, none, false, false, false⟩

def format (options : RunOptions) : OutputFormat := options.chosenFormat.getD .html

def long? (name : Text) : Option (ValueOption ⊕ Switch) :=
  if name = "input" then some (.inl .input)
  else if name = "output" then some (.inl .output)
  else if name = "policy" then some (.inl .policy)
  else if name = "deny" then some (.inl .deny)
  else if name = "format" then some (.inl .format)
  else if name = "audit-log" then some (.inl .auditLog)
  else if name = "trace" then some (.inr .trace)
  else if name = "quiet" then some (.inr .quiet)
  else if name = "debug" then some (.inr .debug)
  else if name = "help" then some (.inr .help)
  else if name = "version" then some (.inr .version)
  else none

def short? (letter : Char) : Option (ValueOption ⊕ Switch) :=
  if letter = 'i' then some (.inl .input)
  else if letter = 'o' then some (.inl .output)
  else if letter = 'f' then some (.inl .format)
  else if letter = 'q' then some (.inr .quiet)
  else if letter = 'd' then some (.inr .debug)
  else if letter = 'h' then some (.inr .help)
  else if letter = 'V' then some (.inr .version)
  else none

/-- A path that is set for the first time. -/
def setPath (old : Option Text) (value : Text) : Except UsageStop (Option Text) :=
  if old.isSome then .error .repeatedOption
  else if value.isEmpty then .error .invalidValue
  else .ok (some value)

/-- Sets an option that has a value. Only the elements to deny may be given more than once. -/
def setValue (option : ValueOption) (value : Text) (options : RunOptions) :
    Except UsageStop RunOptions :=
  match option with
  | .input => return { options with input := ← setPath options.input value }
  | .output => return { options with output := ← setPath options.output value }
  | .policy => return { options with policy := ← setPath options.policy value }
  | .auditLog => return { options with auditLog := ← setPath options.auditLog value }
  | .deny => return { options with deny := options.deny ++ Text.splitOn [','] value }
  | .format =>
    if options.chosenFormat.isSome then .error .repeatedOption
    else match OutputFormat.ofName? value with
      | some format => .ok { options with chosenFormat := some format }
      | none => .error .invalidValue

/-- Sets an option that has no value. -/
def setSwitch (switch : Switch) (options : RunOptions) : Except UsageStop RunOptions :=
  match switch with
  | .trace => if options.trace then .error .repeatedOption else .ok { options with trace := true }
  | .quiet => if options.quiet then .error .repeatedOption else .ok { options with quiet := true }
  | .debug => if options.debug then .error .repeatedOption else .ok { options with debug := true }
  | .help => .error .help
  | .version => .error .version

end RunOptions

/-! ## Arguments -/

/-- A command line that is read in part. -/
structure ArgumentReader where
  options : RunOptions
  /-- The last option if it has a value, with the value if it has come. -/
  pending : Option (ValueOption × Option Text)

namespace ArgumentReader

def settle (reader : ArgumentReader) : Except UsageStop ArgumentReader :=
  match reader.pending with
  | none => .ok reader
  | some (_, none) => .error .invalidValue
  | some (option, some value) => do
    let options ← reader.options.setValue option value
    return ⟨options, none⟩

/-- Takes an option that has a value. -/
def takeValueOption (option : ValueOption) (attached : Option Text) (reader : ArgumentReader) :
    Except UsageStop ArgumentReader := do
  let reader ← reader.settle
  match attached with
  | some value => return ⟨← reader.options.setValue option value, none⟩
  | none => return ⟨reader.options, some (option, none)⟩

/-- Takes an option that has no value. -/
def takeSwitch (switch : Switch) (reader : ArgumentReader) : Except UsageStop ArgumentReader := do
  let reader ← reader.settle
  return ⟨← reader.options.setSwitch switch, none⟩

/-- Takes a long option, with what stands behind its equals sign. -/
def takeLong (name : Text) (attached : Option Text) (reader : ArgumentReader) :
    Except UsageStop ArgumentReader :=
  match RunOptions.long? name with
  | none => .error .unknownArgument
  | some (.inl option) => reader.takeValueOption option attached
  | some (.inr switch) =>
    if attached.isSome then .error .unneededValue else reader.takeSwitch switch

/-- Takes letters. What follows a letter that has a value is the value. -/
def takeLetters : Text → ArgumentReader → Except UsageStop ArgumentReader
  | [], reader => .ok reader
  | letter :: rest, reader =>
    match RunOptions.short? letter with
    | none => .error .unknownArgument
    | some (.inr switch) => do
      let reader ← reader.takeSwitch switch
      takeLetters rest reader
    | some (.inl option) =>
      reader.takeValueOption option (match rest with
        | [] => none
        | '=' :: value => some value
        | value => some value)

/-- Takes an argument that does not look like an option: the value of the last option. -/
def takeOther (argument : Text) (reader : ArgumentReader) : Except UsageStop ArgumentReader :=
  match reader.pending with
  | some (option, none) => .ok { reader with pending := some (option, some argument) }
  | _ => .error .unknownArgument

def take (argument : Text) (reader : ArgumentReader) : Except UsageStop ArgumentReader :=
  match argument with
  | '-' :: '-' :: long =>
    match Text.splitOnce '=' long with
    | some (name, value) => reader.takeLong name (some value)
    | none => reader.takeLong long none
  | '-' :: letter :: letters => reader.takeLetters (letter :: letters)
  | other => reader.takeOther other

/-- Takes arguments to the end. Nothing may stand behind two hyphens. -/
def takeAll : List Text → ArgumentReader → Except UsageStop ArgumentReader
  | [], reader => reader.settle
  | argument :: arguments, reader =>
    if argument = ['-', '-'] then
      if arguments.isEmpty then reader.settle else .error .unknownArgument
    else do
      let reader ← reader.take argument
      takeAll arguments reader

end ArgumentReader

def RunOptions.ofArguments (arguments : List Text) : Except UsageStop RunOptions := do
  let reader ← (ArgumentReader.mk .usual none).takeAll arguments
  return reader.options

end SafeMarkup
