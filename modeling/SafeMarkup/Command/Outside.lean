import SafeMarkup.Dictionary

/-!
Contract: what a run needs from outside of it.

Owns: the operations on files and streams, why they fail, and a model of them as state.
Does not own: the operations of a real system.
-/

namespace SafeMarkup

/-- Why an operation on a file fails. -/
inductive FileFault where
  | missing
  | directory
  | notDirectory
  | denied
  /-- The bytes are not text. -/
  | notText
  | full
  | other (message : Text)
deriving DecidableEq, Repr

def FileFault.message : FileFault → Text
  | .missing => "No such file or directory (os error 2)"
  | .directory => "Is a directory (os error 21)"
  | .notDirectory => "Not a directory (os error 20)"
  | .denied => "Permission denied (os error 13)"
  | .notText => "stream did not contain valid UTF-8"
  | .full => "No space left on device (os error 28)"
  | .other message => message

/-- The outside of a run, in some monad. -/
structure Outside (m : Type → Type) where
  readFile : Text → m (Except FileFault Text)
  readInput : m (Except FileFault Text)
  /-- Opens a file to write behind what it holds, or makes it. -/
  openToAppend : Text → m (Except FileFault Unit)
  /-- Makes a file or empties it. -/
  create : Text → m (Except FileFault Unit)
  /-- Writes behind what a file holds that was opened or made before. -/
  append : Text → Text → m (Except FileFault Unit)
  /-- Writes to the standard output. -/
  print : Text → m (Except FileFault Unit)
  /-- Writes to the standard error stream. -/
  report : Text → m Unit
  /-- The time as audit logs hold it. -/
  now : m Text
  /-- Whether colours are seen on the standard error stream. -/
  inColour : m Bool

/-! ## As state -/

/-- An operation on a file. -/
inductive Access where
  | read
  | openToAppend
  | create
  | append
deriving DecidableEq, Repr

/-- What a path leads to. -/
inductive Target where
  | file (name : Text)
  /-- Holds nothing and takes everything. -/
  | sink
  /-- Takes nothing. -/
  | full
  | standardInput
  | standardOutput
  | standardError
deriving DecidableEq, Repr

/-- Files and streams as values. -/
structure Machine where
  files : Dictionary Text
  /-- What a path leads to, given the files there are, and why nothing can be done with it. -/
  locate : Dictionary Text → Access → Text → Except FileFault Target
  input : Except FileFault Text
  output : Text
  /-- Why nothing can be written to the standard output, if so. -/
  outputFault : Option FileFault
  errors : Text
  clock : Text

namespace Machine

/-- Does something with what a path leads to. -/
def onTarget {α : Type} (access : Access) (path : Text)
    (act : Target → StateM Machine (Except FileFault α)) : StateM Machine (Except FileFault α) := do
  let machine ← get
  match machine.locate machine.files access path with
  | .ok target => act target
  | .error fault => return .error fault

def setFile (name content : Text) : StateM Machine Unit :=
  modify fun machine => { machine with files := Dictionary.insert name content machine.files }

def contentOf (machine : Machine) (name : Text) : Text :=
  (Dictionary.get? name machine.files).getD []

def print (text : Text) : StateM Machine (Except FileFault Unit) := do
  match (← get).outputFault with
  | some fault => return .error fault
  | none =>
    modify fun machine => { machine with output := machine.output ++ text }
    return .ok ()

def report (text : Text) : StateM Machine Unit :=
  modify fun machine => { machine with errors := machine.errors ++ text }

def readTarget : Target → StateM Machine (Except FileFault Text)
  | .file name => do
    match Dictionary.get? name (← get).files with
    | some content => return .ok content
    | none => return .error .missing
  | .standardInput => do return (← get).input
  | _ => return .ok []

def appendTarget (text : Text) : Target → StateM Machine (Except FileFault Unit)
  | .file name => do
    setFile name ((← get).contentOf name ++ text)
    return .ok ()
  | .full => return .error .full
  | .standardOutput => print text
  | .standardError => do
    report text
    return .ok ()
  | _ => return .ok ()

/-- Sets what a file holds, given what it held before; other targets stay as they are. -/
def renewTarget (renew : Text → Text) : Target → StateM Machine (Except FileFault Unit)
  | .file name => do
    setFile name (renew ((← get).contentOf name))
    return .ok ()
  | _ => return .ok ()

def outside : Outside (StateM Machine) where
  readFile path := onTarget .read path readTarget
  readInput := do return (← get).input
  openToAppend path := onTarget .openToAppend path (renewTarget id)
  create path := onTarget .create path (renewTarget fun _ => [])
  append path text := onTarget .append path (appendTarget text)
  print := print
  report := report
  now := do return (← get).clock
  inColour := return false

/-! ## A directory of files -/

def devices : List (List Text × Target) :=
  [(["dev", "null"], .sink), (["dev", "full"], .full), (["dev", "stdin"], .standardInput),
   (["dev", "stdout"], .standardOutput), (["dev", "stderr"], .standardError)]

/-- Directories outside the one of the files. -/
def otherDirectories : List (List Text) :=
  [["dev"], ["etc"], ["home"], ["proc"], ["root"], ["tmp"], ["usr"], ["var"]]

/-- The fault of a path with a slash behind a name. A file is not made under such a path. -/
def slashFault (access : Access) (exists_ : Bool) : FileFault :=
  if access ≠ .read then .directory else if exists_ then .notDirectory else .missing

/-- What names lead to from the root. -/
def locateFromRoot (access : Access) (slash : Bool) (names : List Text) :
    Except FileFault Target :=
  if names.isEmpty ∨ names = [['.']] ∨ otherDirectories.contains names then .error .directory
  else match devices.lookup names with
    | some target => if slash then .error (slashFault access true) else .ok target
    | none =>
      if devices.any fun (device, _) => device.isPrefixOf names then .error .notDirectory
      else .error (if slash then slashFault access false else .missing)

/-- What names lead to from the directory of the files, which has no directories in it. -/
def locateFromHere (files : Dictionary Text) (access : Access) (slash : Bool) :
    List Text → Except FileFault Target
  | [] => .error .directory
  | [name] =>
    if name = ['.'] ∨ name = ['.', '.'] then .error .directory
    else if slash then .error (slashFault access (Dictionary.has name files))
    else .ok (.file name)
  | name :: _ => .error (if Dictionary.has name files then .notDirectory else .missing)

/-- What a path leads to in a directory that holds files only. Single dots and doubled slashes say
nothing. -/
def locateInFlat (files : Dictionary Text) (access : Access) (path : Text) :
    Except FileFault Target :=
  let parts := (Text.splitOn ['/'] path).filter fun name => !name.isEmpty
  let names := parts.dropLast.filter (· ≠ ['.']) ++ parts.getLast?.toList
  let slash := path.getLast? = some '/'
  if path.isEmpty then .error .missing
  else if path.head? = some '/' then locateFromRoot access slash names
  else locateFromHere files access slash names

/-- A machine with files in one directory and text at its standard input. -/
def ofFiles (files : Dictionary Text) (input clock : Text) : Machine :=
  ⟨files, locateInFlat, .ok input, [], none, [], clock⟩

end Machine
end SafeMarkup
