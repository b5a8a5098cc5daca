import SafeMarkup.Audit.Instant
import SafeMarkup.Command.Run
import Std.Time.DateTime.Timestamp

/-!
Contract: the program on a real system.

Owns: files, streams, the clock and the environment as operations.
Does not own: what is done with them.
-/

namespace SafeMarkup

/-- The fault that an error of the system is. Some operations give its code negated. -/
def FileFault.ofError : IO.Error → FileFault
  | .noFileOrDirectory .. => .missing
  | .permissionDenied .. => .denied
  | .inappropriateType _ code _ => if code = 20 || code + 20 = 0 then .notDirectory else .directory
  | .resourceExhausted _ code _ => if code = 28 then .full else .other "Resource exhausted"
  | error => .other (toString error).toList

/-- An operation with its fault as a value. -/
def caught {α : Type} (act : IO (Except FileFault α)) : IO (Except FileFault α) := do
  try act catch error => return .error (.ofError error)

def decoded (bytes : ByteArray) : Except FileFault Text :=
  match String.fromUTF8? bytes with
  | some text => .ok text.toList
  | none => .error .notText

/-- The text of a path as the system takes it. -/
def pathOf (path : Text) : String := String.ofList path

def systemOutside : Outside IO where
  readFile path := caught do return decoded (← IO.FS.readBinFile (pathOf path))
  readInput := caught do return decoded (← (← IO.getStdin).readBinToEnd)
  openToAppend path := caught do
    let _ ← IO.FS.Handle.mk (pathOf path) .append
    return .ok ()
  create path := caught do
    let _ ← IO.FS.Handle.mk (pathOf path) .write
    return .ok ()
  append path text := caught do
    let handle ← IO.FS.Handle.mk (pathOf path) .append
    handle.putStr (String.ofList text)
    return .ok ()
  print text := caught do
    let output ← IO.getStdout
    output.putStr (String.ofList text)
    output.flush
    return .ok ()
  report text := do (← IO.getStderr).putStr (String.ofList text)
  now := do
    let moment ← Std.Time.Timestamp.now
    let nanoseconds := moment.toNanosecondsSinceUnixEpoch.val.toNat
    return (Instant.mk (nanoseconds / 1000000000) (nanoseconds % 1000000000)).text
  inColour := do (← IO.getStderr).isTty

end SafeMarkup

def main (arguments : List String) : IO UInt32 := do
  let usualPolicy ← IO.getEnv "TRUSTEDHTML_POLICY"
  let code ← SafeMarkup.Run.execute SafeMarkup.systemOutside (usualPolicy.map String.toList)
    (arguments.map String.toList)
  return code.toUInt32
