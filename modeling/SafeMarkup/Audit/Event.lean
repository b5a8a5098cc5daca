import SafeMarkup.Digest
import SafeMarkup.Report
import SafeMarkup.Value.Json

/-!
Contract: decisions as they are recorded, and logs of them.

An event is a decision with the time it was made and a digest of its input. A log holds one JSON
object a line; a line that cannot be written is lost with a warning, and nothing else changes.
-/

namespace SafeMarkup

/-- A decision as it is recorded. -/
structure AuditEvent where
  timestamp : Text
  accepted : Bool
  rule : Text
  input : Text
  output : Text
  inputHash : Text
deriving DecidableEq, Repr

namespace AuditEvent

/-- The event of a decision at some time. -/
def ofDecision (timestamp : Text) (decision : Decision) : AuditEvent :=
  ⟨timestamp, decision.accepted, decision.rule, decision.input, decision.output,
    Digest.sha256 decision.input⟩

def encode (event : AuditEvent) : Value :=
  .record [("timestamp", .string event.timestamp), ("accepted", .bool event.accepted),
    ("rule", .string event.rule), ("input", .string event.input),
    ("output", .string event.output), ("input_hash", .string event.inputHash)]

/-- An event as a line of JSON, without its end. -/
def toLine (event : AuditEvent) : Text := Value.Json.write event.encode

/-- The names of the fields of an event. -/
def fieldNames : List Text := ["timestamp", "accepted", "rule", "input", "output", "input_hash"]

/-- The value of a field that has to come exactly once. -/
def onlyField? (name : Text) (fields : List (Text × Value)) : Option Value :=
  match fields.filter fun (key, _) => key = name with
  | [(_, value)] => some value
  | _ => none

/-- An event from the entries of a record. Other entries are ignored. -/
def ofFields? (fields : List (Text × Value)) : Option AuditEvent := do
  let timestamp ← (onlyField? "timestamp" fields).bind Value.asString?
  let accepted ← (onlyField? "accepted" fields).bind Value.asBool?
  let rule ← (onlyField? "rule" fields).bind Value.asString?
  let input ← (onlyField? "input" fields).bind Value.asString?
  let output ← (onlyField? "output" fields).bind Value.asString?
  let inputHash ← (onlyField? "input_hash" fields).bind Value.asString?
  return ⟨timestamp, accepted, rule, input, output, inputHash⟩

/-- An event from data: a record, or the values of its fields in order. -/
def decode? : Value → Option AuditEvent
  | .record fields => ofFields? fields
  | .list items =>
    if items.length = fieldNames.length then ofFields? (fieldNames.zip items) else none
  | _ => none

def ofLine? (line : Text) : Option AuditEvent :=
  (Value.Json.readWanted fieldNames.contains line).bind decode?

end AuditEvent

/-! ## Logs -/

/-- A place that text can be written to as a whole or not at all. -/
structure Sink where
  written : Text
  /-- The greatest number of bytes it holds, if there is one. -/
  limit : Option Nat
deriving DecidableEq, Repr

namespace Sink

def unlimited : Sink := ⟨[], none⟩

/-- The sink after a write, if it took it. -/
def write? (text : Text) (sink : Sink) : Option Sink :=
  let written := sink.written ++ text
  if sink.limit.all fun limit => written.byteSize ≤ limit then some { sink with written } else none

/-- The warning about an event that was lost for some reason. -/
def lostLine (reason : Text) : Text := "Failed to write audit event: " ++ reason

/-- The warning about an event that did not fit. -/
def fullLine : Text := lostLine "full"

/-- Writes an event and the end of its line. -/
def record (event : AuditEvent) (sink : Sink) : Reported Sink :=
  let lost : Note := .warning .audit fullLine
  match sink.write? event.toLine with
  | none => ⟨sink, [lost]⟩
  | some begun =>
    match begun.write? ['\n'] with
    | none => ⟨begun, [lost]⟩
    | some ended => ⟨ended, []⟩

def recordAll : List AuditEvent → Sink → Reported Sink
  | [], sink => pure sink
  | event :: events, sink => do
    let sink ← record event sink
    recordAll events sink

def summary : Text := "JsonLinesAuditSink \x7b .. \x7d"

end Sink
end SafeMarkup
