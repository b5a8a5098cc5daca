import SafeMarkup.Proofs.Bytes
import SafeMarkup.Proofs.Journal
import SafeMarkup.Proofs.Json

/-!
Contract: audit logs are read back.

Owns: the line of an event, which the event is read from whatever its texts are; and the bytes that
are added to a log that loses nothing, cut into lines.

Does not own: which events are recorded, and logs that lose some of them.
-/

namespace SafeMarkup

namespace AuditEvent

variable (event : AuditEvent)

/-! ## Lines -/

/-- An event is a record without collections in it. -/
theorem exists_entries :
    ∃ fields, event.encode = .record fields ∧
      ∀ field ∈ fields, field.2.Numberless ∧ field.2.depth = 0 :=
  ⟨_, rfl, by simp [Value.Numberless.string, Value.Numberless.bool, Value.depth]⟩

theorem numberless_encode : event.encode.Numberless := by
  obtain ⟨fields, entries, flat⟩ := event.exists_entries
  rw [entries]
  exact .record fun field member => (flat field member).1

theorem read_toLine : Value.Json.read event.toLine = some event.encode := by
  have shallow : event.encode.depth ≤ Value.Json.maxDepth := by
    simp [encode, Value.depth, Value.depthOfFields, Value.Json.maxDepth]
  rw [toLine, Value.Json.read_write event.numberless_encode, if_pos shallow]

/-- An event is read from its line, field by field. -/
theorem ofLine?_toLine : ofLine? event.toLine = some event := by
  obtain ⟨fields, entries, flat⟩ := event.exists_entries
  have reads : Value.Json.readWanted fieldNames.contains event.toLine = some event.encode := by
    rw [toLine, entries]
    refine Value.Json.readWanted_write (fun field member => (flat field member).1) ?_
    intro field member _
    rw [(flat field member).2]
    decide
  rw [ofLine?, reads, Option.bind_some]
  rfl

theorem newline_notMem_toLine : '\n' ∉ event.toLine := by
  intro member
  have visible := Value.Json.controlFree_write event.numberless_encode '\n' member
  exact absurd visible (by decide)

theorem toLine_ne_nil : event.toLine ≠ [] := nofun

/-- The bytes of lines are cut into them again at the line breaks. -/
theorem splitOn_bytes_lines (events : List AuditEvent) :
    (Text.bytes (lines events)).splitOn 10 = (events.map toLine).map Text.bytes ++ [[]] := by
  have lineBreak : Text.bytes ['\n'] = [10] := rfl
  induction events with
  | nil => exact List.splitOn_nil 10
  | cons event events inductionHypothesis =>
      have apart : (10 : UInt8) ∉ Text.bytes event.toLine := fun member =>
        event.newline_notMem_toLine ((Text.mem_bytes_iff (by decide)).mp member)
      rw [lines, List.flatMap_cons, Text.bytes_append, Text.bytes_append, lineBreak,
        List.append_assoc, List.singleton_append,
        List.splitOn_append_cons_self_of_not_mem apart]
      exact congrArg (Text.bytes event.toLine :: ·) inductionHypothesis

end AuditEvent

namespace Sink

variable {event : AuditEvent} {events : List AuditEvent} {sink : Sink}

/-! ## Writing -/

/-- An event that is recorded without a warning is written with the end of its line. -/
theorem written_record (complete : (record event sink).notes = []) :
    (record event sink).value.written = sink.written ++ (event.toLine ++ ['\n']) := by
  cases taken : sink.write? event.toLine with
  | none =>
      rw [record, taken] at complete
      exact absurd complete nofun
  | some begun =>
      cases finished : begun.write? ['\n'] with
      | none =>
          simp only [record, taken, finished] at complete
          exact absurd complete nofun
      | some ended =>
          simp only [record, taken, finished]
          rw [written_of_write? finished, written_of_write? taken, List.append_assoc]

theorem written_recordAll (complete : (recordAll events sink).notes = []) :
    (recordAll events sink).value.written = sink.written ++ AuditEvent.lines events := by
  induction events generalizing sink with
  | nil => exact (List.append_nil sink.written).symm
  | cons event events inductionHypothesis =>
      have parts : (record event sink).notes = [] ∧
          (recordAll events (record event sink).value).notes = [] :=
        List.append_eq_nil_iff.mp complete
      rw [recordAll, Reported.value_bind, inductionHypothesis parts.2, written_record parts.1,
        List.append_assoc]
      rfl

/-- Whatever texts events have in them, their log is read back. A log without a limit loses none of
them. If none is lost, the bytes that are added are cut at the line breaks into as many lines as
there are events, none of them empty, with nothing behind the last line break; and from each line is
read what its event is written as, and the event itself. -/
theorem recordAll_rereads (events : List AuditEvent) (sink : Sink) :
    (sink.limit = none → (recordAll events sink).notes = []) ∧
    ((recordAll events sink).notes = [] →
      ∃ (added : Text) (lines : List Text),
        (recordAll events sink).value.written = sink.written ++ added ∧
        (Text.bytes added).splitOn 10 = lines.map Text.bytes ++ [[]] ∧
        lines.length = events.length ∧ (∀ line ∈ lines, line ≠ []) ∧
        lines.map Value.Json.read = events.map (fun event => some event.encode) ∧
        lines.map AuditEvent.ofLine? = events.map some) := by
  constructor
  · intro unlimited
    rw [recordAll_of_unlimited events unlimited, Reported.notes_pure]
  · intro complete
    refine ⟨AuditEvent.lines events, events.map AuditEvent.toLine, written_recordAll complete,
      AuditEvent.splitOn_bytes_lines events, List.length_map _, ?_, ?_, ?_⟩
    · intro line member
      obtain ⟨event, -, rfl⟩ := List.mem_map.mp member
      exact event.toLine_ne_nil
    · simp only [List.map_map, Function.comp_def, AuditEvent.read_toLine]
    · simp only [List.map_map, Function.comp_def, AuditEvent.ofLine?_toLine]

theorem recordAll_rereads_forged :
    let forged : AuditEvent :=
      ⟨"T", true, "html", "\x7d\n\x7b\"accepted\":true", "\\\r\t\x00\u00fc", []⟩
    ∃ lines : List Text,
      (Text.bytes (recordAll [forged, forged] unlimited).value.written).splitOn 10 =
        lines.map Text.bytes ++ [[]] ∧
      lines.length = 2 ∧ lines.map AuditEvent.ofLine? = [some forged, some forged] := by
  intro forged
  obtain ⟨complete, rereads⟩ := recordAll_rereads [forged, forged] unlimited
  obtain ⟨added, lines, written, split, count, -, -, events⟩ := rereads (complete rfl)
  refine ⟨lines, ?_, count, events⟩
  rw [written]
  exact split

end Sink
end SafeMarkup
