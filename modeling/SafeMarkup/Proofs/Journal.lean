import SafeMarkup.Audit.Event
import SafeMarkup.Html.Parser
import SafeMarkup.Proofs.Forest
import SafeMarkup.Proofs.Trail
import SafeMarkup.Sanitizer.Basic

/-!
Contract: what a whole call adds to the audit trail.

Owns: the decisions of the passes of a call, all of which are about refused values; the events they
become, in their order; and what a log has in it afterwards.

Does not own: single checks, and the form of a line in a log.
-/

namespace SafeMarkup

open Reported

/-! ## Passes -/

namespace Reported

variable {α β : Type}

/-- Only refused values are recorded. -/
def Refusing (reported : Reported α) : Prop :=
  ∀ decision ∈ reported.decisions, decision.Refuses

theorem refusing_of_silent {reported : Reported α} (silent : reported.decisions = []) :
    reported.Refusing := by
  intro decision member
  rw [silent] at member
  exact absurd member List.not_mem_nil

theorem Candid.refusing {quiet : Bool} {bad : α → Prop} {reported : Reported α}
    (candid : reported.Candid quiet bad) : reported.Refusing := by
  intro decision member
  exact (candid decision member).2.2

theorem Refusing.bind {first : Reported α} {next : α → Reported β} (before : first.Refusing)
    (after : (next first.value).Refusing) : (first >>= next).Refusing := by
  intro decision member
  rcases mem_decisions_bind.mp member with here | later
  · exact before decision here
  · exact after decision later

end Reported

theorem decisions_prepareWithin (left : Nat) (markup : Text) :
    (prepareWithin left markup).decisions = [] := by
  induction left generalizing markup with
  | zero => rfl
  | succ left inductionHypothesis =>
      rw [prepareWithin]
      split
      · rfl
      · rw [decisions_bind, inductionHypothesis]
        rfl

theorem Fragment.decisions_report (fragment : Fragment) : fragment.report.decisions = [] := by
  simp [report, decisions, Note.decision?, List.filterMap_append, Function.comp_def]

namespace Policy

variable (policy : Policy) (site : Site)

theorem decisions_rewrite (tag : Tag) : (policy.rewrite tag).decisions = [] := by
  unfold rewrite
  split
  · rfl
  · rw [decisions_bind, decisions_noteIf_trace]
    rfl

theorem refusing_judge (tag : Tag) : (policy.judge site tag).Refusing := by
  unfold judge
  split
  · refine refusing_of_silent ?_
    rw [decisions_bind, decisions_noteIf_trace]
    rfl
  · refine Refusing.bind ?_ (refusing_of_silent rfl)
    exact (Chain.candid_check (Validator.candid_checkChain _)).refusing

theorem refusing_clear (nodes : List Node) : (policy.clear site nodes).Refusing := by
  induction nodes using Node.forest_induction with
  | nil => exact refusing_of_silent rfl
  | text content rest inductionHypothesis =>
      rw [clear, clearNode]
      exact (refusing_of_silent rfl).bind (inductionHypothesis.bind (refusing_of_silent rfl))
  | element tag children rest childHypothesis restHypothesis =>
      rw [clear, clearNode]
      refine Refusing.bind ?_ (restHypothesis.bind (refusing_of_silent rfl))
      refine (refusing_of_silent (policy.decisions_rewrite tag)).bind ?_
      refine (policy.refusing_judge site _).bind ?_
      obtain ⟨kept, judged⟩ := (policy.judge site (policy.rewrite tag).value).value
      cases kept with
      | true => exact childHypothesis.bind (refusing_of_silent rfl)
      | false => exact refusing_of_silent rfl

end Policy

namespace Sanitizer

variable (sanitizer : Sanitizer)

theorem refusing_filter (markup : Text) : (sanitizer.filter markup).Refusing := by
  have cleared := sanitizer.policy.refusing_clear sanitizer.site
    (sanitizer.parse markup).report.value
  refine (refusing_of_silent (Fragment.decisions_report _)).bind ?_
  exact (cleared.bind (refusing_of_silent rfl)).bind (refusing_of_silent rfl)

theorem refusing_convergeWithin (left : Nat) (markup : Text) :
    (sanitizer.convergeWithin left markup).Refusing := by
  induction left generalizing markup with
  | zero => exact refusing_of_silent rfl
  | succ left inductionHypothesis =>
      rw [convergeWithin]
      refine (refusing_of_silent (decisions_prepareWithin _ _)).bind ?_
      split
      case h_1 => exact refusing_of_silent rfl
      case h_2 source _ =>
        refine (sanitizer.refusing_filter source).bind ?_
        split
        · exact refusing_of_silent rfl
        · exact (refusing_of_silent rfl).bind (inductionHypothesis _)

/-- The decision about the whole input comes behind all others. -/
theorem decisions_sanitize (raw : Text) :
    (sanitizer.sanitize raw).decisions =
      (sanitizer.converge raw).decisions ++ [callDecision raw (sanitizer.sanitize raw).value] := by
  rw [sanitize, decisions_bind]
  rfl

end Sanitizer

/-! ## Events -/

/-- The events of decisions, each with the time it was made at. -/
def Reported.events {α : Type} (times : Nat → Text) (reported : Reported α) : List AuditEvent :=
  reported.decisions.mapIdx fun place decision => .ofDecision (times place) decision

/-- A log after a run, with the warnings about events that were lost. -/
def Reported.logged {α : Type} (times : Nat → Text) (sink : Sink) (reported : Reported α) :
    Reported Sink :=
  Sink.recordAll (reported.events times) sink

namespace AuditEvent

/-- An event about a single value, which was refused. -/
structure Refuses (event : AuditEvent) : Prop where
  refused : event.accepted = false
  line : ∃ rest, event.rule = '<' :: rest

/-- An event about a whole call on some input. -/
structure Closes (raw : Text) (result : Except NonConvergence Sanitized) (event : AuditEvent) :
    Prop where
  rule : event.rule = "html"
  input : event.input = raw
  accepted : event.accepted = true ↔ ∃ output, result = .ok output
  markup : ∀ output, result = .ok output → event.output = output.markup
  message : ∀ failure, result = .error failure → event.output = failure.message

theorem closes_callDecision (time raw : Text) (result : Except NonConvergence Sanitized) :
    (ofDecision time (Sanitizer.callDecision raw result)).Closes raw result := by
  cases result with
  | ok output =>
      refine ⟨rfl, rfl, ⟨fun _ => ⟨output, rfl⟩, fun _ => rfl⟩, ?_, nofun⟩
      intro other same
      exact congrArg Sanitized.markup (Except.ok.inj same)
  | error failure =>
      refine ⟨rfl, rfl, ⟨nofun, fun ⟨_, same⟩ => absurd same nofun⟩, nofun, ?_⟩
      intro other same
      exact congrArg NonConvergence.message (Except.error.inj same)

/-- The lines of events, as a log holds them. -/
def lines (events : List AuditEvent) : Text := events.flatMap fun event => event.toLine ++ ['\n']

end AuditEvent

namespace Sink

theorem written_of_write? {text : Text} {sink next : Sink} (taken : sink.write? text = some next) :
    next.written = sink.written ++ text := by
  obtain ⟨_, same⟩ := Option.ite_none_right_eq_some.mp taken
  exact congrArg written (Option.some.inj same).symm

theorem prefix_record (event : AuditEvent) (sink : Sink) :
    sink.written <+: (record event sink).value.written := by
  unfold record
  split
  case h_1 => exact List.prefix_rfl
  case h_2 begun taken =>
    have started : sink.written <+: begun.written := by
      rw [written_of_write? taken]
      exact List.prefix_append ..
    split
    case h_1 => exact started
    case h_2 ended finished =>
      rw [written_of_write? finished]
      exact started.trans (List.prefix_append ..)

/-- What a log holds stays in it. -/
theorem prefix_recordAll (events : List AuditEvent) (sink : Sink) :
    sink.written <+: (recordAll events sink).value.written := by
  induction events generalizing sink with
  | nil => exact List.prefix_rfl
  | cons event events inductionHypothesis =>
      rw [recordAll, value_bind]
      exact (prefix_record event sink).trans (inductionHypothesis _)

/-- A log without a limit takes every event. -/
theorem recordAll_of_unlimited (events : List AuditEvent) {sink : Sink}
    (unlimited : sink.limit = none) :
    recordAll events sink =
      pure { sink with written := sink.written ++ AuditEvent.lines events } := by
  obtain ⟨written, limit⟩ := sink
  subst unlimited
  induction events generalizing written with
  | nil => exact congrArg (fun text => pure (Sink.mk text none)) (List.append_nil written).symm
  | cons event events inductionHypothesis =>
      have recorded : record event ⟨written, none⟩ =
          pure ⟨written ++ event.toLine ++ ['\n'], none⟩ := rfl
      rw [recordAll, recorded, pure_bind, inductionHypothesis]
      simp [AuditEvent.lines]

theorem recordAll_concat (events : List AuditEvent) (last : AuditEvent) (sink : Sink) :
    recordAll (events ++ [last]) sink = recordAll events sink >>= record last := by
  induction events generalizing sink with
  | nil => exact bind_pure (record last sink)
  | cons event events inductionHypothesis =>
      rw [List.cons_append, recordAll, recordAll, bind_assoc]
      exact bind_congr inductionHypothesis

end Sink

/-- A call is recorded once, behind values that its passes refused. -/
theorem Sanitizer.exists_events (sanitizer : Sanitizer) (raw : Text) (times : Nat → Text) :
    ∃ refusals last, (sanitizer.sanitize raw).events times = refusals ++ [last] ∧
      (∀ refusal ∈ refusals, refusal.Refuses) ∧
      last.Closes raw (sanitizer.sanitize raw).value := by
  let ended := times (sanitizer.converge raw).decisions.length
  refine ⟨(sanitizer.converge raw).events times,
    .ofDecision ended (callDecision raw (sanitizer.sanitize raw).value), ?_, ?_, ?_⟩
  · rw [events, decisions_sanitize, List.mapIdx_concat]
    rfl
  -- An event tells what its decision does, whenever it was made.
  · intro refusal member
    obtain ⟨place, inside, rfl⟩ := List.mem_mapIdx.mp member
    obtain ⟨refused, line⟩ :=
      sanitizer.refusing_convergeWithin filterPasses raw _ (List.getElem_mem inside)
    exact ⟨refused, line⟩
  · exact AuditEvent.closes_callDecision ended raw _

/-- A call adds refused values to the trail, and behind them itself. Whatever a log holds before
stays in it; with a limit, it may lose some of the new events. A check of a tag records nothing
unless it finds a value invalid, and nothing at all if it is quiet. -/
theorem Sanitizer.sanitize_recorded :
    (∀ (sanitizer : Sanitizer) (raw : Text) (times : Nat → Text), ∃ refusals last,
      (sanitizer.sanitize raw).events times = refusals ++ [last] ∧
      (∀ refusal ∈ refusals, refusal.Refuses) ∧
      last.Closes raw (sanitizer.sanitize raw).value ∧
      ∀ sink : Sink,
        (sanitizer.sanitize raw).logged times sink =
          Sink.recordAll refusals sink >>= Sink.record last ∧
        sink.written <+: ((sanitizer.sanitize raw).logged times sink).value.written ∧
        (sink.limit = none → ((sanitizer.sanitize raw).logged times sink).value.written =
          sink.written ++ AuditEvent.lines (refusals ++ [last]))) ∧
    ∀ (equivalents : Equivalents) (quiet : Bool) (environment : Environment)
      (chain : List (List (Text × Validator))) (tag : Tag),
      let checked := Chain.check equivalents quiet environment (Validator.checkChain chain) tag
      (checked.value.1 = .accepted ∨ checked.value.1 = .exhausted → checked.decisions = []) ∧
      (quiet = true → checked.decisions = []) := by
  constructor
  · intro sanitizer raw times
    obtain ⟨refusals, last, recorded, refused, closes⟩ := sanitizer.exists_events raw times
    refine ⟨refusals, last, recorded, refused, closes, ?_⟩
    intro sink
    rw [logged, recorded]
    refine ⟨Sink.recordAll_concat refusals last sink, Sink.prefix_recordAll _ sink, ?_⟩
    intro unlimited
    rw [Sink.recordAll_of_unlimited _ unlimited, value_pure]
  · intro equivalents quiet environment chain tag checked
    have candid : checked.Candid quiet (·.1 = .invalid) :=
      Chain.candid_check (Validator.candid_checkChain chain)
    constructor
    · rintro (accepted | exhausted)
      · exact candid.silent_of_not (by simp [accepted])
      · exact candid.silent_of_not (by simp [exhausted])
    · rintro rfl
      exact candid.silent_of_quiet

-- Paragraphs may have no class: one that does is dropped, and recorded before the call is.
example :
    let hostile : OptionsSpec := ⟨false, none, true, none, none, false⟩
    let paragraph : RuleSetSpec := [("class", .simple hostile .text)]
    let policy : PolicySpec := { PolicySpec.empty with elements := [("p", [paragraph])] }
    ((Sanitizer.ofPolicy Html.parseFragment policy.compiled).sanitize "<p class=x>y").decisions =
      [⟨false, "<p class=\"x\" : \"x\" ~ text>", "x", "x"⟩, ⟨true, "html", "<p class=x>y", []⟩] := by
  decide +kernel

end SafeMarkup
