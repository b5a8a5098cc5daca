import SafeMarkup.Proofs.Nesting

/-!
Contract: what is recorded while a value or a tag is checked.

Owns: the law of recording, which says that decisions are made aloud, are about refused values, and
never come with a result that is not itself invalid; and its proof for every kind of validator, with
whatever is nested in it, and for chains.

Does not own: that an invalid value is recorded at all, and what becomes of the decisions.
-/

namespace SafeMarkup

/-- A decision against a value, by the line about it. -/
structure Decision.Refuses (decision : Decision) : Prop where
  refused : decision.accepted = false
  line : ∃ rest, decision.rule = '<' :: rest

namespace Reported

variable {α β : Type} {quiet : Bool} {bad : α → Prop} {worse : β → Prop}

@[simp] theorem decisions_bind (first : Reported α) (next : α → Reported β) :
    (first >>= next).decisions = first.decisions ++ (next first.value).decisions :=
  List.filterMap_append

theorem mem_decisions_bind {first : Reported α} {next : α → Reported β} {decision : Decision} :
    decision ∈ (first >>= next).decisions ↔
      decision ∈ first.decisions ∨ decision ∈ (next first.value).decisions := by
  rw [decisions_bind]
  exact List.mem_append

@[simp] theorem decisions_noteIf_trace (condition : Bool) (line : Text) :
    (noteIf condition (.trace line)).decisions = [] := by
  cases condition <;> rfl

/-- Decisions are made aloud only, are about refused values, and only come with a bad result. -/
def Candid (quiet : Bool) (bad : α → Prop) (reported : Reported α) : Prop :=
  ∀ decision ∈ reported.decisions, quiet = false ∧ bad reported.value ∧ decision.Refuses

theorem candid_of_silent {reported : Reported α} (silent : reported.decisions = []) :
    reported.Candid quiet bad := by
  intro decision member
  rw [silent] at member
  exact absurd member List.not_mem_nil

theorem Candid.silent_of_quiet {reported : Reported α} (candid : reported.Candid true bad) :
    reported.decisions = [] := by
  apply List.eq_nil_iff_forall_not_mem.mpr
  intro decision member
  exact absurd (candid decision member).1 nofun

theorem Candid.silent_of_not {reported : Reported α} (candid : reported.Candid quiet bad)
    (good : ¬bad reported.value) : reported.decisions = [] := by
  apply List.eq_nil_iff_forall_not_mem.mpr
  intro decision member
  exact good (candid decision member).2.1

/-- A bad result of the first step makes the whole result bad: nothing that was recorded is
forgotten. -/
theorem Candid.bind {first : Reported α} {next : α → Reported β} (told : first.Candid quiet bad)
    (passed : bad first.value → worse (next first.value).value)
    (after : (next first.value).Candid quiet worse) : (first >>= next).Candid quiet worse := by
  intro decision member
  rcases mem_decisions_bind.mp member with here | later
  · obtain ⟨loud, badly, refuses⟩ := told decision here
    exact ⟨loud, passed badly, refuses⟩
  · exact after decision later

theorem Candid.after {first : Reported α} {next : α → Reported β}
    (candid : (next first.value).Candid quiet worse) (silent : first.decisions = []) :
    (first >>= next).Candid quiet worse := by
  intro decision member
  rw [decisions_bind, silent] at member
  exact candid decision member

theorem Candid.louder {reported : Reported α} {quietly : Bool}
    (candid : reported.Candid quietly bad) (louder : quietly = false → quiet = false) :
    reported.Candid quiet bad := by
  intro decision member
  obtain ⟨loud, badly, refuses⟩ := candid decision member
  exact ⟨louder loud, badly, refuses⟩

end Reported

open Reported

/-! ## Single values -/

def Check.Candid (check : Check) : Prop :=
  ∀ context raw, (check context raw).Candid context.quiet (· = .error .invalid)

def Core.Candid (core : Core) : Prop :=
  ∀ context raw value, (core context raw value).Candid context.quiet (· = .error .invalid)

theorem candid_reportRejection (kind : Text) (context : Context) (raw : Option Text) (value : Text)
    (rejection : Rejection) :
    (reportRejection kind context raw value rejection).Candid context.quiet
      (· = .error .invalid) := by
  unfold reportRejection
  split
  case isTrue => exact candid_of_silent rfl
  case isFalse speaking =>
    have loud : context.quiet = false :=
      (Bool.or_eq_false_iff.mp (Bool.eq_false_iff.mpr speaking)).1
    refine .after ?_ (decisions_noteIf_trace _ _)
    by_cases invalid : rejection = .invalid
    · subst invalid
      intro decision member
      obtain rfl := List.mem_singleton.mp member
      exact ⟨loud, rfl, rfl, _, rfl⟩
    · have unrecorded : (rejection == .invalid) = false := by simpa using invalid
      rw [unrecorded]
      exact candid_of_silent rfl

namespace Options

variable (options : Options) (kind : Text)

theorem candid_refuse (context : Context) (raw : Option Text) (value : Text) :
    (options.refuse kind context raw value).Candid context.quiet (· = .error .invalid) :=
  candid_reportRejection _ _ _ _ _

theorem candid_consider {core : Core} (candid : core.Candid) :
    Check.Candid (options.consider kind core) := by
  intro context raw
  cases raw with
  | none => exact options.candid_refuse kind context none []
  | some written =>
      rw [consider]
      split
      · exact options.candid_refuse kind context (some written) []
      · exact candid context written _

theorem candid_conclude (context : Context) (raw : Option Text) (value : Text) :
    (options.conclude kind context raw value).Candid context.quiet (· = .error .invalid) := by
  unfold conclude
  split
  · exact candid_reportRejection _ _ _ _ _
  · exact candid_of_silent rfl

theorem candid_check {core : Core} (candid : core.Candid) :
    Check.Candid (options.check kind core) := by
  intro context raw
  have considered := options.candid_consider kind candid context raw
  refine considered.bind ?_ ?_
  · intro invalid
    rw [invalid]
    rfl
  · split
    · exact options.candid_conclude kind context raw _
    · exact options.candid_conclude kind context raw _
    · exact candid_of_silent rfl

end Options

/-! ## Values of several parts -/

namespace Reported

/-- What is made of an accepted result makes no difference. -/
theorem Candid.map {α β : Type} {quiet : Bool} {reported : Reported (Except Rejection α)}
    (candid : reported.Candid quiet (· = .error .invalid)) (f : α → β) :
    Candid quiet (· = .error .invalid) (do return (← reported).map f) := by
  refine candid.bind ?_ (candid_of_silent rfl)
  intro invalid
  rw [invalid]
  rfl

end Reported

def Matching.Candid (matching : Matching) : Prop :=
  ∀ context parts, (matching context parts).Candid context.quiet (· = .error .invalid)

namespace Matching

variable {item : Check}

theorem candid_free (candid : item.Candid) : (free item).Candid := by
  intro context parts
  induction parts with
  | nil => exact candid_of_silent rfl
  | cons part parts inductionHypothesis =>
      rw [free]
      refine (candid context (some part)).bind ?_ ?_
      · intro invalid
        rw [invalid]
        rfl
      · split
        case h_1 value _ => exact inductionHypothesis.map (value :: ·)
        case h_2 => exact inductionHypothesis
        case h_3 => exact candid_of_silent rfl
        case h_4 => exact candid_of_silent rfl

theorem candid_all (candid : item.Candid) : (all item).Candid := by
  intro context parts
  induction parts with
  | nil => exact candid_of_silent rfl
  | cons part parts inductionHypothesis =>
      rw [all]
      refine (candid context (some part)).bind ?_ ?_
      · intro invalid
        rw [invalid]
        rfl
      · split
        case h_1 value _ => exact inductionHypothesis.map (value :: ·)
        case h_2 => exact candid_of_silent rfl
        case h_3 => exact candid_of_silent rfl

theorem candid_indent (candid : item.Candid) : (indent item).Candid := by
  intro context parts
  unfold indent
  split
  · exact candid_all candid context parts
  · exact candid_of_silent rfl

/-- Slots are tried quietly, whatever becomes of the parts. -/
theorem decisions_slots {checks : List Check} (candid : ∀ check ∈ checks, check.Candid)
    (context : Context) (parts : List Text) : (slots context checks parts).decisions = [] := by
  induction checks generalizing parts with
  | nil => cases parts <;> rfl
  | cons slot later inductionHypothesis =>
      obtain ⟨here, behind⟩ := List.forall_mem_cons.mp candid
      cases parts with
      | nil => rfl
      | cons part parts =>
          have silent : (slot context.quieted (some part)).decisions = [] :=
            (here context.quieted (some part)).silent_of_quiet
          rw [slots, decisions_bind, silent, List.nil_append]
          split
          case h_1 =>
            rw [decisions_bind, inductionHypothesis behind, List.nil_append]
            split
            case h_1 => rfl
            case h_2 => rfl
            case h_3 => exact inductionHypothesis behind _
          case h_2 => rfl
          case h_3 => exact inductionHypothesis behind _

end Matching

theorem candid_sequenceCore {matching : Matching} (candid : matching.Candid) (options : Options)
    (kind : Text) (delimiters : Delimiters) :
    (sequenceCore options kind delimiters matching).Candid := by
  intro context raw value
  unfold sequenceCore
  refine (candid context _).bind ?_ ?_
  · intro invalid
    rw [invalid]
    rfl
  · split
    case h_1 => exact options.candid_refuse _ _ _ _
    case h_2 => exact candid_of_silent rfl
    case h_3 => exact candid_of_silent rfl
    case h_4 => exact .after (options.candid_refuse _ _ _ _) (decisions_noteIf_trace _ _)

/-! ## Tags -/

namespace RuleSet

def Candid (ruleSet : RuleSet) : Prop := ∀ entry ∈ ruleSet, entry.2.Candid

variable {tag : Tag} {environment : Environment} {quiet : Bool}

theorem candid_attemptFrom {checks : RuleSet} (candid : checks.Candid)
    (accepted : Dictionary Text) :
    (attemptFrom tag environment quiet checks accepted).Candid quiet (· = .invalid) := by
  induction checks generalizing accepted with
  | nil => exact candid_of_silent rfl
  | cons entry rest inductionHypothesis =>
      obtain ⟨name, check⟩ := entry
      obtain ⟨here, behind⟩ := List.forall_mem_cons.mp candid
      rw [attemptFrom]
      refine (here ⟨tag.name, name, quiet, environment⟩ (tag.get? name)).bind ?_ ?_
      · intro invalid
        rw [invalid]
        rfl
      · split
        case h_1 => exact inductionHypothesis behind _
        case h_2 => exact inductionHypothesis behind _
        case h_3 => exact inductionHypothesis behind _
        case h_4 => exact candid_of_silent rfl
        case h_5 => exact candid_of_silent rfl
        case h_6 => exact candid_of_silent rfl

theorem Candid.expand {ruleSet : RuleSet} (candid : ruleSet.Candid) (equivalents : Equivalents) :
    (ruleSet.expand equivalents).Candid := by
  rintro ⟨name, check⟩ member
  obtain ⟨canonical, standing, _⟩ := mem_expand.mp member
  exact candid (canonical, check) standing

end RuleSet

namespace Chain

def Candid (chain : Chain) : Prop := ∀ ruleSet ∈ chain, ruleSet.Candid

variable {equivalents : Equivalents} {quiet : Bool} {environment : Environment} {tag : Tag}

/-- Every rule set but the last is tried quietly, so falling back never leaves a decision behind. -/
theorem candid_checkFrom {chain : Chain} (candid : chain.Candid) :
    (checkFrom equivalents quiet environment tag chain).Candid quiet (·.1 = .invalid) := by
  induction chain with
  | nil => exact candid_of_silent rfl
  | cons ruleSet rest inductionHypothesis =>
      obtain ⟨here, behind⟩ := List.forall_mem_cons.mp candid
      rw [checkFrom]
      have attempted : (RuleSet.attempt equivalents tag environment (quiet || !rest.isEmpty)
          ruleSet).Candid (quiet || !rest.isEmpty) (· = .invalid) :=
        RuleSet.candid_attemptFrom (here.expand equivalents) []
      refine Candid.bind (attempted.louder ?_) ?_ ?_
      -- A rule set that is tried aloud is tried by a run that is not quiet.
      · intro loud
        exact (Bool.or_eq_false_iff.mp loud).1
      · intro invalid
        rw [invalid]
        rfl
      · split
        case h_1 => exact candid_of_silent rfl
        case h_2 => exact .after (inductionHypothesis behind) (decisions_noteIf_trace _ _)
        case h_3 => exact candid_of_silent rfl

theorem candid_check {chain : Chain} (candid : chain.Candid) :
    (chain.check equivalents quiet environment tag).Candid quiet (·.1 = .invalid) := by
  unfold check
  split
  · exact candid_of_silent rfl
  · exact candid_checkFrom candid

end Chain

/-! ## Styles -/

namespace StyleRules

variable {rules : StyleRules}

theorem candid_keepFrom (candid : ∀ property chain, rules.chainFor? property = some chain →
      chain.Candid) (context : Context) (declarations : List (Text × Text)) :
    (rules.keepFrom context declarations).Candid context.quiet (· = none) := by
  induction declarations with
  | nil => exact candid_of_silent rfl
  | cons declaration rest inductionHypothesis =>
      obtain ⟨property, value⟩ := declaration
      rw [keepFrom]
      split
      case h_1 => exact .after inductionHypothesis (decisions_noteIf_trace _ _)
      case h_2 chain found =>
        refine (Chain.candid_check (candid property chain found)).bind ?_ ?_
        · intro invalid
          simp only [invalid]
          rfl
        · obtain ⟨verdict, kept⟩ := (chain.check rules.equivalents context.quiet
            context.environment ⟨property, [(property, value)]⟩).value
          cases verdict with
          | accepted =>
              refine inductionHypothesis.bind ?_ (candid_of_silent rfl)
              intro nothing
              rw [nothing]
              rfl
          | exhausted => exact inductionHypothesis
          | invalid => exact candid_of_silent rfl

theorem candid_core (candid : ∀ property chain, rules.chainFor? property = some chain →
      chain.Candid) (options : Options) : (rules.core options).Candid := by
  intro context raw value
  unfold core
  refine (candid_keepFrom candid context _).bind ?_ ?_
  · intro nothing
    rw [nothing]
    exact value_reportRejection _
  · split
    case h_1 => exact candid_reportRejection _ _ _ _ _
    case h_2 => exact options.candid_refuse _ _ _ _
    case h_3 => exact candid_of_silent rfl

end StyleRules

/-! ## Validators -/

theorem Simple.candid_core (options : Options) (kind : Simple) : (kind.core options).Candid := by
  intro context raw value
  unfold Simple.core
  split
  · exact candid_of_silent rfl
  · exact options.candid_refuse _ _ _ _

namespace Validator

theorem candid_core {validator : Validator}
    (candid : ∀ part, PartOf part validator → part.check.Candid) : validator.core.Candid := by
  cases validator with
  | simple options kind => exact kind.candid_core options
  | sequence options delimiters item =>
      exact candid_sequenceCore (Matching.candid_free (candid item .item)) options _ delimiters
  | indent options delimiters item =>
      exact candid_sequenceCore (Matching.candid_indent (candid item .width)) options _ delimiters
  | complex options delimiters slots =>
      refine candid_sequenceCore ?_ options _ delimiters
      -- What the slots find invalid is passed on, but was not recorded.
      intro context parts
      refine candid_of_silent (Matching.decisions_slots ?_ context parts)
      intro check member
      obtain ⟨slot, nested, rfl⟩ := exists_slot_of_mem member
      exact candid slot nested
  | style options name properties equivalents =>
      refine StyleRules.candid_core ?_ options
      intro property chain found checks tried entry listed
      obtain ⟨part, nested, same⟩ := exists_part_of_chainFor? found tried listed
      rw [← same]
      exact candid part nested

/-- Whatever validators are nested in it, a validator records only what it refuses as invalid. -/
theorem candid_check (validator : Validator) : validator.check.Candid := by
  induction validator using part_induction with
  | step validator inductionHypothesis =>
      rw [check_eq]
      exact validator.options.candid_check validator.kind (candid_core inductionHypothesis)

theorem candid_checkChain (chain : List (List (Text × Validator))) :
    (checkChain chain).Candid := by
  intro checks tried entry listed
  rw [checkChain_eq_map] at tried
  obtain ⟨ruleSet, _, rfl⟩ := List.mem_map.mp tried
  rw [checkRuleSet_eq_map] at listed
  obtain ⟨⟨name, validator⟩, _, rfl⟩ := List.mem_map.mp listed
  exact validator.candid_check

end Validator

end SafeMarkup
