import SafeMarkup.Proofs.Deciding
import SafeMarkup.Proofs.Requirement
import Mathlib.Logic.Relation

/-!
Contract: validators in validators, and what a validator can answer because of them.

Owns: the parts of a validator, with induction over them; where the invalid answer of a value of
several parts comes from; and the law that lists the answers of a validator.

Does not own: what is reported on the way, and which values are accepted.
-/

namespace SafeMarkup

/-! ## Invalid parts -/

namespace Matching

variable {item : Check} {context : Context} {parts : List Text}

theorem eq_error_of_map {α β : Type} {f : α → β} {rejection : Rejection}
    {answer : Except Rejection α} (refused : answer.map f = .error rejection) :
    answer = .error rejection := by
  cases answer with
  | ok value => exact absurd refused nofun
  | error other => exact congrArg Except.error (Except.error.inj refused)

theorem free_eq_invalid (refused : (free item context parts).value = .error .invalid) :
    ∃ part, (item context (some part)).value = .error .invalid := by
  induction parts with
  | nil => exact absurd refused nofun
  | cons part parts inductionHypothesis =>
      rw [free, Reported.value_bind] at refused
      split at refused
      case h_1 => exact inductionHypothesis (eq_error_of_map refused)
      case h_2 => exact inductionHypothesis refused
      case h_3 here => exact ⟨part, here⟩
      case h_4 => exact absurd refused nofun

theorem all_eq_invalid (refused : (all item context parts).value = .error .invalid) :
    ∃ part, (item context (some part)).value = .error .invalid := by
  induction parts with
  | nil => exact absurd refused nofun
  | cons part parts inductionHypothesis =>
      rw [all, Reported.value_bind] at refused
      split at refused
      case h_1 => exact inductionHypothesis (eq_error_of_map refused)
      case h_2 here => exact ⟨part, here⟩
      case h_3 => exact absurd refused nofun

theorem indent_eq_invalid (refused : (indent item context parts).value = .error .invalid) :
    ∃ part, (item context (some part)).value = .error .invalid := by
  unfold indent at refused
  split at refused
  · exact all_eq_invalid refused
  · exact absurd refused nofun

theorem slots_eq_invalid {checks : List Check}
    (refused : (slots context checks parts).value = .error .invalid) :
    ∃ slot ∈ checks, ∃ part, (slot context.quieted (some part)).value = .error .invalid := by
  induction checks generalizing parts with
  | nil => cases parts <;> exact absurd refused nofun
  | cons slot later inductionHypothesis =>
      cases parts with
      | nil => exact absurd refused nofun
      | cons part parts =>
          have behind {others : List Text}
              (refused : (slots context later others).value = .error .invalid) :
              ∃ found ∈ slot :: later, ∃ part,
                (found context.quieted (some part)).value = .error .invalid := by
            obtain ⟨found, member, answer⟩ := inductionHypothesis refused
            exact ⟨found, List.mem_cons_of_mem _ member, answer⟩
          rw [slots, Reported.value_bind] at refused
          split at refused
          case h_1 value _ =>
            rw [Reported.value_bind] at refused
            split at refused
            case h_1 => exact absurd refused nofun
            case h_2 others => exact behind others
            case h_3 => exact behind refused
          case h_2 here => exact ⟨slot, List.mem_cons_self, part, here⟩
          case h_3 => exact behind refused

end Matching

theorem sequenceCore_eq_invalid {options : Options} {kind : Text} {delimiters : Delimiters}
    {matching : Matching} {context : Context} {raw value : Text}
    (refused : (sequenceCore options kind delimiters matching context raw value).value =
      .error .invalid) :
    ∃ parts, (matching context parts).value = .error .invalid := by
  simp only [sequenceCore, Reported.value_bind] at refused
  split at refused
  case h_1 => exact absurd refused Options.refuse_ne_invalid
  case h_2 => cases refused
  case h_3 matched => exact ⟨_, matched⟩
  case h_4 => exact absurd refused Options.refuse_ne_invalid

namespace RuleSet

theorem ends?_eq_invalid {name : Text} {answer : Except Rejection Text}
    (ended : ends? (name, answer) = some .invalid) : answer = .error .invalid := by
  cases answer with
  | ok value => exact absurd ended nofun
  | error rejection =>
      cases rejection with
      | invalid => rfl
      | _ => exact absurd ended nofun

theorem attempt_eq_invalid {equivalents : Equivalents} {tag : Tag} {environment : Environment}
    {quiet : Bool} {ruleSet : RuleSet}
    (refused : (attempt equivalents tag environment quiet ruleSet).value = .invalid) :
    ∃ entry ∈ ruleSet, ∃ context raw, (entry.2 context raw).value = .error .invalid := by
  have outcome : Outcome (walk equivalents tag environment quiet ruleSet)
      (attempt equivalents tag environment quiet ruleSet).value := outcome_attempt ruleSet
  rw [refused] at outcome
  cases outcome with
  | invalid ended =>
      obtain ⟨⟨name, answer⟩, member, ends⟩ := List.exists_of_findSome?_eq_some ended
      obtain ⟨canonical, check, listed, _, said⟩ := mem_walk.mp member
      exact ⟨(canonical, check), listed, _, _, said.trans (ends?_eq_invalid ends)⟩

end RuleSet

namespace Chain

theorem carryOut_eq_invalid {tag : Tag} {attempt : Attempt}
    (refused : (carryOut tag attempt).1 = .invalid) : attempt = .invalid := by
  cases attempt with
  | invalid => rfl
  | _ => exact absurd refused nofun

/-- A tag that is refused as invalid has an invalid value. -/
theorem check_eq_invalid {equivalents : Equivalents} {quiet : Bool} {environment : Environment}
    {chain : Chain} {tag : Tag}
    (refused : (chain.check equivalents quiet environment tag).value.1 = .invalid) :
    ∃ ruleSet ∈ chain, ∃ entry ∈ ruleSet, ∃ context raw,
      (entry.2 context raw).value = .error .invalid := by
  by_cases empty : chain = []
  · subst empty
    exact absurd refused nofun
  · rw [check_eq empty] at refused
    have attempted := carryOut_eq_invalid refused
    obtain ⟨before, ruleSet, behind, rfl, _, decided, _⟩ :=
      exists_deciding equivalents quiet environment tag empty
    rw [decided] at attempted
    exact ⟨ruleSet, by simp, RuleSet.attempt_eq_invalid attempted⟩

end Chain

namespace StyleRules

variable {rules : StyleRules} {context : Context}

theorem chainFor?_eq_some {property : Text} {chain : Chain}
    (found : rules.chainFor? property = some chain) : ∃ name, (name, chain) ∈ rules.properties := by
  rcases Option.or_eq_some_iff.mp found with own | ⟨_, shared⟩
  · exact ⟨property, Dictionary.mem_of_get?_eq_some own⟩
  · obtain ⟨canonical, _, standing⟩ := Option.bind_eq_some_iff.mp shared
    exact ⟨canonical, Dictionary.mem_of_get?_eq_some standing⟩

/-- A style that is refused as invalid has an invalid declaration. -/
theorem keepFrom_eq_none {declarations : List (Text × Text)}
    (refused : (rules.keepFrom context declarations).value = none) :
    ∃ property chain, rules.chainFor? property = some chain ∧ ∃ tag,
      (chain.check rules.equivalents context.quiet context.environment tag).value.1 = .invalid := by
  induction declarations with
  | nil => exact absurd refused nofun
  | cons declaration rest inductionHypothesis =>
      obtain ⟨property, value⟩ := declaration
      rw [keepFrom] at refused
      split at refused
      case h_1 => exact inductionHypothesis refused
      case h_2 chain found =>
        rw [Reported.value_bind] at refused
        cases checked : (chain.check rules.equivalents context.quiet context.environment
            ⟨property, [(property, value)]⟩).value.1 with
        | accepted =>
            simp only [checked] at refused
            exact inductionHypothesis (Option.map_eq_none_iff.mp refused)
        | exhausted =>
            simp only [checked] at refused
            exact inductionHypothesis refused
        | invalid => exact ⟨property, chain, found, _, checked⟩

theorem core_eq_invalid {options : Options} {raw value : Text}
    (refused : (rules.core options context raw value).value = .error .invalid) :
    ∃ property chain, rules.chainFor? property = some chain ∧ ∃ tag,
      (chain.check rules.equivalents context.quiet context.environment tag).value.1 = .invalid := by
  simp only [core, Reported.value_bind] at refused
  split at refused
  case h_1 nothing => exact keepFrom_eq_none nothing
  case h_2 => exact absurd refused Options.refuse_ne_invalid
  case h_3 => cases refused

end StyleRules

/-! ## Parts of validators -/

namespace Validator

/-- One validator is a part of another: what checks the parts of its values, or the values of a
property of its style table. -/
inductive PartOf : Validator → Validator → Prop where
  | item {options : Options} {delimiters : Delimiters} {item : Validator} :
      PartOf item (.sequence options delimiters item)
  | width {options : Options} {delimiters : Delimiters} {item : Validator} :
      PartOf item (.indent options delimiters item)
  | slot {options : Options} {delimiters : Delimiters} {slots : List Validator} {slot : Validator}
      (member : slot ∈ slots) : PartOf slot (.complex options delimiters slots)
  | property {options : Options} {name : Text}
      {properties : List (Text × List (List (Text × Validator)))} {equivalents : Equivalents}
      {property : Text × List (List (Text × Validator))} {ruleSet : List (Text × Validator)}
      {entry : Text × Validator} (listed : property ∈ properties) (tried : ruleSet ∈ property.2)
      (checked : entry ∈ ruleSet) : PartOf entry.2 (.style options name properties equivalents)

/-- One validator is another or nested in it, at any depth. -/
def Within (inner outer : Validator) : Prop := Relation.ReflTransGen PartOf inner outer

theorem sizeOf_snd_lt {α β : Type} [SizeOf α] [SizeOf β] (pair : α × β) :
    sizeOf pair.2 < sizeOf pair := by
  obtain ⟨first, second⟩ := pair
  simp only [Prod.mk.sizeOf_spec]
  omega

theorem PartOf.sizeOf_lt {part validator : Validator} (nested : PartOf part validator) :
    sizeOf part < sizeOf validator := by
  cases nested with
  | item => simp only [sequence.sizeOf_spec]; omega
  | width => simp only [indent.sizeOf_spec]; omega
  | slot member =>
      have smaller := List.sizeOf_lt_of_mem member
      simp only [complex.sizeOf_spec]
      omega
  | @property _ _ properties _ property ruleSet entry listed tried checked =>
      have smaller : sizeOf entry.2 < sizeOf properties :=
        calc sizeOf entry.2
          _ < sizeOf entry := sizeOf_snd_lt entry
          _ < sizeOf ruleSet := List.sizeOf_lt_of_mem checked
          _ < sizeOf property.2 := List.sizeOf_lt_of_mem tried
          _ < sizeOf property := sizeOf_snd_lt property
          _ < sizeOf properties := List.sizeOf_lt_of_mem listed
      simp only [style.sizeOf_spec]
      omega

/-- Induction over a validator from its parts. -/
theorem part_induction {motive : Validator → Prop}
    (step : ∀ validator, (∀ part, PartOf part validator → motive part) → motive validator)
    (validator : Validator) : motive validator :=
  (Subrelation.wf PartOf.sizeOf_lt (measure sizeOf).wf).induction validator step

theorem exists_slot_of_mem {options : Options} {delimiters : Delimiters} {slots : List Validator}
    {check : Check} (member : check ∈ checkSlots slots) :
    ∃ part, PartOf part (.complex options delimiters slots) ∧ part.check = check := by
  rw [checkSlots_eq_map] at member
  obtain ⟨slot, listed, rfl⟩ := List.mem_map.mp member
  exact ⟨slot, .slot listed, rfl⟩

/-- A check in the chain of a style property is that of a part. -/
theorem exists_part_of_chainFor? {options : Options} {name property : Text}
    {properties : List (Text × List (List (Text × Validator)))} {equivalents : Equivalents}
    {chain : Chain}
    (found : StyleRules.chainFor? ⟨name, checkProperties properties, equivalents⟩ property =
      some chain)
    {checks : RuleSet} (tried : checks ∈ chain) {entry : Text × Check} (listed : entry ∈ checks) :
    ∃ part, PartOf part (.style options name properties equivalents) ∧ part.check = entry.2 := by
  obtain ⟨canonical, standing⟩ := StyleRules.chainFor?_eq_some found
  rw [checkProperties_eq_map] at standing
  obtain ⟨⟨_, source⟩, written, same⟩ := List.mem_map.mp standing
  obtain ⟨rfl, rfl⟩ := Prod.mk.inj same
  rw [checkChain_eq_map] at tried
  obtain ⟨ruleSet, inChain, rfl⟩ := List.mem_map.mp tried
  rw [checkRuleSet_eq_map] at listed
  obtain ⟨checked, inRuleSet, rfl⟩ := List.mem_map.mp listed
  exact ⟨checked.2, .property written inChain inRuleSet, rfl⟩

/-! ## Answers -/

variable {validator : Validator} {context : Context} {raw : Option Text}

theorem Simple.core_ne_invalid (options : Options) (kind : Simple) {written value : Text} :
    (kind.core options context written value).value ≠ .error .invalid := by
  unfold Simple.core
  split
  · exact nofun
  · exact Options.refuse_ne_invalid

/-- The kind of a validator finds a value invalid only because a part of the validator does. -/
theorem core_eq_invalid {written value : Text}
    (refused : (validator.core context written value).value = .error .invalid) :
    ∃ part, PartOf part validator ∧
      ∃ context raw, (part.check context raw).value = .error .invalid := by
  cases validator with
  | simple options kind => exact absurd refused (Simple.core_ne_invalid options kind)
  | sequence options delimiters item =>
      obtain ⟨parts, matched⟩ := sequenceCore_eq_invalid refused
      obtain ⟨part, here⟩ := Matching.free_eq_invalid matched
      exact ⟨item, .item, _, _, here⟩
  | indent options delimiters item =>
      obtain ⟨parts, matched⟩ := sequenceCore_eq_invalid refused
      obtain ⟨part, here⟩ := Matching.indent_eq_invalid matched
      exact ⟨item, .width, _, _, here⟩
  | complex options delimiters slots =>
      obtain ⟨parts, matched⟩ := sequenceCore_eq_invalid refused
      obtain ⟨check, member, part, here⟩ := Matching.slots_eq_invalid matched
      obtain ⟨slot, nested, rfl⟩ := exists_slot_of_mem member
      exact ⟨slot, nested, _, _, here⟩
  | style options name properties equivalents =>
      obtain ⟨property, chain, found, tag, verdict⟩ := StyleRules.core_eq_invalid refused
      obtain ⟨checks, tried, entry, listed, context, raw, here⟩ := Chain.check_eq_invalid verdict
      obtain ⟨part, nested, same⟩ := exists_part_of_chainFor? found tried listed
      exact ⟨part, nested, context, raw, same ▸ here⟩

/-- An invalid answer comes from a flag, of the validator itself or of one nested in it. -/
theorem exists_flagged (validator : Validator) {context : Context} {raw : Option Text}
    (refused : (validator.check context raw).value = .error .invalid) :
    ∃ inner, Within inner validator ∧ inner.options.invalid = true := by
  induction validator using part_induction generalizing context raw with
  | step validator inductionHypothesis =>
      rw [check_eq] at refused
      rcases Options.check_eq_invalid refused with flagged | ⟨written, value, invalid⟩
      · exact ⟨validator, .refl, flagged⟩
      · obtain ⟨part, nested, context, raw, here⟩ := core_eq_invalid invalid
        obtain ⟨inner, within, flagged⟩ := inductionHypothesis part nested here
        exact ⟨inner, within.tail nested, flagged⟩

/-- What a validator can answer. -/
structure Answers (validator : Validator) (answer : Except Rejection Text) : Prop where
  /-- These two are only passed on inside a validation. -/
  internal : answer ≠ .error .defaultApplied ∧ answer ≠ .error .sequenceInconsistent
  missing : answer = .error .missingRequired → validator.options.requirement = .required
  absent : answer = .error .absentOptional → validator.options.requirement = .optional
  replaced : ∀ usual, validator.options.requirement = .substitute usual →
    (∃ value, answer = .ok value) ∨ answer = .error .invalid
  refusing : validator.options.invalid = true → ∀ value, answer ≠ .ok value
  invalid : answer = .error .invalid → ∃ inner, Within inner validator ∧ inner.options.invalid = true

/-- Whatever it is given and wherever that comes from, a validator refuses a value as invalid because
of a flag, its own or that of a validator nested in it, and otherwise as its requirement says. -/
theorem check_answers (validator : Validator) (context : Context) (raw : Option Text) :
    validator.Answers (validator.check context raw).value where
  internal := by
    constructor
    · intro said
      rcases check_eq_error said with other | ⟨_, notReplaced⟩
      · exact absurd other nofun
      · exact notReplaced rfl
    · intro said
      rcases check_eq_error said with other | ⟨required, _⟩
      · exact absurd other nofun
      · exact validator.options.requirement.rejection_ne_inconsistent required.symm
  missing := by
    intro said
    rcases check_eq_error said with other | ⟨required, _⟩
    · exact absurd other nofun
    · exact Requirement.eq_required required.symm
  absent := by
    intro said
    rcases check_eq_error said with other | ⟨required, _⟩
    · exact absurd other nofun
    · exact Requirement.eq_optional required.symm
  replaced := by
    intro usual replaces
    cases said : (validator.check context raw).value with
    | ok value => exact .inl ⟨value, rfl⟩
    | error rejection =>
        rcases check_eq_error said with rfl | ⟨required, notReplaced⟩
        · exact .inr rfl
        · rw [replaces] at required
          exact absurd required notReplaced
  refusing := by
    intro flagged value accepted
    have sound := (check_eq_ok accepted).1
    exact absurd (flagged.symm.trans sound) nofun
  invalid := exists_flagged validator

end Validator
end SafeMarkup
