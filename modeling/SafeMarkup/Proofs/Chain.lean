import SafeMarkup.Proofs.Dictionary
import SafeMarkup.Rule.Chain

/-!
Contract: what a check of a tag against a chain can come to.

Owns: one law that says which rule set decides and what the others did; what trying a rule set
accepts; and the order in which accepted values are written.

Does not own: single checks, which are arbitrary here.
-/

namespace SafeMarkup

/-- Accepted values are only put into another order. -/
theorem ordered_perm (attributes : List (Text × Text)) (accepted : Dictionary Text) :
    (ordered attributes accepted).Perm accepted := by
  induction attributes generalizing accepted with
  | nil => exact .rfl
  | cons pair rest inductionHypothesis =>
      obtain ⟨key, written⟩ := pair
      rw [ordered]
      split
      case h_1 value found =>
        exact ((inductionHypothesis _).cons _).trans (Dictionary.perm_cons_erase found)
      case h_2 => exact inductionHypothesis accepted

/-! ## Trying a rule set -/

namespace RuleSet

variable {equivalents : Equivalents} {tag : Tag} {environment : Environment} {quiet : Bool}

/-- A name with a check stands in an expanded rule set for a canonical name with that check. -/
theorem mem_expand {ruleSet : RuleSet} {name : Text} {check : Check} :
    (name, check) ∈ expand equivalents ruleSet ↔
      ∃ canonical, (canonical, check) ∈ ruleSet ∧
        (name = canonical ∨ name ∈ equivalents.aliasesOf canonical) := by
  unfold expand
  rw [List.mem_flatMap]
  constructor
  · rintro ⟨⟨canonical, canonicalCheck⟩, member, inside⟩
    obtain ⟨other, standsFor, same⟩ := List.mem_map.mp inside
    obtain ⟨rfl, rfl⟩ := Prod.mk.inj same
    exact ⟨canonical, member, List.mem_cons.mp standsFor⟩
  · rintro ⟨canonical, member, standsFor⟩
    exact ⟨(canonical, check), member, List.mem_map.mpr ⟨name, List.mem_cons.mpr standsFor, rfl⟩⟩

/-- Values with distinct keys, each of which one of some checks gave out for the tag. -/
structure Collected (tag : Tag) (environment : Environment) (quiet : Bool) (checks : RuleSet)
    (values : Dictionary Text) : Prop where
  distinct : (Dictionary.keys values).Nodup
  source : ∀ name value, (name, value) ∈ values → ∃ check, (name, check) ∈ checks ∧
    (check ⟨tag.name, name, quiet, environment⟩ (tag.get? name)).value = .ok value

/-- One check adds a value that it gave out. -/
theorem Collected.insert {checks : RuleSet} {values : Dictionary Text} {name value : Text}
    {check : Check} (collected : Collected tag environment quiet checks values)
    (member : (name, check) ∈ checks)
    (given : (check ⟨tag.name, name, quiet, environment⟩ (tag.get? name)).value = .ok value) :
    Collected tag environment quiet checks (Dictionary.insert name value values) := by
  refine ⟨Dictionary.nodup_keys_insert collected.distinct, ?_⟩
  intro other otherValue inside
  rcases Dictionary.mem_insert inside with same | inside
  · obtain ⟨rfl, rfl⟩ := Prod.mk.inj same
    exact ⟨check, member, given⟩
  · exact collected.source other otherValue inside

/-- Checks that all pass leave collected values. -/
theorem collected_attemptFrom {checks left : RuleSet} {accepted values : Dictionary Text}
    (inside : ∀ entry ∈ left, entry ∈ checks)
    (collected : Collected tag environment quiet checks accepted)
    (passed : (attemptFrom tag environment quiet left accepted).value = .accepted values) :
    Collected tag environment quiet checks values := by
  induction left generalizing accepted with
  | nil =>
      obtain rfl := Attempt.accepted.inj passed
      exact collected
  | cons entry rest inductionHypothesis =>
      obtain ⟨name, check⟩ := entry
      obtain ⟨here, others⟩ := List.forall_mem_cons.mp inside
      rw [attemptFrom, Reported.value_bind] at passed
      split at passed
      case h_1 value given =>
        exact inductionHypothesis others (collected.insert here given) passed
      case h_2 => exact inductionHypothesis others collected passed
      case h_3 => exact inductionHypothesis others collected passed
      all_goals exact absurd passed nofun

/-- What a rule set accepts is collected from its names and those that stand for them. -/
theorem collected_attempt {ruleSet : RuleSet} {values : Dictionary Text}
    (passed : (attempt equivalents tag environment quiet ruleSet).value = .accepted values) :
    Collected tag environment quiet (expand equivalents ruleSet) values := by
  have nothing : Collected tag environment quiet (expand equivalents ruleSet) [] :=
    ⟨List.nodup_nil, fun _ _ member => absurd member List.not_mem_nil⟩
  exact collected_attemptFrom (fun _ member => member) nothing passed

end RuleSet

/-! ## Trying a chain -/

namespace Chain

variable {equivalents : Equivalents} {quiet : Bool} {environment : Environment} {tag left : Tag}

/-- A tag is accepted by the first rule set that does not fall back, which rewrites its attributes.
Rule sets are tried quietly where others follow. -/
theorem checkFrom_eq_accepted {chain : Chain}
    (accepted : (checkFrom equivalents quiet environment tag chain).value = (.accepted, left)) :
    ∃ before ruleSet behind values, chain = before ++ ruleSet :: behind ∧
      (∀ earlier ∈ before,
        (RuleSet.attempt equivalents tag environment true earlier).value = .fallback) ∧
      (RuleSet.attempt equivalents tag environment (quiet || !behind.isEmpty) ruleSet).value =
        .accepted values ∧
      left = { tag with attributes := ordered tag.attributes values } := by
  induction chain with
  | nil => exact absurd accepted nofun
  | cons ruleSet rest inductionHypothesis =>
      rw [checkFrom, Reported.value_bind] at accepted
      split at accepted
      case h_1 values passed =>
        obtain ⟨-, rfl⟩ := Prod.mk.inj accepted
        exact ⟨[], ruleSet, rest, values, rfl, nofun, passed, rfl⟩
      case h_2 failed =>
        obtain ⟨before, found, behind, values, rfl, fallback, passed, rfl⟩ :=
          inductionHypothesis accepted
        refine ⟨ruleSet :: before, found, behind, values, rfl, ?_, passed, rfl⟩
        have othersFollow : (quiet || !(before ++ found :: behind).isEmpty) = true := by simp
        rw [othersFollow] at failed
        exact List.forall_mem_cons.mpr ⟨failed, fallback⟩
      case h_3 => exact absurd accepted nofun

/-- What is left of an accepted tag: its name, distinct keys, and values that a rule set of the
chain accounts for. -/
theorem check_eq_accepted {chain : Chain}
    (accepted : (check equivalents quiet environment chain tag).value = (.accepted, left)) :
    left.name = tag.name ∧ (Dictionary.keys left.attributes).Nodup ∧
      ∀ name value, (name, value) ∈ left.attributes → ∃ ruleSet ∈ chain, ∃ canonical check,
        (canonical, check) ∈ ruleSet ∧
        (name = canonical ∨ name ∈ equivalents.aliasesOf canonical) ∧
        ∃ quietly, (check ⟨tag.name, name, quietly, environment⟩ (tag.get? name)).value =
          .ok value := by
  rw [Chain.check] at accepted
  split at accepted
  case isTrue =>
    obtain ⟨-, rfl⟩ := Prod.mk.inj accepted
    exact ⟨rfl, List.nodup_nil, fun _ _ member => absurd member List.not_mem_nil⟩
  case isFalse =>
    obtain ⟨before, ruleSet, behind, values, rfl, -, passed, rfl⟩ := checkFrom_eq_accepted accepted
    have collected := RuleSet.collected_attempt passed
    have reordered := ordered_perm tag.attributes values
    refine ⟨rfl, (reordered.map Prod.fst).nodup_iff.mpr collected.distinct, ?_⟩
    intro name value member
    obtain ⟨check, inside, given⟩ := collected.source name value (reordered.mem_iff.mp member)
    obtain ⟨canonical, standing, standsFor⟩ := RuleSet.mem_expand.mp inside
    exact ⟨ruleSet, by simp, canonical, check, standing, standsFor, _, given⟩

end Chain
end SafeMarkup
