import SafeMarkup.Proofs.Verdict

/-!
Contract: a check of a tag depends on nothing but the name of the tag and the attributes that the
chain names.

Owns: the names of a chain, and what checks of two tags that agree on them have in common.

Does not own: single checks, which are arbitrary here.
-/

namespace SafeMarkup

/-- Two tags with one name that give the same values for some keys. -/
structure Tag.AgreeOn (names : List Text) (left right : Tag) : Prop where
  name : left.name = right.name
  get : ∀ key ∈ names, left.get? key = right.get? key

/-- The keys of a tag among some names, in the order in which they first occur. -/
def Tag.order (names : List Text) (tag : Tag) : List Text :=
  (Dictionary.keys tag.attributes).eraseDups.filter names.contains

variable {equivalents : Equivalents} {quiet : Bool} {environment : Environment} {left right : Tag}

theorem Tag.AgreeOn.mono {names others : List Text} (agree : left.AgreeOn names right)
    (inside : others ⊆ names) : left.AgreeOn others right :=
  ⟨agree.name, fun key member => agree.get key (inside member)⟩

theorem Tag.AgreeOn.has {names : List Text} (agree : left.AgreeOn names right) {key : Text}
    (named : key ∈ names) :
    key ∈ Dictionary.keys left.attributes ↔ key ∈ Dictionary.keys right.attributes := by
  have same : Dictionary.get? key left.attributes = Dictionary.get? key right.attributes :=
    agree.get key named
  rw [← Dictionary.exists_get?_iff, ← Dictionary.exists_get?_iff, same]

/-! ## Trying -/

namespace RuleSet

/-- The names of a rule set, each followed by the names that stand for it. -/
def names (equivalents : Equivalents) (ruleSet : RuleSet) : List Text :=
  ruleSet.flatMap fun (canonical, _) => canonical :: equivalents.aliasesOf canonical

theorem keys_expand (ruleSet : RuleSet) :
    Dictionary.keys (expand equivalents ruleSet) = names equivalents ruleSet := by
  simp [expand, names, Dictionary.keys, List.map_flatMap, Function.comp_def]

theorem attemptFrom_congr {checks : RuleSet}
    (agree : left.AgreeOn (Dictionary.keys checks) right) (accepted : Dictionary Text) :
    attemptFrom left environment quiet checks accepted =
      attemptFrom right environment quiet checks accepted := by
  induction checks generalizing accepted with
  | nil => rfl
  | cons entry rest inductionHypothesis =>
      obtain ⟨name, check⟩ := entry
      have here : left.get? name = right.get? name := agree.get name List.mem_cons_self
      have others := inductionHypothesis (agree.mono (List.subset_cons_self _ _))
      rw [attemptFrom, attemptFrom, agree.name, here]
      simp only [others]

end RuleSet

namespace Chain

/-- The names of all rule sets of a chain. -/
def names (equivalents : Equivalents) (chain : Chain) : List Text :=
  chain.flatMap (RuleSet.names equivalents)

/-- What decides gives out no name but those of the chain, and none twice. -/
theorem decisive_eq_accepted {chain : Chain} {tag : Tag} {values : Dictionary Text}
    (accepted : (decisive equivalents quiet environment tag chain).value = .accepted values) :
    (Dictionary.keys values).Nodup ∧ Dictionary.keys values ⊆ names equivalents chain := by
  have nonempty : chain ≠ [] := by
    rintro rfl
    exact absurd accepted nofun
  obtain ⟨before, ruleSet, behind, rfl, _, decided, _⟩ :=
    exists_deciding equivalents quiet environment tag nonempty
  have collected := RuleSet.collected_attempt (decided.symm.trans accepted)
  refine ⟨collected.distinct, fun name member => ?_⟩
  obtain ⟨⟨name, value⟩, inside, rfl⟩ := List.mem_map.mp member
  obtain ⟨check, standing, _⟩ := collected.source _ _ inside
  have named : name ∈ RuleSet.names equivalents ruleSet := by
    rw [← RuleSet.keys_expand]
    exact List.mem_map.mpr ⟨_, standing, rfl⟩
  exact List.mem_flatMap.mpr ⟨ruleSet, by simp, named⟩

/-! ## Writing the result -/

theorem keys_ordered_congr {names : List Text} (agree : left.AgreeOn names right)
    (sameOrder : left.order names = right.order names) {values : Dictionary Text}
    (distinct : (Dictionary.keys values).Nodup) (named : Dictionary.keys values ⊆ names) :
    Dictionary.keys (ordered left.attributes values) =
      Dictionary.keys (ordered right.attributes values) := by
  have among (tag : Tag) : (Dictionary.keys tag.attributes).eraseDups.filter
      (Dictionary.keys values).contains =
        (tag.order names).filter (Dictionary.keys values).contains := by
    rw [Tag.order, List.filter_filter]
    refine List.filter_congr fun key _ => ?_
    by_cases present : key ∈ Dictionary.keys values
    · simp [present, named present]
    · simp [present]
  rw [keys_ordered _ distinct, keys_ordered _ distinct, among, among, sameOrder]
  refine congrArg ((right.order names).filter _ ++ ·) (List.filter_congr fun key member => ?_)
  simp [agree.has (named member)]

/-- What the results of two checks have in common if of the tags only some names counted. -/
structure Alike (names : List Text) (left right : Tag)
    (leftResult rightResult : Reported (Verdict × Tag)) : Prop where
  notes : leftResult.notes = rightResult.notes
  verdict : leftResult.value.1 = rightResult.value.1
  values : leftResult.value.1 = .accepted →
    ∀ key, leftResult.value.2.get? key = rightResult.value.2.get? key
  tag : leftResult.value.1 = .accepted → left.order names = right.order names →
    leftResult.value.2 = rightResult.value.2

theorem alike_carryOut {names : List Text} (agree : left.AgreeOn names right)
    {attempt : Reported Attempt}
    (named : ∀ values, attempt.value = .accepted values →
      (Dictionary.keys values).Nodup ∧ Dictionary.keys values ⊆ names) :
    Alike names left right (carryOut left <$> attempt) (carryOut right <$> attempt) := by
  obtain ⟨outcome, notes⟩ := attempt
  cases outcome with
  | fallback => exact ⟨rfl, rfl, nofun, nofun⟩
  | invalid => exact ⟨rfl, rfl, nofun, nofun⟩
  | accepted values =>
      obtain ⟨distinct, inside⟩ := named values rfl
      have sameValues (key : Text) : Dictionary.get? key (ordered left.attributes values) =
          Dictionary.get? key (ordered right.attributes values) := by
        rw [get?_ordered _ distinct, get?_ordered _ distinct]
      refine ⟨rfl, rfl, fun _ => sameValues, fun _ sameOrder => ?_⟩
      have sameAttributes : ordered left.attributes values = ordered right.attributes values :=
        Dictionary.eq_of_keys_eq (nodup_keys_ordered _ distinct)
          (keys_ordered_congr agree sameOrder distinct inside) sameValues
      exact congrArg₂ Tag.mk agree.name sameAttributes

/-- Whatever else two tags have, as long as they agree on the names of a chain: checks of them
report the same, come to the same verdict and, where they accept, keep the same values. If the names
of the chain first come in the same order in both, the tags that are left are the same. -/
theorem alike_check (equivalents : Equivalents) (quiet : Bool) (environment : Environment)
    (chain : Chain) {left right : Tag} (agree : left.AgreeOn (names equivalents chain) right) :
    Alike (names equivalents chain) left right (check equivalents quiet environment chain left)
      (check equivalents quiet environment chain right) := by
  by_cases empty : chain = []
  · subst empty
    exact ⟨rfl, rfl, fun _ _ => rfl, fun _ _ => congrArg (Tag.mk · []) agree.name⟩
  · have sameAttempts : ∀ ruleSet ∈ chain, ∀ quietly,
        RuleSet.attempt equivalents left environment quietly ruleSet =
          RuleSet.attempt equivalents right environment quietly ruleSet := by
      intro ruleSet member quietly
      refine RuleSet.attemptFrom_congr (agree.mono ?_) []
      rw [RuleSet.keys_expand]
      exact fun name inside => List.mem_flatMap.mpr ⟨ruleSet, member, inside⟩
    rw [check_eq empty, check_eq empty, decisive_congr agree.name sameAttempts]
    exact alike_carryOut agree fun values accepted => decisive_eq_accepted accepted

/-- The link with two sources again, with other attributes around them. -/
def linkedAnyhow : Tag :=
  ⟨"a", [("onclick", "w"), ("src", " x"), ("href", "/"), ("class", ""), ("href", "v")]⟩

/-- The names of the chain for a link. -/
def linkNames : List Text := names sourceForLink (Validator.checkChain anchorOrLink)

theorem alike_check_link :
    linkedTwice.AgreeOn linkNames linkedAnyhow ∧
      linkedTwice.order linkNames = linkedAnyhow.order linkNames ∧
      Alike linkNames linkedTwice linkedAnyhow
        (check sourceForLink false .detached (Validator.checkChain anchorOrLink) linkedTwice)
        (check sourceForLink false .detached (Validator.checkChain anchorOrLink) linkedAnyhow) ∧
      (check sourceForLink false .detached (Validator.checkChain anchorOrLink)
        linkedTwice).value.1 = .accepted :=
  have agree : linkedTwice.AgreeOn linkNames linkedAnyhow := ⟨rfl, by decide⟩
  ⟨agree, by decide, alike_check sourceForLink false .detached _ agree, by decide⟩

end Chain
end SafeMarkup
