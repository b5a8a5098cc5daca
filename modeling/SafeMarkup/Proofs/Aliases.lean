import SafeMarkup.Proofs.Verdict

/-!
Contract: what becomes of aliases that a tag does not carry.

Owns: checks with and without such aliases. They come to the same as long as the aliases stand for
optional validators only. A required validator refuses the tag for each of them, and one with a
default writes each of them into the tag.
-/

namespace SafeMarkup

/-- Whether a tag has an attribute with this key. -/
def Tag.carries (tag : Tag) (key : Text) : Bool := (tag.get? key).isSome

/-- The equivalents without the aliases that a tag does not carry. -/
def Equivalents.carriedBy (tag : Tag) (equivalents : Equivalents) : Equivalents :=
  ⟨Dictionary.mapValues (List.filter tag.carries) equivalents.entries⟩

variable {equivalents : Equivalents} {tag : Tag} {environment : Environment} {quiet : Bool}

theorem Equivalents.aliasesOf_carriedBy (canonical : Text) :
    (equivalents.carriedBy tag).aliasesOf canonical =
      (equivalents.aliasesOf canonical).filter tag.carries := by
  have found := Dictionary.get?_map (fun _ => List.filter tag.carries) canonical
    equivalents.entries
  unfold aliasesOf carriedBy Dictionary.mapValues
  rw [found]
  cases Dictionary.get? canonical equivalents.entries with
  | none => rfl
  | some names => rfl

/-! ## Silent checks -/

namespace RuleSet

theorem attemptFrom_cons_congr {name : Text} {check : Check} {rest others : RuleSet}
    (same : ∀ accepted, attemptFrom tag environment quiet rest accepted =
      attemptFrom tag environment quiet others accepted) (accepted : Dictionary Text) :
    attemptFrom tag environment quiet ((name, check) :: rest) accepted =
      attemptFrom tag environment quiet ((name, check) :: others) accepted := by
  simp only [attemptFrom, same]

/-- A check that passes over an absent value in silence. -/
def Silent (tag : Tag) (environment : Environment) (quiet : Bool) (check : Check) (name : Text) :
    Prop :=
  check ⟨tag.name, name, quiet, environment⟩ none = pure (.error .absentOptional)

theorem attemptFrom_cons_silent {name : Text} {check : Check} (absent : tag.get? name = none)
    (silent : Silent tag environment quiet check name) (rest : RuleSet)
    (accepted : Dictionary Text) :
    attemptFrom tag environment quiet ((name, check) :: rest) accepted =
      attemptFrom tag environment quiet rest accepted := by
  rw [attemptFrom, absent, silent, pure_bind]

theorem attemptFrom_carried {check : Check} {names : List Text} {rest others : RuleSet}
    (silent : ∀ name ∈ names, tag.get? name = none → Silent tag environment quiet check name)
    (same : ∀ accepted, attemptFrom tag environment quiet rest accepted =
      attemptFrom tag environment quiet others accepted) (accepted : Dictionary Text) :
    attemptFrom tag environment quiet (names.map (fun name => (name, check)) ++ rest) accepted =
      attemptFrom tag environment quiet
        ((names.filter tag.carries).map (fun name => (name, check)) ++ others) accepted := by
  induction names generalizing accepted with
  | nil => exact same accepted
  | cons name names inductionHypothesis =>
      obtain ⟨here, behind⟩ := List.forall_mem_cons.mp silent
      rw [List.map_cons, List.cons_append]
      cases written : tag.get? name with
      | none =>
          have refused : ¬tag.carries name := by simp [Tag.carries, written]
          rw [attemptFrom_cons_silent written (here written), List.filter_cons_of_neg refused]
          exact inductionHypothesis behind accepted
      | some value =>
          have carried : tag.carries name := by simp [Tag.carries, written]
          rw [List.filter_cons_of_pos carried, List.map_cons, List.cons_append]
          exact attemptFrom_cons_congr (inductionHypothesis behind) accepted

theorem attempt_carriedBy {ruleSet : RuleSet}
    (silent : ∀ entry ∈ ruleSet, ∀ name ∈ equivalents.aliasesOf entry.1, tag.get? name = none →
      Silent tag environment quiet entry.2 name) :
    attempt equivalents tag environment quiet ruleSet =
      attempt (equivalents.carriedBy tag) tag environment quiet ruleSet := by
  unfold attempt
  generalize ([] : Dictionary Text) = accepted
  induction ruleSet generalizing accepted with
  | nil => rfl
  | cons entry rest inductionHypothesis =>
      obtain ⟨canonical, check⟩ := entry
      obtain ⟨here, behind⟩ := List.forall_mem_cons.mp silent
      have unfolded (equivalents : Equivalents) : expand equivalents ((canonical, check) :: rest) =
          (canonical, check) :: ((equivalents.aliasesOf canonical).map
            (fun name => (name, check)) ++ expand equivalents rest) := rfl
      rw [unfolded, unfolded, Equivalents.aliasesOf_carriedBy]
      exact attemptFrom_cons_congr (attemptFrom_carried here (inductionHypothesis behind)) accepted

end RuleSet

/-! ## Checks with and without them -/

namespace Chain

/-- Only for optional validators are there aliases that a tag does not carry. -/
def UncarriedOptional (equivalents : Equivalents) (tag : Tag) (chain : CompiledChain) : Prop :=
  ∀ ruleSet ∈ chain, ∀ entry ∈ ruleSet, ∀ name ∈ equivalents.aliasesOf entry.1,
    tag.get? name = none → entry.2.options.requirement = .optional

instance (equivalents : Equivalents) (tag : Tag) (chain : CompiledChain) :
    Decidable (UncarriedOptional equivalents tag chain) :=
  inferInstanceAs (Decidable (∀ ruleSet ∈ chain, ∀ entry ∈ ruleSet,
    ∀ name ∈ equivalents.aliasesOf entry.1,
      tag.get? name = none → entry.2.options.requirement = .optional))

/-- Where they stand for optional validators only, aliases that a tag does not carry change nothing:
neither verdict nor attributes nor what is reported. -/
theorem check_carriedBy (quiet : Bool) (environment : Environment) {chain : CompiledChain}
    (optional : UncarriedOptional equivalents tag chain) :
    check equivalents quiet environment (Validator.checkChain chain) tag =
      check (equivalents.carriedBy tag) quiet environment (Validator.checkChain chain) tag := by
  by_cases empty : chain = []
  · subst empty
    rfl
  · have nonempty := Validator.checkChain_ne_nil empty
    have sameAttempts : ∀ checks ∈ Validator.checkChain chain, ∀ quietly,
        RuleSet.attempt equivalents tag environment quietly checks =
          RuleSet.attempt (equivalents.carriedBy tag) tag environment quietly checks := by
      intro checks member quietly
      rw [Validator.checkChain_eq_map] at member
      obtain ⟨ruleSet, inside, rfl⟩ := List.mem_map.mp member
      refine RuleSet.attempt_carriedBy fun entry listed name standsFor absent => ?_
      rw [Validator.checkRuleSet_eq_map] at listed
      obtain ⟨⟨canonical, validator⟩, written, rfl⟩ := List.mem_map.mp listed
      exact Validator.check_none_of_optional
        (optional ruleSet inside _ written name standsFor absent)
    rw [check_eq nonempty, check_eq nonempty, decisive_congr rfl sameAttempts]

/-- A link by its source, with another name for the source that it does not carry. -/
def sourced : Tag := ⟨"a", [("src", "x"), ("rev", "next")]⟩

def linkAliases : Equivalents := ⟨[("href", ["src", "data"]), ("rel", ["rev"])]⟩

def linkWithRelation : CompiledChain :=
  [[("href", Validator.text), ("rel", Validator.text.withDefault "nofollow")]]

theorem check_carriedBy_sourced :
    UncarriedOptional linkAliases sourced linkWithRelation ∧
      check linkAliases false .detached (Validator.checkChain linkWithRelation) sourced =
        check (linkAliases.carriedBy sourced) false .detached
          (Validator.checkChain linkWithRelation) sourced ∧
      linkAliases.carriedBy sourced ≠ linkAliases :=
  have optional : UncarriedOptional linkAliases sourced linkWithRelation := by decide
  ⟨optional, check_carriedBy false .detached optional, by decide⟩

/-! ## Aliases of other validators -/

/-- A tag is accepted only with every alias of the validators that need a value: those of a required
one it has to carry, and those of one with a default it is given. -/
theorem needs_aliases_of_accepted {quiet : Bool} {left : Tag} {chain : CompiledChain}
    (nonempty : chain ≠ [])
    (accepted : (check equivalents quiet environment (Validator.checkChain chain) tag).value =
      (.accepted, left)) :
    ∃ ruleSet ∈ chain, ∀ entry ∈ ruleSet, ∀ name ∈ equivalents.aliasesOf entry.1,
      (entry.2.options.requirement = .required → tag.carries name) ∧
      (entry.2.options.requirement ≠ .optional → name ∈ Dictionary.keys left.attributes) := by
  obtain ⟨before, ruleSet, behind, attempt, rfl, _, outcome, _, carried⟩ :=
    exists_deciding_validators equivalents quiet environment tag nonempty
  refine ⟨ruleSet, List.mem_append_right _ List.mem_cons_self, ?_⟩
  intro entry member name standsFor
  rw [carried] at accepted
  cases outcome with
  | fallback => exact absurd accepted nofun
  | invalid => exact absurd accepted nofun
  | accepted unended =>
      obtain ⟨-, rfl⟩ := Prod.mk.inj accepted
      refine ⟨fun required => ?_, fun needed => ?_⟩
      · have answered := mem_walk_checkRuleSet tag environment (quiet || !behind.isEmpty) member
          (.inr standsFor)
        have passed := List.findSome?_eq_none_iff.mp unended _ answered
        cases written : tag.get? name with
        | some value => simp [Tag.carries, written]
        | none =>
            -- The validator says that a value is missing, and that ends a try.
            rw [written, Validator.check_none_of_required required] at passed
            exact absurd passed nofun
      · obtain ⟨value, given⟩ := mem_given_of_needed member needed (.inr standsFor) unended
        exact (kept_ordered tag _).mem_keys given

-- A language by another name that nobody wrote.
example : (check ⟨[("lang", ["xml:lang"])]⟩ false .detached
    (Validator.checkChain [[("lang", Validator.text.withDefault "en")]]) ⟨"p", []⟩).value =
      (.accepted, ⟨"p", [("lang", "en"), ("xml:lang", "en")]⟩) := by decide

/-- A link that has to have a target. -/
def targetRequired : CompiledChain := [[("href", Validator.text.required)]]

def targeted : Tag := ⟨"a", [("href", "/x")]⟩

/-- The name for a source that the link does not carry has it refused. -/
theorem refused_for_source :
    (check sourceForLink false .detached (Validator.checkChain targetRequired) targeted).value =
        (.exhausted, targeted) ∧
      (check (sourceForLink.carriedBy targeted) false .detached
        (Validator.checkChain targetRequired) targeted).value = (.accepted, targeted) :=
  ⟨by decide, by decide⟩

end Chain
end SafeMarkup
