import SafeMarkup.Proofs.Chain

/-!
Contract: which rule set of a chain decides about a tag, and by what.

Owns: the answers of the checks of a rule set, one after another, as the whole account of trying
it; the attempt that decides; and a check of a chain as that attempt, carried out on the tag.

Does not own: single checks, which are arbitrary here.
-/

namespace SafeMarkup

namespace RuleSet

variable {tag : Tag} {environment : Environment} {quiet : Bool}

/-! ## Answers -/

/-- What the checks of a rule set say of a tag, one after another. -/
def answers (tag : Tag) (environment : Environment) (quiet : Bool) (checks : RuleSet) :
    List (Text × Except Rejection Text) :=
  checks.map fun (name, check) =>
    (name, (check ⟨tag.name, name, quiet, environment⟩ (tag.get? name)).value)

/-- What an answer makes of the whole rule set, if it ends the try. -/
def ends? : Text × Except Rejection Text → Option Attempt
  | (_, .error .missingRequired) => some .fallback
  | (_, .error .sequenceInconsistent) => some .fallback
  | (_, .error .invalid) => some .invalid
  | _ => none

/-- The values that answers give out. -/
def given (answers : List (Text × Except Rejection Text)) : List (Text × Text) :=
  answers.filterMap fun (name, answer) => answer.toOption.map fun value => (name, value)

/-- Checks are asked until one ends the try; if none does, the values that they gave out are
accepted. -/
theorem value_attemptFrom (checks : RuleSet) (accepted : Dictionary Text) :
    (attemptFrom tag environment quiet checks accepted).value =
      ((answers tag environment quiet checks).findSome? ends?).getD
        (.accepted (Dictionary.insertAll (given (answers tag environment quiet checks))
          accepted)) := by
  induction checks generalizing accepted with
  | nil => rfl
  | cons entry rest inductionHypothesis =>
      obtain ⟨name, check⟩ := entry
      have front : answers tag environment quiet ((name, check) :: rest) =
          (name, (check ⟨tag.name, name, quiet, environment⟩ (tag.get? name)).value) ::
            answers tag environment quiet rest := rfl
      rw [attemptFrom, Reported.value_bind, front]
      generalize (check ⟨tag.name, name, quiet, environment⟩ (tag.get? name)).value = answer
      cases answer with
      | ok value => exact inductionHypothesis _
      | error rejection =>
          cases rejection with
          | absentOptional => exact inductionHypothesis _
          | defaultApplied => exact inductionHypothesis _
          | missingRequired => rfl
          | invalid => rfl
          | sequenceInconsistent => rfl

/-- The answers of the names of a rule set, each followed by the names that stand for it. -/
def walk (equivalents : Equivalents) (tag : Tag) (environment : Environment) (quiet : Bool)
    (ruleSet : RuleSet) : List (Text × Except Rejection Text) :=
  answers tag environment quiet (expand equivalents ruleSet)

variable {equivalents : Equivalents}

theorem value_attempt (ruleSet : RuleSet) :
    (attempt equivalents tag environment quiet ruleSet).value =
      ((walk equivalents tag environment quiet ruleSet).findSome? ends?).getD
        (.accepted (Dictionary.ofList (given (walk equivalents tag environment quiet ruleSet)))) :=
  value_attemptFrom _ _

theorem mem_walk {ruleSet : RuleSet} {name : Text} {answer : Except Rejection Text} :
    (name, answer) ∈ walk equivalents tag environment quiet ruleSet ↔
      ∃ canonical check, (canonical, check) ∈ ruleSet ∧
        (name = canonical ∨ name ∈ equivalents.aliasesOf canonical) ∧
        (check ⟨tag.name, name, quiet, environment⟩ (tag.get? name)).value = answer := by
  unfold walk answers
  rw [List.mem_map]
  constructor
  · rintro ⟨⟨other, check⟩, member, same⟩
    obtain ⟨rfl, said⟩ := Prod.mk.inj same
    obtain ⟨canonical, standing, standsFor⟩ := mem_expand.mp member
    exact ⟨canonical, check, standing, standsFor, said⟩
  · rintro ⟨canonical, check, standing, standsFor, said⟩
    exact ⟨(name, check), mem_expand.mpr ⟨canonical, standing, standsFor⟩, Prod.ext rfl said⟩

theorem mem_given {answers : List (Text × Except Rejection Text)} {name value : Text} :
    (name, value) ∈ given answers ↔ (name, .ok value) ∈ answers := by
  unfold given
  rw [List.mem_filterMap]
  constructor
  · rintro ⟨⟨other, answer⟩, member, same⟩
    cases answer with
    | error rejection => exact absurd same nofun
    | ok otherValue =>
        obtain ⟨rfl, rfl⟩ := Prod.mk.inj (Option.some.inj same)
        exact member
  · intro member
    exact ⟨_, member, rfl⟩

/-- What trying a rule set comes to: the first answer that ends the try decides, and if there is
none, everything that was given out is accepted. -/
inductive Outcome (answers : List (Text × Except Rejection Text)) : Attempt → Prop where
  | accepted (unended : answers.findSome? ends? = none) :
      Outcome answers (.accepted (Dictionary.ofList (given answers)))
  | fallback (ended : answers.findSome? ends? = some .fallback) : Outcome answers .fallback
  | invalid (ended : answers.findSome? ends? = some .invalid) : Outcome answers .invalid

theorem ends?_ne_accepted (answer : Text × Except Rejection Text) (values : Dictionary Text) :
    ends? answer ≠ some (.accepted values) := by
  unfold ends?
  split <;> simp

theorem outcome_attempt (ruleSet : RuleSet) :
    Outcome (walk equivalents tag environment quiet ruleSet)
      (attempt equivalents tag environment quiet ruleSet).value := by
  rw [value_attempt]
  cases ended : (walk equivalents tag environment quiet ruleSet).findSome? ends? with
  | none => exact .accepted ended
  | some outcome =>
      cases outcome with
      | fallback => exact .fallback ended
      | invalid => exact .invalid ended
      | accepted values =>
          obtain ⟨answer, _, same⟩ := List.exists_of_findSome?_eq_some ended
          exact absurd same (ends?_ne_accepted answer values)

end RuleSet

namespace Chain

variable {equivalents : Equivalents} {quiet : Bool} {environment : Environment} {tag : Tag}

/-! ## The attempt that decides -/

/-- The attempt that decides about a tag: the first that does not fall back. -/
def decisive (equivalents : Equivalents) (quiet : Bool) (environment : Environment) (tag : Tag) :
    Chain → Reported Attempt
  | [] => pure .fallback
  | ruleSet :: rest => do
    let quietly := quiet || !rest.isEmpty
    match ← RuleSet.attempt equivalents tag environment quietly ruleSet with
    | .fallback =>
      Reported.noteIf (environment.verbose && !quietly)
        (.trace ("<" ++ tag.name ++ "> matched no rule set"))
      decisive equivalents quiet environment tag rest
    | outcome => pure outcome

/-- What decides depends on the tag and the equivalents only through the attempts. -/
theorem decisive_congr {others : Equivalents} {left right : Tag} {chain : Chain}
    (sameName : left.name = right.name)
    (sameAttempts : ∀ ruleSet ∈ chain, ∀ quietly,
      RuleSet.attempt equivalents left environment quietly ruleSet =
        RuleSet.attempt others right environment quietly ruleSet) :
    decisive equivalents quiet environment left chain =
      decisive others quiet environment right chain := by
  induction chain with
  | nil => rfl
  | cons ruleSet rest inductionHypothesis =>
      obtain ⟨here, behind⟩ := List.forall_mem_cons.mp sameAttempts
      rw [decisive, decisive, here, sameName, inductionHypothesis behind]

/-- What an attempt makes of a tag. -/
def carryOut (tag : Tag) : Attempt → Verdict × Tag
  | .accepted values => (.accepted, { tag with attributes := ordered tag.attributes values })
  | .fallback => (.exhausted, tag)
  | .invalid => (.invalid, tag)

theorem checkFrom_eq (chain : Chain) :
    checkFrom equivalents quiet environment tag chain =
      carryOut tag <$> decisive equivalents quiet environment tag chain := by
  induction chain with
  | nil => rfl
  | cons ruleSet rest inductionHypothesis =>
      rw [checkFrom, decisive, map_bind]
      refine bind_congr fun outcome => ?_
      cases outcome with
      | accepted values => rfl
      | invalid => rfl
      | fallback => simp only [inductionHypothesis, map_bind]

theorem check_eq {chain : Chain} (nonempty : chain ≠ []) :
    check equivalents quiet environment chain tag =
      carryOut tag <$> decisive equivalents quiet environment tag chain := by
  rw [check, if_neg (by simpa using nonempty), checkFrom_eq]

/-- Some rule set of a chain decides: the ones before it fall back, all of them tried quietly, and
so does it only if it is the last. -/
theorem exists_deciding (equivalents : Equivalents) (quiet : Bool) (environment : Environment)
    (tag : Tag) {chain : Chain} (nonempty : chain ≠ []) :
    ∃ before ruleSet behind, chain = before ++ ruleSet :: behind ∧
      (∀ earlier ∈ before,
        (RuleSet.attempt equivalents tag environment true earlier).value = .fallback) ∧
      (decisive equivalents quiet environment tag chain).value =
        (RuleSet.attempt equivalents tag environment (quiet || !behind.isEmpty) ruleSet).value ∧
      ((decisive equivalents quiet environment tag chain).value = .fallback → behind = []) := by
  induction chain with
  | nil => exact absurd rfl nonempty
  | cons ruleSet rest inductionHypothesis =>
      rw [decisive, Reported.value_bind]
      cases tried : (RuleSet.attempt equivalents tag environment (quiet || !rest.isEmpty)
        ruleSet).value with
      | accepted values => exact ⟨[], ruleSet, rest, rfl, nofun, tried.symm, nofun⟩
      | invalid => exact ⟨[], ruleSet, rest, rfl, nofun, tried.symm, nofun⟩
      | fallback =>
          by_cases last : rest = []
          · subst last
            exact ⟨[], ruleSet, [], rfl, nofun, tried.symm, fun _ => rfl⟩
          · obtain ⟨before, found, behind, rfl, falls, decided, exhausted⟩ :=
              inductionHypothesis last
            refine ⟨ruleSet :: before, found, behind, rfl, ?_, decided, exhausted⟩
            -- With another rule set behind it, this one was tried quietly in any run.
            have othersFollow : (quiet || !(before ++ found :: behind).isEmpty) = true := by simp
            rw [othersFollow] at tried
            exact List.forall_mem_cons.mpr ⟨tried, falls⟩

end Chain
end SafeMarkup
