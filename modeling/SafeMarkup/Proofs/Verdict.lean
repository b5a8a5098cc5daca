import SafeMarkup.Policy.Compile
import SafeMarkup.Proofs.Deciding
import SafeMarkup.Proofs.Requirement

/-!
Contract: the whole account of a check of a tag against a chain.

Owns: the order in which accepted attributes are written; and the law that gives verdict and tag of
a check from the answers of the validators, rule set after rule set.

Does not own: the answers themselves.
-/

namespace SafeMarkup

/-! ## Attributes in their order -/

open Dictionary in
theorem keys_ordered (attributes : List (Text × Text)) {accepted : Dictionary Text}
    (distinct : (keys accepted).Nodup) :
    keys (ordered attributes accepted) =
      (keys attributes).eraseDups.filter (keys accepted).contains ++
        (keys accepted).filter fun key => !(keys attributes).contains key := by
  induction attributes generalizing accepted with
  | nil => simp [ordered, keys]
  | cons pair rest inductionHypothesis =>
      obtain ⟨key, written⟩ := pair
      rw [ordered, keys_cons, List.eraseDups_cons, eraseDups_filter]
      split
      case h_1 value found =>
        have present : key ∈ keys accepted := exists_get?_iff.mp ⟨value, found⟩
        have left := keys_erase key distinct
        have leftDistinct : (keys (erase key accepted)).Nodup := left ▸ distinct.filter _
        have behind := inductionHypothesis leftDistinct
        -- The key comes first. Behind it, it is out of the tag and out of what is accepted.
        rw [keys_cons, behind, left, List.filter_cons_of_pos (by simpa using present),
          List.cons_append, List.filter_filter, List.filter_filter]
        refine congrArg (key :: ·) (congrArg₂ (· ++ ·) (List.filter_congr ?_)
          (List.filter_congr ?_))
        · intro other _
          by_cases same : other = key
          · simp [same]
          · simp [same]
        · intro other _
          by_cases same : other = key
          · simp [same]
          · simp [same]
      case h_2 missing =>
        have absent : key ∉ keys accepted := get?_eq_none_iff.mp missing
        rw [inductionHypothesis distinct, List.filter_cons_of_neg (by simpa using absent),
          List.filter_filter]
        refine congrArg₂ (· ++ ·) (List.filter_congr ?_) (List.filter_congr ?_)
        · intro other _
          by_cases same : other = key
          · simp [same, absent]
          · simp [same]
        · intro other member
          have different : other ≠ key := by
            rintro rfl
            exact absent member
          simp [different]

theorem nodup_keys_ordered (attributes : List (Text × Text)) {accepted : Dictionary Text}
    (distinct : (Dictionary.keys accepted).Nodup) :
    (Dictionary.keys (ordered attributes accepted)).Nodup :=
  ((ordered_perm attributes accepted).map Prod.fst).nodup_iff.mpr distinct

theorem get?_ordered (attributes : List (Text × Text)) {accepted : Dictionary Text}
    (distinct : (Dictionary.keys accepted).Nodup) (key : Text) :
    Dictionary.get? key (ordered attributes accepted) = Dictionary.get? key accepted :=
  Dictionary.get?_eq_of_perm (nodup_keys_ordered attributes distinct)
    (ordered_perm attributes accepted)

open Dictionary in
/-- The attributes that an accepted tag gets, from the values that were given out for it. -/
structure Kept (tag : Tag) (given : List (Text × Text)) (attributes : Dictionary Text) : Prop where
  distinct : (keys attributes).Nodup
  /-- First the keys that the tag has, in the order of the tag; then the others, in the order in
  which they were given out. Of a repeated key the first place counts. -/
  order : keys attributes = (keys tag.attributes).eraseDups.filter (keys given).contains ++
    (keys given).eraseDups.filter fun key => !(keys tag.attributes).contains key
  /-- Of several values for a key the last one counts. -/
  value : ∀ key, get? key attributes = get? key given.reverse

open Dictionary in
theorem kept_ordered (tag : Tag) (given : List (Text × Text)) :
    Kept tag given (ordered tag.attributes (ofList given)) := by
  have distinct := nodup_keys_ofList given
  refine ⟨nodup_keys_ordered _ distinct, ?_, fun key => ?_⟩
  · have sameKeys : (keys given).eraseDups.contains = (keys given).contains := by
      funext key
      simp [List.mem_eraseDups]
    rw [keys_ordered tag.attributes distinct, keys_ofList, sameKeys]
  · rw [get?_ordered _ distinct, get?_ofList]

theorem Kept.mem_keys {tag : Tag} {given : List (Text × Text)} {attributes : Dictionary Text}
    (kept : Kept tag given attributes) {pair : Text × Text} (member : pair ∈ given) :
    pair.1 ∈ Dictionary.keys attributes := by
  have present : pair.1 ∈ Dictionary.keys given.reverse :=
    List.mem_map.mpr ⟨pair, List.mem_reverse.mpr member, rfl⟩
  obtain ⟨value, found⟩ := Dictionary.exists_get?_iff.mpr present
  exact Dictionary.exists_get?_iff.mp ⟨value, (kept.value pair.1).trans found⟩

/-! ## Verdicts -/

theorem Validator.checkChain_ne_nil {chain : CompiledChain} (nonempty : chain ≠ []) :
    checkChain chain ≠ [] := by
  simpa [checkChain_eq_map] using nonempty

namespace Chain

/-- What a check comes to by the rule set that decides it, from the answers of that rule set and the
rule sets behind it. -/
inductive Decided (tag : Tag) (ruleSet : List (Text × Validator)) (behind : CompiledChain)
    (answers : List (Text × Except Rejection Text)) : Verdict × Tag → Prop where
  /-- Not even the last rule set applies. The tag stays as it is. -/
  | exhausted (last : behind = []) (falls : RuleSet.Outcome answers .fallback) :
      Decided tag ruleSet behind answers (.exhausted, tag)
  /-- An answer is invalid. The tag stays as it is. -/
  | invalid (refused : RuleSet.Outcome answers .invalid) :
      Decided tag ruleSet behind answers (.invalid, tag)
  /-- No answer ends the try. The tag keeps its name, and what was given out becomes its attributes;
  a name whose validator does not do without a value is among them. -/
  | accepted (attributes : Dictionary Text) (unended : answers.findSome? RuleSet.ends? = none)
      (kept : Kept tag (RuleSet.given answers) attributes)
      (present : ∀ entry ∈ ruleSet, entry.2.options.requirement ≠ .optional →
        entry.1 ∈ Dictionary.keys attributes) :
      Decided tag ruleSet behind answers (.accepted, { tag with attributes })

variable {equivalents : Equivalents} {tag : Tag} {environment : Environment} {quiet : Bool}

theorem mem_walk_checkRuleSet (tag : Tag) (environment : Environment) (quiet : Bool)
    {ruleSet : List (Text × Validator)} {entry : Text × Validator} (member : entry ∈ ruleSet)
    {name : Text} (standsFor : name = entry.1 ∨ name ∈ equivalents.aliasesOf entry.1) :
    (name, (entry.2.check ⟨tag.name, name, quiet, environment⟩ (tag.get? name)).value) ∈
      RuleSet.walk equivalents tag environment quiet (Validator.checkRuleSet ruleSet) := by
  rw [Validator.checkRuleSet_eq_map]
  exact RuleSet.mem_walk.mpr
    ⟨entry.1, entry.2.check, List.mem_map.mpr ⟨entry, member, rfl⟩, standsFor, rfl⟩

/-- A validator that does not do without a value gives one out for its name, and for each name that
stands for it, unless it ends the try. -/
theorem mem_given_of_needed {ruleSet : List (Text × Validator)} {entry : Text × Validator}
    (member : entry ∈ ruleSet) (needed : entry.2.options.requirement ≠ .optional) {name : Text}
    (standsFor : name = entry.1 ∨ name ∈ equivalents.aliasesOf entry.1)
    (unended : (RuleSet.walk equivalents tag environment quiet
      (Validator.checkRuleSet ruleSet)).findSome? RuleSet.ends? = none) :
    ∃ value, (name, value) ∈ RuleSet.given (RuleSet.walk equivalents tag environment quiet
      (Validator.checkRuleSet ruleSet)) := by
  obtain ⟨canonical, validator⟩ := entry
  have answered := mem_walk_checkRuleSet tag environment quiet member standsFor
  have passed := List.findSome?_eq_none_iff.mp unended _ answered
  cases said : (validator.check ⟨tag.name, name, quiet, environment⟩ (tag.get? name)).value with
  | ok value => exact ⟨value, RuleSet.mem_given.mpr (said ▸ answered)⟩
  | error rejection =>
      rw [said] at passed
      rcases Validator.check_eq_error said with rfl | ⟨rfl, notReplaced⟩
      · exact absurd passed nofun
      · cases requirement : validator.options.requirement with
        | optional => exact absurd requirement needed
        | required => exact absurd (requirement ▸ passed) nofun
        | substitute usual => exact absurd (requirement ▸ rfl) notReplaced

theorem decided_carryOut {ruleSet : List (Text × Validator)} {behind : CompiledChain}
    {attempt : Attempt}
    (outcome : RuleSet.Outcome (RuleSet.walk equivalents tag environment quiet
      (Validator.checkRuleSet ruleSet)) attempt)
    (exhausted : attempt = .fallback → behind = []) :
    Decided tag ruleSet behind (RuleSet.walk equivalents tag environment quiet
      (Validator.checkRuleSet ruleSet)) (carryOut tag attempt) := by
  cases outcome with
  | fallback ended => exact .exhausted (exhausted rfl) (.fallback ended)
  | invalid ended => exact .invalid (.invalid ended)
  | accepted unended =>
      have kept := kept_ordered tag (RuleSet.given (RuleSet.walk equivalents tag environment quiet
        (Validator.checkRuleSet ruleSet)))
      refine .accepted _ unended kept fun entry member needed => ?_
      obtain ⟨value, given⟩ := mem_given_of_needed member needed (.inl rfl) unended
      exact kept.mem_keys given

/-- Some rule set of validators decides about a tag, unless there is none. -/
theorem exists_deciding_validators (equivalents : Equivalents) (quiet : Bool)
    (environment : Environment) (tag : Tag) {chain : CompiledChain} (nonempty : chain ≠ []) :
    ∃ before ruleSet behind attempt, chain = before ++ ruleSet :: behind ∧
      (∀ earlier ∈ before, RuleSet.Outcome (RuleSet.walk equivalents tag environment true
        (Validator.checkRuleSet earlier)) .fallback) ∧
      RuleSet.Outcome (RuleSet.walk equivalents tag environment (quiet || !behind.isEmpty)
        (Validator.checkRuleSet ruleSet)) attempt ∧
      (attempt = .fallback → behind = []) ∧
      (check equivalents quiet environment (Validator.checkChain chain) tag).value =
        carryOut tag attempt := by
  have checksNonempty := Validator.checkChain_ne_nil nonempty
  have carried : (check equivalents quiet environment (Validator.checkChain chain) tag).value =
      carryOut tag (decisive equivalents quiet environment tag
        (Validator.checkChain chain)).value := by
    rw [check_eq checksNonempty]
    rfl
  obtain ⟨checksBefore, checks, checksBehind, split, falls, decided, exhausted⟩ :=
    exists_deciding equivalents quiet environment tag checksNonempty
  rw [Validator.checkChain_eq_map, List.map_eq_append_iff] at split
  obtain ⟨before, others, rfl, rfl, split⟩ := split
  obtain ⟨ruleSet, behind, rfl, rfl, rfl⟩ := List.map_eq_cons_iff.mp split
  refine ⟨before, ruleSet, behind, _, rfl, fun earlier member => ?_, ?_, ?_, carried⟩
  · rw [← falls _ (List.mem_map_of_mem member)]
    exact RuleSet.outcome_attempt _
  · rw [decided, List.isEmpty_map]
    exact RuleSet.outcome_attempt _
  · simpa using exhausted

/-- The whole account of a check. The first rule set that does not fall back decides, or the last
one if all do; earlier ones are tried quietly. Its answers give verdict and attributes, and the tag
changes only if it is accepted. -/
theorem check_decided (equivalents : Equivalents) (quiet : Bool) (environment : Environment)
    (tag : Tag) {chain : CompiledChain} (nonempty : chain ≠ []) :
    ∃ before ruleSet behind, chain = before ++ ruleSet :: behind ∧
      (∀ earlier ∈ before, RuleSet.Outcome (RuleSet.walk equivalents tag environment true
        (Validator.checkRuleSet earlier)) .fallback) ∧
      Decided tag ruleSet behind (RuleSet.walk equivalents tag environment
          (quiet || !behind.isEmpty) (Validator.checkRuleSet ruleSet))
        (check equivalents quiet environment (Validator.checkChain chain) tag).value := by
  obtain ⟨before, ruleSet, behind, attempt, split, falls, outcome, exhausted, carried⟩ :=
    exists_deciding_validators equivalents quiet environment tag nonempty
  rw [carried]
  exact ⟨before, ruleSet, behind, split, falls, decided_carryOut outcome exhausted⟩

/-- A chain that asks for an anchor first and takes a link otherwise. -/
def anchorOrLink : CompiledChain :=
  [[("id", Validator.text.required)],
    [("href", Validator.text), ("src", Validator.text.strip false),
      ("rel", Validator.text.withDefault "nofollow")]]

def sourceForLink : Equivalents := ⟨[("href", ["src"])]⟩

/-- A link with two sources. -/
def linkedTwice : Tag := ⟨"a", [("src", " x"), ("class", "y"), ("href", "/"), ("src", "z")]⟩

/-- The second rule set decides. The source is checked as a link and then by its own name, which
keeps the blank. -/
theorem check_decided_link :
    anchorOrLink ≠ [] ∧
      (∃ before ruleSet behind, anchorOrLink = before ++ ruleSet :: behind ∧
        (∀ earlier ∈ before, RuleSet.Outcome (RuleSet.walk sourceForLink linkedTwice .detached true
          (Validator.checkRuleSet earlier)) .fallback) ∧
        Decided linkedTwice ruleSet behind (RuleSet.walk sourceForLink linkedTwice .detached
            (false || !behind.isEmpty) (Validator.checkRuleSet ruleSet))
          (check sourceForLink false .detached (Validator.checkChain anchorOrLink)
            linkedTwice).value) ∧
      (check sourceForLink false .detached (Validator.checkChain anchorOrLink) linkedTwice).value =
        (.accepted, ⟨"a", [("src", " x"), ("href", "/"), ("rel", "nofollow")]⟩) :=
  have nonempty : anchorOrLink ≠ [] := nofun
  ⟨nonempty, check_decided sourceForLink false .detached linkedTwice nonempty, by decide⟩

end Chain
end SafeMarkup
