import SafeMarkup.Proofs.Compilation

/-!
Contract: what taking elements off a policy does to the compiled policy.

Owns: denied elements are not whitelisted and not in any tree; all other elements keep their chains,
unless they had that of a denied one; and the one fault that denying can cause.

Does not own: the warnings about names that were not on the policy.
-/

namespace SafeMarkup

namespace PolicySpec

/-- A deny list has a name, with blanks around it or not. -/
def Denies (names : List Text) (name : Text) : Prop :=
  name ≠ [] ∧ ∃ written ∈ names, Text.trim written = name

theorem mem_deniedNames {names : List Text} {name : Text} :
    name ∈ deniedNames names ↔ Denies names name := by
  simp [deniedNames, Denies, and_comm]

/-! ## What is left of a policy -/

variable (policy : PolicySpec) (denied : List Text)

theorem get?_elements_without (name : Text) :
    Dictionary.get? name (policy.without denied).elements =
      if name ∈ denied then none else Dictionary.get? name policy.elements := by
  have kept := Dictionary.get?_filter_keys (fun name => !denied.contains name) name policy.elements
  refine kept.trans ?_
  by_cases here : name ∈ denied <;> simp [here]

theorem mem_keys_elements_without {name : Text} :
    name ∈ Dictionary.keys (policy.without denied).elements ↔
      name ∈ Dictionary.keys policy.elements ∧ name ∉ denied := by
  rw [← Dictionary.exists_get?_iff, get?_elements_without, ← Dictionary.exists_get?_iff]
  by_cases here : name ∈ denied <;> simp [here]

/-- The aliases that are left are those of no denied element, without the denied names. -/
theorem aliasPairs_without :
    (policy.without denied).aliasPairs = policy.aliasPairs.filter fun pair =>
      !denied.contains pair.1 && !denied.contains pair.2 := by
  have sameRules {canonical : Text} (allowed : canonical ∉ denied) :
      Dictionary.has canonical (policy.without denied).elements =
        Dictionary.has canonical policy.elements := by
    rw [Dictionary.has, get?_elements_without, if_neg allowed, Dictionary.has]
  have aliases : (policy.without denied).elementAliases =
      (policy.elementAliases.filter fun entry => !denied.contains entry.1).map
        fun entry => (entry.1, entry.2.filter fun name => !denied.contains name) := rfl
  unfold aliasPairs
  rw [aliases]
  induction policy.elementAliases with
  | nil => rfl
  | cons entry rest inductionHypothesis =>
      obtain ⟨canonical, names⟩ := entry
      by_cases here : canonical ∈ denied
      · rw [List.filter_cons_of_neg (by simp [here]), inductionHypothesis]
        cases ruled : Dictionary.has canonical policy.elements with
        | false => rw [List.filter_cons_of_neg (by simp [ruled])]
        | true =>
            rw [List.filter_cons_of_pos (by simp [ruled]), List.flatMap_cons, List.filter_append]
            simp [here]
      · rw [List.filter_cons_of_pos (by simp [here]), List.map_cons]
        cases ruled : Dictionary.has canonical policy.elements with
        | false =>
            rw [List.filter_cons_of_neg (by simp [sameRules here, ruled]),
              List.filter_cons_of_neg (by simp [ruled]), inductionHypothesis]
        | true =>
            rw [List.filter_cons_of_pos (by simp [sameRules here, ruled]),
              List.filter_cons_of_pos (by simp [ruled]), List.flatMap_cons, List.flatMap_cons,
              inductionHypothesis, List.filter_append]
            simp [here, List.filter_map, Function.comp_def]

theorem countedPairs_without :
    (policy.without denied).countedPairs = policy.countedPairs.filter fun pair =>
      !denied.contains pair.1 && !denied.contains pair.2 := by
  rw [countedPairs, countedPairs, aliasPairs_without, List.filter_filter, List.filter_filter]
  refine List.filter_congr fun pair _ => ?_
  by_cases here : pair.1 ∈ denied
  · simp [here]
  · rw [Dictionary.has, Dictionary.has, get?_elements_without, if_neg here, Bool.and_comm]

/-- A name that is not denied stands for the same element as before, if that is not denied. -/
theorem get?_compiledAliases_without {name canonical : Text} (allowed : name ∉ denied)
    (standing : Dictionary.get? name policy.compiledAliases = some canonical)
    (canonicalAllowed : canonical ∉ denied) :
    Dictionary.get? name (policy.without denied).compiledAliases = some canonical := by
  -- Of several elements that list a name the last one counts, so names are looked up from the end.
  rw [compiledAliases_eq, Dictionary.get?_ofList] at standing ⊢
  rw [countedPairs_without, ← List.filter_reverse]
  exact Dictionary.get?_filter_eq_some standing (by simp [allowed, canonicalAllowed])

/-- Denying leaves the style tables, and so the chain of every element that is left. -/
theorem get?_elements_compiled_without (name : Text) :
    Dictionary.get? name (policy.without denied).compiled.elements =
      if name ∈ denied then none else Dictionary.get? name policy.compiled.elements := by
  have found (policy : PolicySpec) : Dictionary.get? name policy.compiled.elements =
      (Dictionary.get? name policy.elements).map fun chain =>
        (compileChain policy.compiledTables false name chain).chain := by
    unfold compiled elementResults Dictionary.mapValues
    rw [List.map_map]
    exact Dictionary.get?_map
      (fun name chain => (compileChain policy.compiledTables false name chain).chain) name
      policy.elements
  have sameTables : (policy.without denied).compiledTables = policy.compiledTables := rfl
  rw [found, found, sameTables, get?_elements_without]
  split
  · rfl
  · rfl

theorem isWhitelisted_without_of_mem {name : Text} (here : name ∈ denied) :
    (policy.without denied).compiled.isWhitelisted name = false := by
  rw [Policy.isWhitelisted, ← Bool.not_eq_true, isSome_chainFor?_compiled]
  rintro (own | ⟨entry, written, _, listed⟩)
  · exact ((policy.mem_keys_elements_without denied).mp own).2 here
  · obtain ⟨⟨canonical, names⟩, _, rfl⟩ := List.mem_map.mp written
    have kept := (List.mem_filter.mp listed).2
    simp [here] at kept

/-- What is left of a policy has the chains it had, save those of denied elements. -/
theorem chainFor?_without {name : Text} (allowed : name ∉ denied)
    (whitelisted : policy.compiled.isWhitelisted name)
    (unshared : ∀ canonical, Dictionary.get? name policy.compiled.elementAliases = some canonical →
      canonical ∉ denied) :
    (policy.without denied).compiled.chainFor? name = policy.compiled.chainFor? name := by
  have own : Dictionary.get? name (policy.without denied).compiled.elements =
      Dictionary.get? name policy.compiled.elements := by
    rw [get?_elements_compiled_without, if_neg allowed]
  rw [Policy.chainFor?, Policy.chainFor?, own]
  cases ruled : Dictionary.get? name policy.compiled.elements with
  | some chain => rfl
  | none =>
      -- The chain is a shared one, and what the name stands for is still there.
      rw [Policy.isWhitelisted, Policy.chainFor?, ruled, Option.none_or] at whitelisted
      obtain ⟨chain, shared⟩ := Option.isSome_iff_exists.mp whitelisted
      obtain ⟨canonical, standing, _⟩ := Option.bind_eq_some_iff.mp shared
      have canonicalAllowed := unshared canonical standing
      have still : Dictionary.get? name (policy.without denied).compiled.elementAliases =
          some canonical :=
        policy.get?_compiledAliases_without denied allowed standing canonicalAllowed
      rw [still, standing, Option.bind_some, Option.bind_some, get?_elements_compiled_without,
        if_neg canonicalAllowed]

theorem mem_placed_of_without {placed : Placed} (member : placed ∈ (policy.without denied).placed) :
    placed ∈ policy.placed := by
  rcases List.mem_append.mp member with inTable | inElement
  · exact List.mem_append_left _ inTable
  · obtain ⟨element, written, inside⟩ := List.mem_flatMap.mp inElement
    have before : element ∈ policy.elements := List.mem_of_mem_filter written
    exact List.mem_append_right _ (List.mem_flatMap.mpr ⟨element, before, inside⟩)

/-- Aliases that are left stand for elements that are left. -/
theorem ruled_of_without (flawless : policy.flaws = []) {entry : Text × List Text}
    (written : entry ∈ (policy.without denied).elementAliases) :
    entry.1 ∈ Dictionary.keys (policy.without denied).elements := by
  obtain ⟨-, undangling, -⟩ := policy.flaws_eq_nil_iff.mp flawless
  obtain ⟨⟨canonical, names⟩, kept, rfl⟩ := List.mem_map.mp written
  obtain ⟨before, allowed⟩ := List.mem_filter.mp kept
  have ruled : canonical ∈ Dictionary.keys policy.elements :=
    undangling canonical (List.mem_map_of_mem before)
  exact (policy.mem_keys_elements_without denied).mpr ⟨ruled, by simpa using allowed⟩

/-- Denying can leave stray content without its block, and causes no other fault. -/
theorem flaws_without (flawless : policy.flaws = [])
    (flawed : (policy.without denied).flaws ≠ []) :
    (policy.without denied).flaws = [.defaultBlock policy.effectiveDefaultBlock] ∧
      policy.effectiveDefaultBlock ∉ Dictionary.keys (policy.without denied).elements ∧
      ¬(policy.without denied).Lists policy.effectiveDefaultBlock := by
  obtain ⟨buildable, -, -⟩ := policy.flaws_eq_nil_iff.mp flawless
  have built : (policy.without denied).placed.filterMap (policy.without denied).unbuildable? =
      [] := by
    refine List.filterMap_eq_nil_iff.mpr fun placed member => ?_
    have sameBuild : (policy.without denied).unbuildable? placed = policy.unbuildable? placed := rfl
    rw [sameBuild]
    exact buildable placed (policy.mem_placed_of_without denied member)
  have standing : (Dictionary.keys (policy.without denied).elementAliases).filter
      (· ∉ Dictionary.keys (policy.without denied).elements) = [] := by
    refine List.filter_eq_nil_iff.mpr fun canonical member => ?_
    obtain ⟨entry, written, rfl⟩ := List.mem_map.mp member
    simpa using policy.ruled_of_without denied flawless written
  have sameBlock : (policy.without denied).effectiveDefaultBlock = policy.effectiveDefaultBlock :=
    rfl
  rw [flaws, built, standing, sameBlock, List.map_nil, List.nil_append, List.nil_append] at flawed ⊢
  split at flawed
  case isTrue => exact absurd rfl flawed
  case isFalse missing =>
    obtain ⟨unruled, unlisted⟩ := not_or.mp missing
    exact ⟨if_neg missing, unruled, unlisted⟩

end PolicySpec

/-! ## Denying -/

/-- After a filter pass with a compiled policy, every element is whitelisted. -/
theorem Sanitizer.whitelisted_filterNodes (sanitizer : Sanitizer) {spec : PolicySpec}
    (compiled : spec.compile.value = .ok sanitizer.policy) (nodes : List Node) :
    ∀ tag ∈ Node.tagsAll (sanitizer.filterNodes nodes).value,
      sanitizer.policy.isWhitelisted tag.name := by
  have every : Node.Every (fun tag => sanitizer.policy.isWhitelisted tag.name) (fun _ => True)
      (Policy.collapseRoot
        (sanitizer.policy.collapse (sanitizer.policy.clear sanitizer.site nodes).value)) := by
    refine ⟨?_, fun _ _ => trivial⟩
    intro tag member
    obtain ⟨_, _, _, keeps⟩ :=
      sanitizer.policy.keptFrom_collapseRoot sanitizer.site nodes tag member
    exact keeps.isWhitelisted
  have block := PolicySpec.isWhitelisted_defaultBlock compiled
  exact (sanitizer.policy.every_wrap every block).1

namespace PolicySpec

/-- Denying takes off what is denied and leaves the rest. A denied element is not whitelisted, and
in no tree after a filter pass, whatever it was written as. Any other keeps its chain, unless it had
it from a denied one. A policy still compiles after it, unless it was the default block that went. -/
theorem deny_exact {spec : PolicySpec} {policy : Policy}
    (compiled : spec.compile.value = .ok policy) (names : List Text) :
    (∀ left, (spec.deny names).value.compile.value = .ok left →
      (∀ name, Denies names name → left.isWhitelisted name = false) ∧
      (∀ sanitizer : Sanitizer, sanitizer.policy = left → ∀ nodes,
        ∀ tag ∈ Node.tagsAll (sanitizer.filterNodes nodes).value, ¬Denies names tag.name) ∧
      ∀ name, ¬Denies names name → policy.isWhitelisted name →
        (∀ canonical, Dictionary.get? name policy.elementAliases = some canonical →
          ¬Denies names canonical) →
        left.chainFor? name = policy.chainFor? name) ∧
    ∀ error, (spec.deny names).value.compile.value = .error error →
      error = .one (.defaultBlock spec.effectiveDefaultBlock) ∧
      spec.effectiveDefaultBlock ∉ Dictionary.keys (spec.deny names).value.elements ∧
      ∀ entry ∈ (spec.deny names).value.elementAliases,
        spec.effectiveDefaultBlock ∉ entry.2 := by
  have left_eq : (spec.deny names).value = spec.without (deniedNames names) := rfl
  obtain ⟨rfl, sound⟩ := compile_eq_ok compiled
  have flawless : spec.flaws = [] := spec.faults_eq_flaws ▸ sound
  rw [left_eq]
  constructor
  · intro left built
    obtain ⟨same, -⟩ := compile_eq_ok built
    have unlisted : ∀ name, Denies names name → left.isWhitelisted name = false := by
      intro name denies
      rw [same]
      exact spec.isWhitelisted_without_of_mem _ (mem_deniedNames.mpr denies)
    refine ⟨unlisted, ?_, ?_⟩
    · rintro sanitizer rfl nodes tag member denies
      have listed := sanitizer.whitelisted_filterNodes built nodes tag member
      rw [unlisted _ denies] at listed
      exact absurd listed Bool.false_ne_true
    · intro name allowed whitelisted unshared
      rw [same]
      simp only [← mem_deniedNames] at allowed unshared
      exact spec.chainFor?_without _ allowed whitelisted unshared
  · intro error failed
    have flawed := (spec.without (deniedNames names)).compile_eq_error_iff.mp ⟨error, failed⟩
    obtain ⟨single, unruled, unlisted⟩ := spec.flaws_without _ flawless flawed
    rw [compile_of_one _ single] at failed
    refine ⟨(Except.error.inj failed).symm, unruled, ?_⟩
    intro entry written listed
    exact unlisted ⟨entry, written, spec.ruled_of_without _ flawless written, listed⟩

/-- Links by two names of their own and one that they share with bold text, which becomes a link if
it is marked as one. -/
def sharingSpec : PolicySpec :=
  { empty with
    elements := [("p", []), ("a", [[]]), ("b", [])]
    elementAliases := [("b", ["x"]), ("a", ["x", "y"]), ("p", ["z"])]
    rewrites := [("b", [⟨[("c", "a")], "a", []⟩])] }

def unlinkedSpec : PolicySpec := (sharingSpec.deny [" a "]).value

/-- The sanitizer without links, for markup that is parsed already. -/
def unlinkedSanitizer : Sanitizer :=
  ⟨unlinkedSpec.compiled, .fixed "example.org", fun _ => ⟨[], [], 0⟩⟩

/-- Bold text that is marked as a link, and bold text that is not. -/
def markedNodes : List Node :=
  [.element ⟨"b", [("c", "a")]⟩ [.text "1"], .element ⟨"b", []⟩ [.text "2"]]

theorem deny_exact_sharing :
    unlinkedSpec.compile.value = .ok unlinkedSpec.compiled ∧
      unlinkedSpec.compiled.isWhitelisted "a" = false ∧
      (unlinkedSanitizer.filterNodes markedNodes).value =
        [.element ⟨"p", []⟩ [.element ⟨"b", []⟩ [.text "2"]]] ∧
      (∀ tag ∈ Node.tagsAll (unlinkedSanitizer.filterNodes markedNodes).value,
        ¬Denies [" a "] tag.name) ∧
      unlinkedSpec.compiled.chainFor? "z" = sharingSpec.compiled.chainFor? "z" ∧
      (sharingSpec.deny ["p"]).value.compile.value = .error (.one (.defaultBlock "p")) := by
  have compiled : sharingSpec.compile.value = .ok sharingSpec.compiled := rfl
  have unlinked : unlinkedSpec.compile.value = .ok unlinkedSpec.compiled := rfl
  have denies : Denies [" a "] "a" := mem_deniedNames.mp (by decide)
  obtain ⟨kept, _⟩ := deny_exact compiled [" a "]
  obtain ⟨gone, absent, others⟩ := kept _ unlinked
  have shared : unlinkedSpec.compiled.chainFor? "z" = sharingSpec.compiled.chainFor? "z" := by
    refine others "z" (mem_deniedNames.not.mp (by decide)) rfl fun canonical standing => ?_
    have standsForBlock : canonical = "p" := (Option.some.inj standing).symm
    subst standsForBlock
    exact mem_deniedNames.not.mp (by decide)
  exact ⟨unlinked, gone _ denies, rfl, absent unlinkedSanitizer rfl markedNodes, shared, rfl⟩

end PolicySpec
end SafeMarkup
