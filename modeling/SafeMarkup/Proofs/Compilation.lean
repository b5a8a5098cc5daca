import SafeMarkup.Proofs.Nesting
import SafeMarkup.Proofs.Whitelist
import Mathlib.Data.List.Forall2

/-!
Contract: what becomes of a written policy when it is compiled.

Owns: the faults of a policy, read off what is written; the error they come to, if there are any;
and if there are none, what the compiled policy has of the written one.

Does not own: what compiled validators do with values.
-/

namespace SafeMarkup

/-! ## Entries with the same names -/

namespace Dictionary

variable {α β : Type} {related : Text → α → β → Prop}

/-- Two dictionaries with the same names in the same order, and values that are related. -/
def Related (related : Text → α → β → Prop) : Dictionary α → Dictionary β → Prop :=
  List.Forall₂ fun left right => left.1 = right.1 ∧ related left.1 left.2 right.2

theorem Related.keys_eq {left : Dictionary α} {right : Dictionary β}
    (same : Related related left right) : keys left = keys right := by
  induction same with
  | nil => rfl
  | @cons entry other left right here _ inductionHypothesis =>
      have sameNames : left.map Prod.fst = right.map Prod.fst := inductionHypothesis
      rw [keys, keys, List.map_cons, List.map_cons, here.1, sameNames]

theorem Related.get? {left : Dictionary α} {right : Dictionary β}
    (same : Related related left right) {key : Text} {value : α}
    (found : Dictionary.get? key left = some value) :
    ∃ other, Dictionary.get? key right = some other ∧ related key value other := by
  induction same with
  | nil => exact absurd found nofun
  | @cons entry other left right here _ inductionHypothesis =>
      obtain ⟨name, first⟩ := entry
      obtain ⟨_, second⟩ := other
      obtain ⟨rfl, holds⟩ := here
      rw [Dictionary.get?] at found ⊢
      by_cases same : name = key
      · rw [if_pos same] at found ⊢
        obtain rfl := Option.some.inj found
        exact ⟨second, rfl, same ▸ holds⟩
      · rw [if_neg same] at found ⊢
        exact inductionHypothesis found

end Dictionary

theorem exists_of_mem_right {α β : Type} {related : α → β → Prop} {left : List α} {right : List β}
    (same : List.Forall₂ related left right) {value : β} (member : value ∈ right) :
    ∃ other ∈ left, related other value := by
  induction same with
  | nil => exact absurd member List.not_mem_nil
  | @cons first _ _ _ here _ inductionHypothesis =>
      rcases List.mem_cons.mp member with rfl | member
      · exact ⟨first, List.mem_cons_self, here⟩
      · obtain ⟨other, inside, holds⟩ := inductionHypothesis member
        exact ⟨other, List.mem_cons_of_mem _ inside, holds⟩

theorem exists_of_bind_eq_ok {ε α β : Type} {first : Except ε α} {next : α → Except ε β} {value : β}
    (done : first >>= next = .ok value) :
    ∃ middle, first = .ok middle ∧ next middle = .ok value := by
  cases first with
  | ok middle => exact ⟨middle, rfl, done⟩
  | error fault => exact absurd done nofun

/-! ## What is written -/

/-- A validator as a policy writes it: the name of its place, and whether that is in a style
table. -/
structure Placed where
  location : Text
  inTable : Bool
  spec : ValidatorSpec

/-- The validators of a chain, in order. -/
def placedIn (owner : Text) (inTable : Bool) (chain : ChainSpec) : List Placed :=
  chain.flatten.map fun (name, spec) => ⟨owner ++ "." ++ name, inTable, spec⟩

namespace PolicySpec

/-- The validators of the style tables of a policy. -/
def placedInTables (policy : PolicySpec) : List Placed :=
  policy.styleTables.flatMap fun (name, table) =>
    table.properties.flatMap fun (property, chain) => placedIn (name ++ ":" ++ property) true chain

/-- The validators of the elements of a policy. -/
def placedInElements (policy : PolicySpec) : List Placed :=
  policy.elements.flatMap fun (name, chain) => placedIn name false chain

/-- The validators of a policy, in order. -/
def placed (policy : PolicySpec) : List Placed := policy.placedInTables ++ policy.placedInElements

/-- What building a validator of a policy comes to. Style tables are out of reach of each other. -/
def build (policy : PolicySpec) (placed : Placed) : Except PolicyFault Validator :=
  placed.spec.compile (if placed.inTable then [] else policy.compiledTables) placed.inTable
    placed.location

/-- Why a validator of a policy cannot be built, if it cannot. -/
def unbuildable? (policy : PolicySpec) (placed : Placed) : Option PolicyFault :=
  match policy.build placed with
  | .error fault => some fault
  | .ok _ => none

/-- Whether an element that has rules lists a name among its aliases. -/
def Lists (policy : PolicySpec) (name : Text) : Prop :=
  ∃ entry ∈ policy.elementAliases, entry.1 ∈ Dictionary.keys policy.elements ∧ name ∈ entry.2

instance (policy : PolicySpec) (name : Text) : Decidable (policy.Lists name) :=
  inferInstanceAs (Decidable (∃ entry ∈ policy.elementAliases,
    entry.1 ∈ Dictionary.keys policy.elements ∧ name ∈ entry.2))

/-- The faults of a policy: validators of its style tables and then of its elements, aliases of
elements without rules, and a default block without rules. -/
def flaws (policy : PolicySpec) : List PolicyFault :=
  policy.placed.filterMap policy.unbuildable? ++
    ((Dictionary.keys policy.elementAliases).filter
      (· ∉ Dictionary.keys policy.elements)).map .danglingAlias ++
    if policy.effectiveDefaultBlock ∈ Dictionary.keys policy.elements ∨
        policy.Lists policy.effectiveDefaultBlock then []
    else [.defaultBlock policy.effectiveDefaultBlock]

end PolicySpec

/-- A compiled chain has the rule sets of a written one, each with the same names in the same order
and, under each name, the validator that is written there. -/
def Builds (tables : Dictionary StyleTable) (inTable : Bool) (owner : Text) (written : ChainSpec)
    (built : CompiledChain) : Prop :=
  List.Forall₂ (Dictionary.Related fun name spec validator =>
    spec.compile tables inTable (owner ++ "." ++ name) = .ok validator) written built

/-- A compiled style table has the properties of a written one, under its name and with its
aliases. -/
structure BuildsTable (name : Text) (written : StyleTableSpec) (built : StyleTable) : Prop where
  name_eq : built.name = name
  equivalents_eq : built.equivalents = .ofList written.aliases
  properties : Dictionary.Related (fun property => Builds [] true (name ++ ":" ++ property))
    written.properties built.properties

/-! ## Chains -/

theorem faults_compileChain (policy : PolicySpec) (inTable : Bool) (owner : Text)
    (chain : ChainSpec) :
    (compileChain (if inTable then [] else policy.compiledTables) inTable owner chain).faults =
      (placedIn owner inTable chain).filterMap policy.unbuildable? := by
  simp only [compileChain, ChainResults.faults, placedIn, List.flatMap, List.map_map,
    List.map_flatten, List.filterMap_flatten]
  refine congrArg List.flatten (List.map_congr_left fun ruleSet _ => ?_)
  simp only [Function.comp_apply, List.filterMap_map]
  refine List.filterMap_congr fun entry _ => ?_
  simp only [PolicySpec.unbuildable?, PolicySpec.build]
  split <;> simp_all

/-- Without faults, no result of a chain is dropped. -/
theorem ChainResults.related_chain {results : ChainResults} (sound : results.faults = []) :
    List.Forall₂ (Dictionary.Related fun _ result validator => result = .ok validator) results
      results.chain := by
  induction results with
  | nil => exact .nil
  | cons ruleSet rest inductionHypothesis =>
      rw [faults, List.flatMap_cons, List.append_eq_nil_iff] at sound
      obtain ⟨here, behind⟩ := sound
      refine .cons ?_ (inductionHypothesis behind)
      induction ruleSet with
      | nil => exact .nil
      | cons entry others restHypothesis =>
          obtain ⟨name, result⟩ := entry
          cases result with
          | ok validator => exact .cons ⟨rfl, rfl⟩ (restHypothesis here)
          | error fault => exact absurd here (List.cons_ne_nil _ _)

theorem builds_compileChain {tables : Dictionary StyleTable} {inTable : Bool} {owner : Text}
    {chain : ChainSpec} (sound : (compileChain tables inTable owner chain).faults = []) :
    Builds tables inTable owner chain (compileChain tables inTable owner chain).chain := by
  have built := ChainResults.related_chain sound
  rw [compileChain, List.forall₂_map_left_iff] at built
  exact built.imp fun ruleSet _ same => List.forall₂_map_left_iff.mp same

/-! ## Faults -/

namespace PolicySpec

variable (policy : PolicySpec)

theorem compiledTables_eq_map :
    policy.compiledTables = policy.styleTables.map fun (name, table) => (name,
      ⟨name, table.properties.map fun (property, chain) =>
        (property, (compileChain [] true (name ++ ":" ++ property) chain).chain),
        .ofList table.aliases⟩) := by
  unfold compiledTables styleResults
  induction policy.styleTables with
  | nil => rfl
  | cons entry rest inductionHypothesis =>
      rw [List.map_cons, List.zip_cons_cons, List.map_cons, inductionHypothesis, List.map_cons]
      simp only [Dictionary.mapValues, List.map_map, Function.comp_def]

theorem mem_aliasPairs {name canonical : Text} :
    (name, canonical) ∈ policy.aliasPairs ↔ canonical ∈ Dictionary.keys policy.elements ∧
      ∃ entry ∈ policy.elementAliases, entry.1 = canonical ∧ name ∈ entry.2 := by
  simp only [aliasPairs, List.mem_flatMap, List.mem_filter, List.mem_map, Dictionary.has_iff]
  constructor
  · rintro ⟨entry, ⟨written, ruled⟩, other, listed, same⟩
    obtain ⟨rfl, rfl⟩ := Prod.mk.inj same
    exact ⟨ruled, entry, written, rfl, listed⟩
  · rintro ⟨ruled, entry, written, rfl, listed⟩
    exact ⟨entry, ⟨written, ruled⟩, name, listed, rfl⟩

/-- The aliases that have no rules of their own. -/
def countedPairs : List (Text × Text) :=
  policy.aliasPairs.filter fun pair => !Dictionary.has pair.1 policy.elements

theorem compiledAliases_eq : policy.compiledAliases = Dictionary.ofList policy.countedPairs := rfl

theorem mem_countedPairs {name canonical : Text} :
    (name, canonical) ∈ policy.countedPairs ↔
      (name, canonical) ∈ policy.aliasPairs ∧ name ∉ Dictionary.keys policy.elements := by
  rw [countedPairs, List.mem_filter, Dictionary.has_eq_decide, Bool.not_eq_true',
    decide_eq_false_iff_not]

theorem mem_aliasPairs_of_compiled {name canonical : Text}
    (member : (name, canonical) ∈ policy.compiledAliases) :
    (name, canonical) ∈ policy.aliasPairs ∧ name ∉ Dictionary.keys policy.elements := by
  rcases Dictionary.mem_insertAll member with counted | nothing
  · exact policy.mem_countedPairs.mp counted
  · exact absurd nothing List.not_mem_nil

theorem mem_keys_compiledAliases {name : Text} :
    name ∈ Dictionary.keys policy.compiledAliases ↔
      name ∉ Dictionary.keys policy.elements ∧ policy.Lists name := by
  constructor
  · intro member
    obtain ⟨⟨other, canonical⟩, counted, same⟩ := List.mem_map.mp member
    obtain rfl : other = name := same
    obtain ⟨standing, unruled⟩ := policy.mem_aliasPairs_of_compiled counted
    obtain ⟨ruled, entry, written, rfl, listed⟩ := policy.mem_aliasPairs.mp standing
    exact ⟨unruled, entry, written, ruled, listed⟩
  · rintro ⟨unruled, entry, written, ruled, listed⟩
    have standing : (name, entry.1) ∈ policy.aliasPairs :=
      policy.mem_aliasPairs.mpr ⟨ruled, entry, written, rfl, listed⟩
    rw [compiledAliases_eq, Dictionary.keys_ofList, List.mem_eraseDups]
    exact List.mem_map.mpr ⟨_, policy.mem_countedPairs.mpr ⟨standing, unruled⟩, rfl⟩

theorem hasRules_iff {name : Text} :
    policy.hasRules name ↔ name ∈ Dictionary.keys policy.elements ∨ policy.Lists name := by
  rw [hasRules, Bool.or_eq_true, Dictionary.has_iff, Dictionary.has_iff, mem_keys_compiledAliases]
  tauto

theorem faults_styleResults :
    (policy.styleResults.flatMap fun table => table.2.flatMap fun property => property.2.faults) =
      policy.placedInTables.filterMap policy.unbuildable? := by
  have same (owner : Text) (chain : ChainSpec) : (compileChain [] true owner chain).faults =
      (placedIn owner true chain).filterMap policy.unbuildable? :=
    faults_compileChain policy true owner chain
  simp only [styleResults, placedInTables, List.flatMap_map, List.filterMap_flatMap, same]

theorem faults_elementResults :
    (policy.elementResults.flatMap fun element => element.2.faults) =
      policy.placedInElements.filterMap policy.unbuildable? := by
  have same (owner : Text) (chain : ChainSpec) :
      (compileChain policy.compiledTables false owner chain).faults =
        (placedIn owner false chain).filterMap policy.unbuildable? :=
    faults_compileChain policy false owner chain
  simp only [elementResults, placedInElements, List.flatMap_map, List.filterMap_flatMap, same]

theorem faults_eq_flaws : policy.faults = policy.flaws := by
  have dangling : policy.danglingAliases = (Dictionary.keys policy.elementAliases).filter
      (· ∉ Dictionary.keys policy.elements) := by
    refine List.filter_congr fun canonical _ => ?_
    rw [Dictionary.has_eq_decide, decide_not]
  rw [flaws, placed, List.filterMap_append, ← faults_styleResults, ← faults_elementResults,
    ← dangling]
  simp only [faults, hasRules_iff]

theorem flaws_eq_nil_iff :
    policy.flaws = [] ↔ (∀ placed ∈ policy.placed, policy.unbuildable? placed = none) ∧
      (∀ canonical ∈ Dictionary.keys policy.elementAliases,
        canonical ∈ Dictionary.keys policy.elements) ∧
      (policy.effectiveDefaultBlock ∈ Dictionary.keys policy.elements ∨
        policy.Lists policy.effectiveDefaultBlock) := by
  simp only [flaws, List.append_eq_nil_iff, List.filterMap_eq_nil_iff, List.map_eq_nil_iff,
    List.filter_eq_nil_iff, decide_eq_true_iff, not_not, ite_eq_left_iff, reduceCtorEq, imp_false,
    and_assoc]

theorem unbuildable?_eq_some_iff {placed : Placed} {fault : PolicyFault} :
    policy.unbuildable? placed = some fault ↔ policy.build placed = .error fault := by
  unfold unbuildable?
  cases policy.build placed with
  | ok validator => exact ⟨nofun, nofun⟩
  | error other => exact ⟨fun same => congrArg _ (Option.some.inj same),
      fun same => congrArg _ (Except.error.inj same)⟩

/-! ## Compiling -/

theorem compile_eq_error_iff :
    (∃ error, policy.compile.value = .error error) ↔ policy.flaws ≠ [] := by
  unfold compile
  rw [faults_eq_flaws]
  cases policy.flaws with
  | nil => exact ⟨fun ⟨_, same⟩ => absurd same nofun, fun flawed => absurd rfl flawed⟩
  | cons first rest =>
      refine ⟨fun _ => List.cons_ne_nil _ _, fun _ => ?_⟩
      cases rest with
      | nil => exact ⟨_, rfl⟩
      | cons => exact ⟨_, rfl⟩

theorem compile_of_one {fault : PolicyFault} (single : policy.flaws = [fault]) :
    policy.compile.value = .error (.one fault) := by
  unfold compile
  rw [faults_eq_flaws, single]
  rfl

theorem compile_of_several (several : 2 ≤ policy.flaws.length) :
    policy.compile.value = .error (.several policy.flaws) := by
  unfold compile
  rw [faults_eq_flaws]
  cases faults : policy.flaws with
  | nil => simp [faults] at several
  | cons first rest =>
      cases rest with
      | nil => simp [faults] at several
      | cons => rfl

end PolicySpec

/-! ## Style tables -/

namespace Validator

/-- Whether a validator reads style declarations. -/
def readsStyles : Validator → Bool
  | .style .. => true
  | _ => false

/-- A validator that is built as those of style tables are. -/
def InTable (tables : Dictionary StyleTable) (validator : Validator) : Prop :=
  ∃ spec location, ValidatorSpec.compile tables true location spec = .ok validator

end Validator

theorem SimpleSpec.compile_inTable {tables : Dictionary StyleTable} {location : Text}
    {caseSensitive : Bool} {spec : SimpleSpec} {validator : Validator}
    (built : spec.compile tables true location caseSensitive = .ok validator) :
    ∃ options kind, validator = .simple options kind := by
  cases spec with
  | style table => exact absurd built nofun
  | regexp pattern trimGarbage removeBlanks =>
      rw [compile] at built
      split at built
      case h_1 => exact ⟨_, _, (Except.ok.inj built).symm⟩
      case h_2 => exact absurd built nofun
  | _ => exact ⟨_, _, (Except.ok.inj built).symm⟩

namespace ValidatorSpec

variable {tables : Dictionary StyleTable} {location : Text}

theorem inTable_of_compileSlots {slots : List ValidatorSpec} {index : Nat}
    {validators : List Validator}
    (built : compileSlots tables true location index slots = .ok validators) :
    ∀ validator ∈ validators, validator.InTable tables := by
  induction slots generalizing index validators with
  | nil =>
      obtain rfl := Except.ok.inj built
      exact nofun
  | cons slot slots inductionHypothesis =>
      rw [compileSlots] at built
      obtain ⟨first, here, built⟩ := exists_of_bind_eq_ok built
      obtain ⟨others, behind, built⟩ := exists_of_bind_eq_ok built
      obtain rfl := Except.ok.inj built
      exact List.forall_mem_cons.mpr ⟨⟨slot, _, here⟩, inductionHypothesis behind⟩

/-- An item that is not written is still a validator that could be. -/
theorem inTable_of_compileItem {usual validator : Validator} {item : Option ValidatorSpec}
    (unwritten : usual.InTable tables)
    (built : compileItem tables true location usual item = .ok validator) :
    validator.InTable tables := by
  cases item with
  | none =>
      obtain rfl := Except.ok.inj built
      exact unwritten
  | some item => exact ⟨item, _, built⟩

end ValidatorSpec

namespace Validator

variable {tables : Dictionary StyleTable} {validator part : Validator}

theorem inTable_text : text.InTable tables :=
  ⟨.simple .unwritten .text, [], rfl⟩

theorem inTable_size : size.InTable tables :=
  ⟨.simple .unwritten (.size ⟨none, none, none⟩), [], rfl⟩

namespace InTable

theorem cases (built : validator.InTable tables) :
    (∃ options kind, validator = .simple options kind) ∨
    (∃ options delimiters item, validator = .sequence options delimiters item ∧
      item.InTable tables) ∨
    (∃ options delimiters item, validator = .indent options delimiters item ∧
      item.InTable tables) ∨
    ∃ options delimiters slots, validator = .complex options delimiters slots ∧
      ∀ slot ∈ slots, slot.InTable tables := by
  obtain ⟨spec, location, built⟩ := built
  cases spec with
  | simple options kind =>
      obtain ⟨validator, simple, built⟩ := exists_of_bind_eq_ok built
      obtain ⟨_, kind, rfl⟩ := SimpleSpec.compile_inTable simple
      exact .inl ⟨_, _, (Except.ok.inj built).symm⟩
  | sequence options item delimiter joiner appender =>
      rw [ValidatorSpec.compile] at built
      obtain ⟨item, nested, built⟩ := exists_of_bind_eq_ok built
      have inner := ValidatorSpec.inTable_of_compileItem inTable_text nested
      exact .inr (.inl ⟨_, _, item, (Except.ok.inj built).symm, inner⟩)
  | indent options item delimiter joiner appender =>
      rw [ValidatorSpec.compile] at built
      obtain ⟨item, nested, built⟩ := exists_of_bind_eq_ok built
      have inner := ValidatorSpec.inTable_of_compileItem inTable_size nested
      exact .inr (.inr (.inl ⟨_, _, item, (Except.ok.inj built).symm, inner⟩))
  | complex options slots delimiter joiner =>
      rw [ValidatorSpec.compile] at built
      obtain ⟨slots, nested, built⟩ := exists_of_bind_eq_ok built
      have inner := ValidatorSpec.inTable_of_compileSlots nested
      exact .inr (.inr (.inr ⟨_, _, slots, (Except.ok.inj built).symm, inner⟩))

theorem readsStyles_eq_false (built : validator.InTable tables) :
    validator.readsStyles = false := by
  rcases built.cases with ⟨_, _, rfl⟩ | ⟨_, _, _, rfl, _⟩ | ⟨_, _, _, rfl, _⟩ | ⟨_, _, _, rfl, _⟩
  all_goals rfl

/-- The parts of a validator are built as it is. -/
theorem of_partOf (built : validator.InTable tables) (nested : PartOf part validator) :
    part.InTable tables := by
  rcases built.cases with ⟨_, _, rfl⟩ | ⟨_, _, _, rfl, item⟩ | ⟨_, _, _, rfl, item⟩ |
    ⟨_, _, _, rfl, slots⟩
  · cases nested
  · cases nested
    exact item
  · cases nested
    exact item
  · cases nested with
    | slot member => exact slots _ member

theorem of_within {inner : Validator} (built : validator.InTable tables)
    (nested : Within inner validator) : inner.InTable tables := by
  -- From the outermost validator inwards: each step goes to a part of one that is built so.
  induction nested using Relation.ReflTransGen.head_induction_on with
  | refl => exact built
  | head part _ inductionHypothesis => exact inductionHypothesis.of_partOf part

end InTable
end Validator

/-! ## Compiled policies -/

namespace PolicySpec

/-- What a compiled policy has of the written one. -/
structure BuiltInto (spec : PolicySpec) (policy : Policy) : Prop where
  tables : Dictionary.Related BuildsTable spec.styleTables policy.styleTables
  elements : Dictionary.Related (Builds policy.styleTables false) spec.elements policy.elements
  /-- An element goes by its own chain, whatever else lists it. -/
  own : ∀ name chain, Dictionary.get? name spec.elements = some chain →
    ∃ built, policy.chainFor? name = some built ∧ Builds policy.styleTables false name chain built
  shared : ∀ entry ∈ policy.elementAliases, entry.1 ∉ Dictionary.keys policy.elements ∧
    entry.2 ∈ Dictionary.keys policy.elements
  listed : ∀ name, (policy.chainFor? name).isSome ↔ name ∈ Dictionary.keys spec.elements ∨
    ∃ entry ∈ spec.elementAliases, name ∈ entry.2
  /-- Style declarations are not read inside style tables, at any depth. -/
  unnested : ∀ table ∈ policy.styleTables, ∀ property ∈ table.2.properties,
    ∀ ruleSet ∈ property.2, ∀ entry ∈ ruleSet, ∀ inner, Validator.Within inner entry.2 →
      inner.readsStyles = false

variable {spec : PolicySpec}

theorem builds_of_flaws (inTable : Bool) {owner : Text} {chain : ChainSpec}
    (flawless : spec.flaws = [])
    (inside : ∀ placed ∈ placedIn owner inTable chain, placed ∈ spec.placed) :
    Builds (if inTable then [] else spec.compiledTables) inTable owner chain
      (compileChain (if inTable then [] else spec.compiledTables) inTable owner chain).chain := by
  have buildable := (spec.flaws_eq_nil_iff.mp flawless).1
  apply builds_compileChain
  rw [faults_compileChain]
  exact List.filterMap_eq_nil_iff.mpr fun placed member => buildable placed (inside placed member)

theorem related_compiledTables (flawless : spec.flaws = []) :
    Dictionary.Related BuildsTable spec.styleTables spec.compiledTables := by
  rw [compiledTables_eq_map]
  refine List.forall₂_map_right_iff.mpr (List.forall₂_same.mpr ?_)
  rintro ⟨name, table⟩ written
  refine ⟨rfl, rfl, rfl, List.forall₂_map_right_iff.mpr (List.forall₂_same.mpr ?_)⟩
  rintro ⟨property, chain⟩ listed
  refine ⟨rfl, builds_of_flaws true flawless fun placed member => ?_⟩
  have inTables : placed ∈ spec.placedInTables :=
    List.mem_flatMap.mpr ⟨_, written, List.mem_flatMap.mpr ⟨_, listed, member⟩⟩
  exact List.mem_append_left _ inTables

theorem related_compiledElements (flawless : spec.flaws = []) :
    Dictionary.Related (Builds spec.compiledTables false) spec.elements spec.compiled.elements := by
  unfold compiled elementResults Dictionary.mapValues
  rw [List.map_map]
  refine List.forall₂_map_right_iff.mpr (List.forall₂_same.mpr ?_)
  rintro ⟨name, chain⟩ written
  refine ⟨rfl, builds_of_flaws false flawless fun placed member => ?_⟩
  exact List.mem_append_right _ (List.mem_flatMap.mpr ⟨_, written, member⟩)

theorem isSome_chainFor?_compiled (name : Text) :
    (spec.compiled.chainFor? name).isSome ↔
      name ∈ Dictionary.keys spec.elements ∨ spec.Lists name := by
  rw [← hasRules_iff]
  constructor
  · intro found
    rw [Policy.chainFor?, Option.isSome_or, get?_elements_compiled] at found
    rcases Bool.or_eq_true_iff.mp found with own | shared
    · rw [hasRules, own, Bool.true_or]
    · obtain ⟨chain, shared⟩ := Option.isSome_iff_exists.mp shared
      obtain ⟨canonical, standing, _⟩ := Option.bind_eq_some_iff.mp shared
      have counted : Dictionary.has name spec.compiledAliases :=
        Option.isSome_iff_exists.mpr ⟨canonical, standing⟩
      rw [hasRules, counted, Bool.or_true]
  · exact isWhitelisted_compiled

theorem inTable_of_related {tables : Dictionary StyleTable}
    (related : Dictionary.Related BuildsTable spec.styleTables tables)
    {table : Text × StyleTable} (listed : table ∈ tables)
    {property : Text × CompiledChain} (inside : property ∈ table.2.properties)
    {ruleSet : List (Text × Validator)} (tried : ruleSet ∈ property.2)
    {entry : Text × Validator} (checked : entry ∈ ruleSet) : entry.2.InTable [] := by
  obtain ⟨written, _, _, builtTable⟩ := exists_of_mem_right related listed
  obtain ⟨chain, _, _, builds⟩ := exists_of_mem_right builtTable.properties inside
  obtain ⟨rules, _, same⟩ := exists_of_mem_right builds tried
  obtain ⟨source, _, _, built⟩ := exists_of_mem_right same checked
  exact ⟨source.2, _, built⟩

theorem builtInto_compiled (flawless : spec.flaws = []) : spec.BuiltInto spec.compiled := by
  have tables := related_compiledTables flawless
  have elements := related_compiledElements flawless
  have sameKeys : Dictionary.keys spec.elements = Dictionary.keys spec.compiled.elements :=
    elements.keys_eq
  obtain ⟨-, undangling, -⟩ := spec.flaws_eq_nil_iff.mp flawless
  refine ⟨tables, elements, ?own, ?shared, ?listed, ?unnested⟩
  case own =>
    intro name chain written
    obtain ⟨built, found, builds⟩ := elements.get? written
    refine ⟨built, ?_, builds⟩
    rw [Policy.chainFor?, found, Option.some_or]
  case shared =>
    rintro ⟨name, canonical⟩ member
    obtain ⟨standing, unruled⟩ := spec.mem_aliasPairs_of_compiled member
    obtain ⟨ruled, _⟩ := spec.mem_aliasPairs.mp standing
    rw [← sameKeys]
    exact ⟨unruled, ruled⟩
  case listed =>
    intro name
    rw [isSome_chainFor?_compiled]
    refine or_congr_right ⟨?_, ?_⟩
    · rintro ⟨entry, written, _, listed⟩
      exact ⟨entry, written, listed⟩
    · rintro ⟨entry, written, listed⟩
      exact ⟨entry, written, undangling _ (List.mem_map_of_mem written), listed⟩
  case unnested =>
    intro table listed property inside ruleSet tried entry checked inner nested
    have inTable := inTable_of_related tables listed inside tried checked
    exact (inTable.of_within nested).readsStyles_eq_false

/-- Compiling finds every fault there is and drops nothing. It fails for a validator that cannot be
built, for aliases of an element without rules, or for a default block without rules; a single fault
is the error, and several are counted and listed in order. A policy that compiles has all that is
written. -/
theorem compile_exact (spec : PolicySpec) :
    ((∃ error, spec.compile.value = .error error) ↔
      (∃ placed ∈ spec.placed, ∃ fault, spec.build placed = .error fault) ∨
      (∃ canonical ∈ Dictionary.keys spec.elementAliases,
        canonical ∉ Dictionary.keys spec.elements) ∨
      (spec.effectiveDefaultBlock ∉ Dictionary.keys spec.elements ∧
        spec.effectiveDefaultBlock ∉ Dictionary.keys spec.compiledAliases)) ∧
    (∀ fault, spec.flaws = [fault] → spec.compile.value = .error (.one fault)) ∧
    (2 ≤ spec.flaws.length → ∃ error, spec.compile.value = .error error ∧
      error = .several spec.flaws ∧
      error.message = "A fatal error occurred: Failed to compile policy, " ++
        Text.ofNat spec.flaws.length ++ " error(s):\n" ++
        Text.join ['\n'] (spec.flaws.map PolicyFault.message)) ∧
    ∀ policy, spec.compile.value = .ok policy → spec.BuiltInto policy := by
  refine ⟨?_, fun _ => spec.compile_of_one, ?_, ?_⟩
  · have unlisted (inside : spec.effectiveDefaultBlock ∉ Dictionary.keys spec.elements) :
        spec.effectiveDefaultBlock ∉ Dictionary.keys spec.compiledAliases ↔
          ¬spec.Lists spec.effectiveDefaultBlock := by
      rw [mem_keys_compiledAliases, and_iff_right inside]
    rw [compile_eq_error_iff, Ne, flaws_eq_nil_iff, and_congr_right_iff.mpr unlisted]
    simp only [not_and_or, not_forall, not_or, exists_prop, ← ne_eq, Option.ne_none_iff_exists',
      unbuildable?_eq_some_iff]
  · intro several
    exact ⟨.several spec.flaws, spec.compile_of_several several, rfl, rfl⟩
  · intro policy compiled
    obtain ⟨rfl, sound⟩ := compile_eq_ok compiled
    exact builtInto_compiled (spec.faults_eq_flaws ▸ sound)

/-- A style table in a style table, a style table that is not there, aliases of an element without
rules, and no paragraphs to wrap stray content into. -/
def flawedSpec : PolicySpec :=
  { empty with
    styleTables := [("t", ⟨[], [("font", [[("font", .simple .unwritten (.style "t"))]])]⟩)]
    elements := [("b", [[("style", .simple .unwritten (.style "u"))]])]
    elementAliases := [("i", ["em"])] }

/-- Paragraphs with a style of their own, by two names. -/
def styledSpec : PolicySpec :=
  { empty with
    styleTables := [("t", ⟨[], [("font", [[("font", .simple .unwritten .text)]])]⟩)]
    elements := [("p", [[("style", .simple .unwritten (.style "t"))]])]
    elementAliases := [("p", ["q"])] }

theorem compile_exact_styled :
    flawedSpec.flaws = [.nestedTable "t:font.font", .unknownTable "b.style" "u",
      .danglingAlias "i", .defaultBlock "p"] ∧
    (∃ error, flawedSpec.compile.value = .error error ∧ error = .several flawedSpec.flaws) ∧
    styledSpec.compile.value = .ok styledSpec.compiled ∧
    styledSpec.BuiltInto styledSpec.compiled := by
  have flaws : flawedSpec.flaws = [.nestedTable "t:font.font", .unknownTable "b.style" "u",
      .danglingAlias "i", .defaultBlock "p"] := by
    decide
  have several : 2 ≤ flawedSpec.flaws.length := by
    rw [flaws]
    decide
  have compiled : styledSpec.compile.value = .ok styledSpec.compiled := rfl
  obtain ⟨_, _, listed, _⟩ := compile_exact flawedSpec
  obtain ⟨error, same, isSeveral, _⟩ := listed several
  obtain ⟨_, _, _, built⟩ := compile_exact styledSpec
  exact ⟨flaws, ⟨error, same, isSeveral⟩, compiled, built _ compiled⟩

end PolicySpec
end SafeMarkup
