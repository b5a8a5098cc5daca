import SafeMarkup.Proofs.Compilation
import SafeMarkup.Proofs.Soundness

/-!
Contract: the delimiters of the validators in a compiled policy.

An empty delimiter takes a value apart into its characters, with an empty part before and behind
them. It is a fault of a written sequence, and none of written slots.

Owns: the parts of a written validator, with the faults that they do not have if it has none; which
written validator a compiled one comes from, at any depth; and which compiled validators have an
empty delimiter.

Does not own: what is done with the parts of a value.
-/

namespace SafeMarkup

/-! ## Written validators -/

namespace ValidatorSpec

/-- The delimiter that is written for a validator. -/
def delimiter? : ValidatorSpec → Option Text
  | .simple .. => none
  | .sequence _ _ delimiter _ _ | .indent _ _ delimiter _ _ | .complex _ _ delimiter _ => delimiter

/-- Slots that are written with an empty delimiter. -/
def Shatters : ValidatorSpec → Prop
  | .complex _ _ delimiter _ => delimiter = some []
  | _ => False

instance : DecidablePred Shatters
  | .complex _ _ delimiter _ => inferInstanceAs (Decidable (delimiter = some []))
  | .simple .. | .sequence .. | .indent .. => inferInstanceAs (Decidable False)

variable {spec : ValidatorSpec}

theorem ne_empty_of_delimiterDefects {location : Text} {delimiter : Option Text}
    (sound : delimiterDefects location delimiter = []) : delimiter ≠ some [] := by
  unfold delimiterDefects at sound
  split at sound
  · exact absurd sound (List.cons_ne_nil _ _)
  case isFalse written => exact written

/-- Of the validators without faults only those with slots can have an empty delimiter. -/
theorem Faultless.shatters_iff (sound : spec.Faultless) :
    spec.Shatters ↔ spec.delimiter? = some [] := by
  obtain ⟨location, sound⟩ := sound
  cases spec with
  | simple => exact ⟨False.elim, nofun⟩
  | sequence =>
      rw [defects, List.append_eq_nil_iff, List.append_eq_nil_iff] at sound
      exact ⟨False.elim, fun empty => ne_empty_of_delimiterDefects sound.1.2 empty⟩
  | indent =>
      rw [defects, List.append_eq_nil_iff, List.append_eq_nil_iff] at sound
      exact ⟨False.elim, fun empty => ne_empty_of_delimiterDefects sound.1.2 empty⟩
  | complex => rfl

end ValidatorSpec

/-! ## Compiled validators -/

/-- The text that separates the parts of a value, if it has parts. -/
def Validator.delimiter? : Validator → Option Text
  | .simple .. | .style .. => none
  | .sequence _ delimiters _ | .indent _ delimiters _ | .complex _ delimiters _ =>
    some delimiters.delimiter

theorem SimpleSpec.compile_cases {tables : Dictionary StyleTable} {inTable : Bool}
    {location : Text} {caseSensitive : Bool} {spec : SimpleSpec} {validator : Validator}
    (built : spec.compile tables inTable location caseSensitive = .ok validator) :
    (∃ options kind, validator = .simple options kind) ∨
      inTable = false ∧ ∃ name table, Dictionary.get? name tables = some table ∧
        validator = table.validator := by
  cases spec with
  | style name =>
      rw [compile] at built
      cases inTable with
      | true => cases built
      | false =>
          rw [if_neg Bool.false_ne_true] at built
          split at built
          case h_1 table found => exact .inr ⟨rfl, name, table, found, (Except.ok.inj built).symm⟩
          case h_2 => cases built
  | regexp pattern trimGarbage removeBlanks =>
      rw [compile] at built
      split at built
      case h_1 => exact .inl ⟨_, _, (Except.ok.inj built).symm⟩
      case h_2 => cases built
  | _ => exact .inl ⟨_, _, (Except.ok.inj built).symm⟩

namespace ValidatorSpec

variable {tables : Dictionary StyleTable} {inTable : Bool} {location : Text}
  {spec part : ValidatorSpec} {validator : Validator}

/-- A compiled validator has an empty delimiter if and only if that is written. -/
theorem delimiter?_of_compile (built : spec.compile tables inTable location = .ok validator) :
    validator.delimiter? = some [] ↔ spec.delimiter? = some [] := by
  have usual (delimiter : Option Text) : delimiter.getD " " = [] ↔ delimiter = some [] := by
    cases delimiter <;> simp
  cases spec with
  | simple options kind =>
      obtain ⟨simple, compiled, built⟩ := exists_of_bind_eq_ok built
      obtain rfl := Except.ok.inj built
      rcases SimpleSpec.compile_cases compiled with ⟨_, _, rfl⟩ | ⟨_, _, _, _, rfl⟩
      · simp [Validator.withOptions, Validator.delimiter?, delimiter?]
      · simp [StyleTable.validator, Validator.withOptions, Validator.delimiter?, delimiter?]
  | sequence options item delimiter joiner appender =>
      rw [compile] at built
      obtain ⟨item, -, built⟩ := exists_of_bind_eq_ok built
      obtain rfl := Except.ok.inj built
      simpa [Validator.delimiter?, delimiter?, compileDelimiters] using usual delimiter
  | indent options item delimiter joiner appender =>
      rw [compile] at built
      obtain ⟨item, -, built⟩ := exists_of_bind_eq_ok built
      obtain rfl := Except.ok.inj built
      simpa [Validator.delimiter?, delimiter?, compileDelimiters] using usual delimiter
  | complex options slots delimiter joiner =>
      rw [compile] at built
      obtain ⟨slots, -, built⟩ := exists_of_bind_eq_ok built
      obtain rfl := Except.ok.inj built
      simpa [Validator.delimiter?, delimiter?, compileDelimiters] using usual delimiter

/-- Each slot that is written is compiled, and no others are. -/
theorem related_slots {index : Nat} {slots : List ValidatorSpec} {validators : List Validator}
    (built : compileSlots tables inTable location index slots = .ok validators) :
    List.Forall₂ (fun slot validator => ∃ location,
      compile tables inTable location slot = .ok validator) slots validators := by
  induction slots generalizing index validators with
  | nil =>
      obtain rfl := Except.ok.inj built
      exact .nil
  | cons slot slots inductionHypothesis =>
      rw [compileSlots] at built
      obtain ⟨first, here, built⟩ := exists_of_bind_eq_ok built
      obtain ⟨others, behind, built⟩ := exists_of_bind_eq_ok built
      obtain rfl := Except.ok.inj built
      exact .cons ⟨_, here⟩ (inductionHypothesis behind)

/-- The parts of a written validator are compiled to parts of the compiled one. -/
theorem exists_part_of_compile (built : spec.compile tables inTable location = .ok validator)
    (nested : PartOf part spec) : ∃ inner location, Validator.PartOf inner validator ∧
      part.compile tables inTable location = .ok inner := by
  cases nested with
  | item =>
      rw [compile] at built
      obtain ⟨inner, compiled, built⟩ := exists_of_bind_eq_ok built
      obtain rfl := Except.ok.inj built
      exact ⟨inner, _, .item, compiled⟩
  | width =>
      rw [compile] at built
      obtain ⟨inner, compiled, built⟩ := exists_of_bind_eq_ok built
      obtain rfl := Except.ok.inj built
      exact ⟨inner, _, .width, compiled⟩
  | slot member =>
      rw [compile] at built
      obtain ⟨inner, compiled, built⟩ := exists_of_bind_eq_ok built
      obtain rfl := Except.ok.inj built
      obtain ⟨slot, listed, location, here⟩ :=
        exists_of_mem_right (related_slots compiled).flip member
      exact ⟨slot, location, .slot listed, here⟩

theorem exists_within_of_compile {inner : ValidatorSpec}
    (built : spec.compile tables inTable location = .ok validator) (nested : Within inner spec) :
    ∃ compiled location, Validator.Within compiled validator ∧
      inner.compile tables inTable location = .ok compiled := by
  -- From the outermost validator inwards, with what is compiled so far.
  induction nested using Relation.ReflTransGen.head_induction_on with
  | refl => exact ⟨validator, location, .refl, built⟩
  | head part _ inductionHypothesis =>
      obtain ⟨outer, _, within, outerBuilt⟩ := inductionHypothesis
      obtain ⟨compiled, location, nested, here⟩ := exists_part_of_compile outerBuilt part
      exact ⟨compiled, location, .head nested within, here⟩

end ValidatorSpec

/-! ## Policies -/

/-- The chains of a compiled policy, of its elements and of the properties of its style tables. -/
inductive Policy.Chains (policy : Policy) : CompiledChain → Prop where
  | element {element : Text × CompiledChain} (listed : element ∈ policy.elements) :
      Chains policy element.2
  | property {table : Text × StyleTable} {property : Text × CompiledChain}
      (listed : table ∈ policy.styleTables) (inside : property ∈ table.2.properties) :
      Chains policy property.2

/-- A validator stands in a chain of a compiled policy, or is nested in one that does. -/
def Policy.Has (policy : Policy) (validator : Validator) : Prop :=
  ∃ chain, policy.Chains chain ∧ ∃ ruleSet ∈ chain, ∃ entry ∈ ruleSet,
    Validator.Within validator entry.2

section Placing

variable {tables : Dictionary StyleTable} {inTable : Bool} {owner : Text} {chain : ChainSpec}
  {built : CompiledChain}

theorem exists_entry_of_placed (builds : Builds tables inTable owner chain built) {placed : Placed}
    (member : placed ∈ placedIn owner inTable chain) :
    ∃ ruleSet ∈ built, ∃ entry ∈ ruleSet, ∃ location,
      placed.spec.compile tables inTable location = .ok entry.2 := by
  obtain ⟨written, listed, rfl⟩ := List.mem_map.mp member
  obtain ⟨rules, inChain, inRules⟩ := List.mem_flatten.mp listed
  obtain ⟨ruleSet, tried, same⟩ := exists_of_mem_right builds.flip inChain
  obtain ⟨entry, checked, -, compiled⟩ := exists_of_mem_right same.flip inRules
  exact ⟨ruleSet, tried, entry, checked, _, compiled⟩

theorem exists_placed_of_entry (builds : Builds tables inTable owner chain built)
    {ruleSet : List (Text × Validator)} (tried : ruleSet ∈ built) {entry : Text × Validator}
    (checked : entry ∈ ruleSet) :
    ∃ placed ∈ placedIn owner inTable chain, ∃ location,
      placed.spec.compile tables inTable location = .ok entry.2 := by
  obtain ⟨rules, inChain, same⟩ := exists_of_mem_right builds tried
  obtain ⟨written, inRules, -, compiled⟩ := exists_of_mem_right same checked
  have listed : written ∈ chain.flatten := List.mem_flatten.mpr ⟨rules, inChain, inRules⟩
  exact ⟨_, List.mem_map_of_mem listed, _, compiled⟩

end Placing

namespace PolicySpec

variable {spec : PolicySpec} {written : ValidatorSpec} {validator part : Validator}

/-- A validator is written in a policy, or nested in one that is. -/
def Writes (spec : PolicySpec) (written : ValidatorSpec) : Prop :=
  ∃ placed ∈ spec.placed, ValidatorSpec.Within written placed.spec

/-- A written validator is compiled to another, in a style table or elsewhere. -/
def Compiles (spec : PolicySpec) (written : ValidatorSpec) (validator : Validator) : Prop :=
  ∃ inTable location, written.compile (if inTable then [] else spec.compiledTables) inTable
    location = .ok validator

theorem mem_placed_of_table {table : Text × StyleTableSpec} (listed : table ∈ spec.styleTables)
    {property : Text × ChainSpec} (inside : property ∈ table.2.properties) {placed : Placed}
    (member : placed ∈ placedIn (table.1 ++ ":" ++ property.1) true property.2) :
    placed ∈ spec.placed :=
  List.mem_append_left _
    (List.mem_flatMap.mpr ⟨table, listed, List.mem_flatMap.mpr ⟨property, inside, member⟩⟩)

theorem mem_placed_of_element {element : Text × ChainSpec} (listed : element ∈ spec.elements)
    {placed : Placed} (member : placed ∈ placedIn element.1 false element.2) :
    placed ∈ spec.placed :=
  List.mem_append_right _ (List.mem_flatMap.mpr ⟨element, listed, member⟩)

theorem exists_placed_of_table (flawless : spec.flaws = []) {table : Text × StyleTable}
    (listed : table ∈ spec.compiledTables) {property : Text × CompiledChain}
    (inside : property ∈ table.2.properties) {ruleSet : List (Text × Validator)}
    (tried : ruleSet ∈ property.2) {entry : Text × Validator} (checked : entry ∈ ruleSet) :
    ∃ placed ∈ spec.placed, spec.Compiles placed.spec entry.2 := by
  obtain ⟨source, written, same, built⟩ :=
    exists_of_mem_right (related_compiledTables flawless) listed
  obtain ⟨chain, standing, -, builds⟩ := exists_of_mem_right built.properties inside
  obtain ⟨placed, member, location, compiled⟩ := exists_placed_of_entry builds tried checked
  exact ⟨placed, mem_placed_of_table written standing member, true, location, compiled⟩

theorem exists_placed_of_chains (flawless : spec.flaws = []) {chain : CompiledChain}
    (listed : spec.compiled.Chains chain) {ruleSet : List (Text × Validator)}
    (tried : ruleSet ∈ chain) {entry : Text × Validator} (checked : entry ∈ ruleSet) :
    ∃ placed ∈ spec.placed, spec.Compiles placed.spec entry.2 := by
  cases listed with
  | element listed =>
      obtain ⟨element, written, -, builds⟩ :=
        exists_of_mem_right (related_compiledElements flawless) listed
      obtain ⟨placed, member, location, compiled⟩ := exists_placed_of_entry builds tried checked
      exact ⟨placed, mem_placed_of_element written member, false, location, compiled⟩
  | property listed inside => exact exists_placed_of_table flawless listed inside tried checked

theorem exists_entry_of_mem_placed (flawless : spec.flaws = []) {placed : Placed}
    (member : placed ∈ spec.placed) :
    ∃ chain, spec.compiled.Chains chain ∧ ∃ ruleSet ∈ chain, ∃ entry ∈ ruleSet,
      spec.Compiles placed.spec entry.2 := by
  rcases List.mem_append.mp member with inTables | inElements
  · obtain ⟨table, written, inTable⟩ := List.mem_flatMap.mp inTables
    obtain ⟨property, standing, inChain⟩ := List.mem_flatMap.mp inTable
    obtain ⟨built, listed, -, builtTable⟩ :=
      exists_of_mem_right (related_compiledTables flawless).flip written
    obtain ⟨chain, inside, -, builds⟩ := exists_of_mem_right builtTable.properties.flip standing
    obtain ⟨ruleSet, tried, entry, checked, location, compiled⟩ :=
      exists_entry_of_placed builds inChain
    exact ⟨_, .property listed inside, ruleSet, tried, entry, checked, true, location, compiled⟩
  · obtain ⟨element, written, inChain⟩ := List.mem_flatMap.mp inElements
    obtain ⟨chain, listed, -, builds⟩ :=
      exists_of_mem_right (related_compiledElements flawless).flip written
    obtain ⟨ruleSet, tried, entry, checked, location, compiled⟩ :=
      exists_entry_of_placed builds inChain
    exact ⟨_, .element listed, ruleSet, tried, entry, checked, false, location, compiled⟩

/-- A validator in a compiled policy is the usual one for an item that is not written, or it is
compiled from one that is. -/
def Explains (spec : PolicySpec) (validator : Validator) : Prop :=
  validator = .text ∨ validator = .size ∨ ∃ written, spec.Writes written ∧
    spec.Compiles written validator

theorem Explains.of_partOf (flawless : spec.flaws = []) (explained : spec.Explains validator)
    (nested : Validator.PartOf part validator) : spec.Explains part := by
  rcases explained with rfl | rfl | ⟨written, ⟨placed, member, within⟩, inTable, location, built⟩
  · cases nested
  · cases nested
  have inner {source : ValidatorSpec} {location : Text} (nestedSource : source.PartOf written)
      (compiled : source.compile (if inTable then [] else spec.compiledTables) inTable location =
        .ok part) : spec.Explains part :=
    .inr (.inr ⟨source, ⟨placed, member, .head nestedSource within⟩, inTable, location, compiled⟩)
  cases written with
  | simple options kind =>
      obtain ⟨simple, compiled, built⟩ := exists_of_bind_eq_ok built
      obtain rfl := Except.ok.inj built
      rcases SimpleSpec.compile_cases compiled with ⟨_, _, rfl⟩ | ⟨outside, name, table, found, rfl⟩
      · cases nested
      · rw [outside] at found
        cases nested with
        | property listed tried checked =>
            obtain ⟨source, inSpec, compiles⟩ := exists_placed_of_table flawless
              (Dictionary.mem_of_get?_eq_some found) listed tried checked
            exact .inr (.inr ⟨source.spec, ⟨source, inSpec, .refl⟩, compiles⟩)
  | sequence options item delimiter joiner appender =>
      rw [ValidatorSpec.compile] at built
      obtain ⟨value, compiled, built⟩ := exists_of_bind_eq_ok built
      obtain rfl := Except.ok.inj built
      cases nested
      cases item with
      | none => exact .inl (Except.ok.inj compiled).symm
      | some item => exact inner .item compiled
  | indent options item delimiter joiner appender =>
      rw [ValidatorSpec.compile] at built
      obtain ⟨value, compiled, built⟩ := exists_of_bind_eq_ok built
      obtain rfl := Except.ok.inj built
      cases nested
      cases item with
      | none => exact .inr (.inl (Except.ok.inj compiled).symm)
      | some item => exact inner .width compiled
  | complex options slots delimiter joiner =>
      rw [ValidatorSpec.compile] at built
      obtain ⟨values, compiled, built⟩ := exists_of_bind_eq_ok built
      obtain rfl := Except.ok.inj built
      cases nested with
      | slot inValues =>
          obtain ⟨source, inSlots, location, compiled⟩ :=
            exists_of_mem_right (ValidatorSpec.related_slots compiled) inValues
          exact inner (.slot inSlots) compiled

theorem explains_of_has (flawless : spec.flaws = []) (present : spec.compiled.Has validator) :
    spec.Explains validator := by
  obtain ⟨chain, listed, ruleSet, tried, entry, checked, nested⟩ := present
  induction nested using Relation.ReflTransGen.head_induction_on with
  | refl =>
      obtain ⟨placed, member, compiles⟩ := exists_placed_of_chains flawless listed tried checked
      exact .inr (.inr ⟨placed.spec, ⟨placed, member, .refl⟩, compiles⟩)
  | head part _ inductionHypothesis => exact inductionHypothesis.of_partOf flawless part

theorem exists_has_of_writes (flawless : spec.flaws = []) (writes : spec.Writes written) :
    ∃ validator, spec.compiled.Has validator ∧ spec.Compiles written validator := by
  obtain ⟨placed, member, nested⟩ := writes
  obtain ⟨chain, listed, ruleSet, tried, entry, checked, inTable, _, built⟩ :=
    exists_entry_of_mem_placed flawless member
  obtain ⟨validator, location, within, compiled⟩ :=
    ValidatorSpec.exists_within_of_compile built nested
  exact ⟨validator, ⟨chain, listed, ruleSet, tried, entry, checked, within⟩, inTable, location,
    compiled⟩

theorem Sound.faultless (sound : spec.Sound) {placed : Placed} (member : placed ∈ spec.placed) :
    placed.spec.Faultless := by
  have inChain {owner : Text} {inTable : Bool} {chain : ChainSpec} (sound : chain.Sound owner)
      (member : placed ∈ placedIn owner inTable chain) : placed.spec.Faultless := by
    obtain ⟨entry, listed, rfl⟩ := List.mem_map.mp member
    obtain ⟨ruleSet, tried, checked⟩ := List.mem_flatten.mp listed
    exact ⟨_, (sound ruleSet tried entry checked).2⟩
  rcases List.mem_append.mp member with inTables | inElements
  · obtain ⟨table, written, inTable⟩ := List.mem_flatMap.mp inTables
    obtain ⟨property, standing, listed⟩ := List.mem_flatMap.mp inTable
    exact inChain (sound.properties table written property standing).2 listed
  · obtain ⟨element, written, listed⟩ := List.mem_flatMap.mp inElements
    exact inChain (sound.elements element written).2 listed

theorem Sound.shatters_iff (sound : spec.Sound) (writes : spec.Writes written) :
    written.Shatters ↔ written.delimiter? = some [] := by
  obtain ⟨placed, member, nested⟩ := writes
  exact ((sound.faultless member).of_within nested).shatters_iff

theorem Compiles.delimiter?_iff (compiles : spec.Compiles written validator) :
    validator.delimiter? = some [] ↔ written.delimiter? = some [] := by
  obtain ⟨inTable, location, built⟩ := compiles
  exact ValidatorSpec.delimiter?_of_compile built

/-- A validator with an empty delimiter comes from slots that are written with one. -/
theorem exists_shatters_of_has (flawless : spec.flaws = []) (sound : spec.Sound)
    (present : spec.compiled.Has validator) (undelimited : validator.delimiter? = some []) :
    ∃ written, spec.Writes written ∧ written.Shatters ∧ spec.Compiles written validator := by
  rcases explains_of_has flawless present with rfl | rfl | ⟨written, writes, compiles⟩
  · exact absurd undelimited nofun
  · exact absurd undelimited nofun
  · have empty : written.delimiter? = some [] := compiles.delimiter?_iff.mp undelimited
    exact ⟨written, writes, (sound.shatters_iff writes).mpr empty, compiles⟩

theorem exists_complex_of_shatters (shatters : written.Shatters)
    (compiles : spec.Compiles written validator) :
    ∃ options delimiters slots, validator = .complex options delimiters slots := by
  obtain ⟨inTable, location, built⟩ := compiles
  cases written with
  | complex options slots delimiter joiner =>
      rw [ValidatorSpec.compile] at built
      obtain ⟨slots, -, built⟩ := exists_of_bind_eq_ok built
      exact ⟨_, _, slots, (Except.ok.inj built).symm⟩
  | _ => exact shatters.elim

/-- Of the validators in a policy without defects, at any depth, the only ones with an empty
delimiter are those whose slots are written with one. -/
theorem compile_delimited_iff {policy : Policy} (sound : spec.isSound)
    (compiled : spec.compile.value = .ok policy) :
    (∀ validator, policy.Has validator → validator.delimiter? = some [] →
      ∃ options delimiters slots, validator = .complex options delimiters slots) ∧
    ((∀ validator, policy.Has validator → validator.delimiter? ≠ some []) ↔
      ∀ written, spec.Writes written → ¬written.Shatters) := by
  obtain ⟨rfl, faults⟩ := compile_eq_ok compiled
  have flawless : spec.flaws = [] := spec.faults_eq_flaws ▸ faults
  have conditions : spec.Sound := isSound_iff.mp sound
  refine ⟨?_, ?_, ?_⟩
  · intro validator present undelimited
    obtain ⟨written, _, shatters, compiles⟩ :=
      exists_shatters_of_has flawless conditions present undelimited
    exact exists_complex_of_shatters shatters compiles
  · intro delimited written writes shatters
    obtain ⟨validator, present, compiles⟩ := exists_has_of_writes flawless writes
    have empty : written.delimiter? = some [] := (conditions.shatters_iff writes).mp shatters
    exact delimited validator present (compiles.delimiter?_iff.mpr empty)
  · intro unshattered validator present undelimited
    obtain ⟨written, writes, shatters, _⟩ :=
      exists_shatters_of_has flawless conditions present undelimited
    exact unshattered written writes shatters

/-- A border of a width and of insets with slashes. -/
def border : ValidatorSpec :=
  .complex .unwritten [.simple .unwritten (.size ⟨none, none, none⟩),
    .indent .unwritten none (some "/") none none] none none

/-- Paragraphs with borders, and with styles that have fonts told apart by commas. -/
def borderedSpec : PolicySpec :=
  { empty with
    styleTables := [("t", ⟨[], [("font", [[("font",
      .sequence .unwritten none (some ",") none none)]])]⟩)]
    elements := [("p", [[("style", .simple .unwritten (.style "t")), ("border", border)]])] }

theorem compile_delimited_iff_bordered :
    borderedSpec.isSound ∧ borderedSpec.compile.value = .ok borderedSpec.compiled ∧
    ∀ validator, borderedSpec.compiled.Has validator → validator.delimiter? ≠ some [] := by
  have sound : borderedSpec.isSound := by decide
  have compiled : borderedSpec.compile.value = .ok borderedSpec.compiled := rfl
  have unparted {inner outer : ValidatorSpec} (nested : inner.Within outer)
      (whole : ¬outer.Shatters) (noParts : ∀ part, ¬ValidatorSpec.PartOf part outer) :
      ¬inner.Shatters := by
    rcases nested.cases with rfl | ⟨part, partOf, -⟩
    · exact whole
    · exact absurd partOf (noParts part)
  have inBorder {inner : ValidatorSpec} (nested : inner.Within border) : ¬inner.Shatters := by
    rcases nested.cases with rfl | ⟨part, partOf, within⟩
    · decide
    · cases partOf with
      | slot member =>
          rcases List.mem_pair.mp member with rfl | rfl
          · exact unparted within nofun nofun
          · exact unparted within nofun nofun
  have written : borderedSpec.placed.map Placed.spec =
      [.sequence .unwritten none (some ",") none none, .simple .unwritten (.style "t"), border] :=
    rfl
  refine ⟨sound, compiled, (compile_delimited_iff sound compiled).2.mpr ?_⟩
  rintro inner ⟨placed, member, nested⟩
  have listed : placed.spec ∈ borderedSpec.placed.map Placed.spec := List.mem_map_of_mem member
  rw [written] at listed
  rcases List.mem_cons.mp listed with font | others
  · rw [font] at nested
    exact unparted nested nofun nofun
  · rcases List.mem_pair.mp others with style | inset
    · rw [style] at nested
      exact unparted nested nofun nofun
    · rw [inset] at nested
      exact inBorder nested

/-- A character between characters, for which an empty delimiter is written. -/
def shatteringSpec : PolicySpec :=
  { empty with
    elements := [("p", [[("align",
      .complex .unwritten [.simple .unwritten .char] (some []) none)]])] }

/-- A policy without defects compiles to slots with an empty delimiter. -/
theorem compiles_undelimited :
    shatteringSpec.isSound ∧ shatteringSpec.compile.value = .ok shatteringSpec.compiled ∧
    ∃ validator, shatteringSpec.compiled.Has validator ∧ validator.delimiter? = some [] := by
  have present : shatteringSpec.compiled.Has
      (.complex (Validator.newOptions false) ⟨[], [], []⟩ [.char]) :=
    ⟨_, .element List.mem_cons_self, _, List.mem_cons_self, _, List.mem_cons_self, .refl⟩
  exact ⟨by decide, rfl, _, present, rfl⟩

end PolicySpec
end SafeMarkup
