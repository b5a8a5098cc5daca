import SafeMarkup.Policy.Defect
import SafeMarkup.Proofs.Dictionary
import Mathlib.Logic.Relation

/-!
Contract: what is known of a written policy that has no defects.

Owns: the conditions on the parts of a policy that no defects come down to; the aliases that stand
for one name only; and the parts of written validators, of which none has a defect in a validator
without any.

Does not own: what becomes of a policy when it is merged or compiled.
-/

namespace SafeMarkup

/-! ## Aliases -/

/-- No name is listed under two canonical names. -/
def Unambiguous (aliases : Dictionary (List Text)) : Prop :=
  ∀ first ∈ aliases, ∀ second ∈ aliases, ∀ name ∈ first.2, name ∈ second.2 → first.1 = second.1

theorem agrees_of_seen {scope name canonical : Text} {seen : Dictionary Text} :
    (match Dictionary.get? name seen with
      | some first =>
        if first = canonical then [] else [Defect.ambiguousAlias scope name first canonical]
      | none => []) = [] ↔
      ∀ first, Dictionary.get? name seen = some first → first = canonical := by
  cases Dictionary.get? name seen <;> simp

/-- A scan finds nothing if the names agree with what was seen before and with each other. -/
theorem aliasDefectsFrom_eq_nil_iff (scope : Text) (seen : Dictionary Text)
    (pairs : List (Text × Text)) :
    aliasDefectsFrom scope seen pairs = [] ↔
      (∀ pair ∈ pairs, ∀ first, Dictionary.get? pair.1 seen = some first → first = pair.2) ∧
      ∀ pair ∈ pairs, ∀ other ∈ pairs, pair.1 = other.1 → pair.2 = other.2 := by
  induction pairs generalizing seen with
  | nil => simp [aliasDefectsFrom]
  | cons pair rest inductionHypothesis =>
      obtain ⟨name, canonical⟩ := pair
      rw [aliasDefectsFrom, List.append_eq_nil_iff, inductionHypothesis]
      refine (and_congr_left' agrees_of_seen).trans ?_
      constructor
      · rintro ⟨here, restSeen, restAlike⟩
        have agrees : ∀ pair ∈ rest, name = pair.1 → canonical = pair.2 := by
          intro pair member same
          exact restSeen pair member canonical (by rw [Dictionary.get?_insert, if_pos same])
        refine ⟨List.forall_mem_cons.mpr ⟨here, ?_⟩, ?_⟩
        · intro pair member first found
          by_cases same : name = pair.1
          · exact (here first (same ▸ found)).trans (agrees pair member same)
          · exact restSeen pair member first (by rwa [Dictionary.get?_insert, if_neg same])
        · intro pair member other otherMember same
          rcases List.mem_cons.mp member with rfl | inRest
          · rcases List.mem_cons.mp otherMember with rfl | otherInRest
            · rfl
            · exact agrees other otherInRest same
          · rcases List.mem_cons.mp otherMember with rfl | otherInRest
            · exact (agrees pair inRest same.symm).symm
            · exact restAlike pair inRest other otherInRest same
      · rintro ⟨seenAgrees, alike⟩
        obtain ⟨here, restSeen⟩ := List.forall_mem_cons.mp seenAgrees
        refine ⟨here, ?_, ?_⟩
        · intro pair member first found
          rw [Dictionary.get?_insert] at found
          split at found
          case isTrue same =>
            obtain rfl := Option.some.inj found
            exact alike _ List.mem_cons_self pair (List.mem_cons_of_mem _ member) same
          case isFalse => exact restSeen pair member first found
        · intro pair member other otherMember
          exact alike pair (List.mem_cons_of_mem _ member) other
            (List.mem_cons_of_mem _ otherMember)

theorem aliasDefects_eq_nil_iff {scope : Text} {aliases : Dictionary (List Text)} :
    aliasDefects scope aliases = [] ↔ Unambiguous aliases := by
  have nothingSeen (name first : Text) : Dictionary.get? name [] = some first ↔ False :=
    iff_false_intro nofun
  rw [aliasDefects, aliasDefectsFrom_eq_nil_iff]
  simp only [nothingSeen, List.mem_flatMap, List.mem_map]
  constructor
  · rintro ⟨-, alike⟩ first firstListed second secondListed name inFirst inSecond
    exact alike (name, first.1) ⟨first, firstListed, name, inFirst, rfl⟩ (name, second.1)
      ⟨second, secondListed, name, inSecond, rfl⟩ rfl
  · intro unambiguous
    refine ⟨fun _ _ _ => False.elim, ?_⟩
    rintro _ ⟨first, firstListed, name, inFirst, rfl⟩ _ ⟨second, secondListed, other, inSecond, rfl⟩
      same
    obtain rfl : name = other := same
    exact unambiguous first firstListed second secondListed name inFirst inSecond

/-- All that a scan of aliases tells of is a name that stands for two others. -/
theorem exists_of_mem_aliasDefectsFrom {scope : Text} {seen : Dictionary Text}
    {pairs : List (Text × Text)} {defect : Defect}
    (told : defect ∈ aliasDefectsFrom scope seen pairs) :
    ∃ name first second, defect = .ambiguousAlias scope name first second := by
  induction pairs generalizing seen with
  | nil => exact absurd told List.not_mem_nil
  | cons pair rest inductionHypothesis =>
      obtain ⟨name, canonical⟩ := pair
      rcases List.mem_append.mp told with here | behind
      · cases found : Dictionary.get? name seen with
        | none => simp [found] at here
        | some first =>
            simp only [found, List.mem_ite_nil_left, List.mem_singleton] at here
            exact ⟨name, first, canonical, here.2⟩
      · exact inductionHypothesis behind

/-! ## Validators -/

namespace ValidatorSpec

/-- One written validator is a part of another: its item or one of its slots. -/
inductive PartOf : ValidatorSpec → ValidatorSpec → Prop where
  | item {options : OptionsSpec} {item : ValidatorSpec} {delimiter joiner appender : Option Text} :
      PartOf item (.sequence options (some item) delimiter joiner appender)
  | width {options : OptionsSpec} {item : ValidatorSpec} {delimiter joiner appender : Option Text} :
      PartOf item (.indent options (some item) delimiter joiner appender)
  | slot {options : OptionsSpec} {slots : List ValidatorSpec} {delimiter joiner : Option Text}
      {slot : ValidatorSpec} (member : slot ∈ slots) :
      PartOf slot (.complex options slots delimiter joiner)

/-- One written validator is another or nested in it, at any depth. -/
def Within (inner outer : ValidatorSpec) : Prop := Relation.ReflTransGen PartOf inner outer

theorem Within.cases {inner outer : ValidatorSpec} (nested : Within inner outer) :
    inner = outer ∨ ∃ part, PartOf part outer ∧ Within inner part := by
  rcases Relation.ReflTransGen.cases_tail nested with same | ⟨part, within, partOf⟩
  · exact .inl same.symm
  · exact .inr ⟨part, partOf, within⟩

/-- A written validator has no defects, wherever it is. -/
def Faultless (spec : ValidatorSpec) : Prop := ∃ location, spec.defects location = []

theorem faultless_of_mem_slots {location : Text} {index : Nat} {slots : List ValidatorSpec}
    (sound : slotDefects location index slots = []) : ∀ slot ∈ slots, slot.Faultless := by
  induction slots generalizing index with
  | nil => exact nofun
  | cons slot slots inductionHypothesis =>
      rw [slotDefects, List.append_eq_nil_iff] at sound
      exact List.forall_mem_cons.mpr ⟨⟨_, sound.1⟩, inductionHypothesis sound.2⟩

variable {spec part inner : ValidatorSpec}

theorem Faultless.of_partOf (sound : spec.Faultless) (nested : PartOf part spec) :
    part.Faultless := by
  obtain ⟨location, sound⟩ := sound
  cases nested with
  | item =>
      rw [defects, List.append_eq_nil_iff, itemDefects] at sound
      exact ⟨_, sound.2⟩
  | width =>
      rw [defects, List.append_eq_nil_iff, itemDefects] at sound
      exact ⟨_, sound.2⟩
  | slot member =>
      rw [defects, List.append_eq_nil_iff] at sound
      exact faultless_of_mem_slots sound.2 _ member

theorem Faultless.of_within (sound : spec.Faultless) (nested : Within inner spec) :
    inner.Faultless := by
  induction nested using Relation.ReflTransGen.head_induction_on with
  | refl => exact sound
  | head part _ inductionHypothesis => exact inductionHypothesis.of_partOf part

end ValidatorSpec

/-! ## Policies -/

namespace ChainSpec

/-- The names and validators of a chain have no defects. -/
def Sound (owner : Text) (chain : ChainSpec) : Prop :=
  ∀ ruleSet ∈ chain, ∀ entry ∈ ruleSet,
    nameDefects "attribute" entry.1 = [] ∧ entry.2.defects (owner ++ "." ++ entry.1) = []

theorem sound_iff {owner : Text} {chain : ChainSpec} :
    chainDefects owner chain = [] ↔ Sound owner chain := by
  simp [chainDefects, Sound]

end ChainSpec

/-- The conditions on the entries of a policy, each on its own. -/
structure PolicySpec.SoundEntries (policy : PolicySpec) : Prop where
  elements : ∀ element ∈ policy.elements,
    nameDefects "element" element.1 = [] ∧ ChainSpec.Sound element.1 element.2
  properties : ∀ table ∈ policy.styleTables, ∀ property ∈ table.2.properties,
    nameDefects "property" property.1 = [] ∧
      ChainSpec.Sound (table.1 ++ ":" ++ property.1) property.2
  tableAliases : ∀ table ∈ policy.styleTables, Unambiguous table.2.aliases
  rewrites : ∀ entry ∈ policy.rewrites, ∀ rule ∈ entry.2,
    rule.conditions ≠ [] ∧ nameDefects "element" rule.rename = []
  defaultBlock : ∀ block ∈ policy.defaultBlock, nameDefects "element" block = []

/-- The conditions on a policy under which it has no defects. Those on aliases are about all entries
together. -/
structure PolicySpec.Sound (policy : PolicySpec) : Prop extends policy.SoundEntries where
  elementAliases : Unambiguous policy.elementAliases
  attributeAliases : Unambiguous policy.attributeAliases

namespace PolicySpec

variable {policy : PolicySpec}

theorem rewrite_sound_iff {element : Text} {rule : Rewrite} :
    ((if rule.conditions.isEmpty then [Defect.unconditionalRewrite element] else []) = [] ∧
      nameDefects "element" rule.rename = []) ↔
    rule.conditions ≠ [] ∧ nameDefects "element" rule.rename = [] := by
  simp

theorem defaultBlock_sound_iff : (policy.defaultBlock.map (nameDefects "element")).getD [] = [] ↔
    ∀ block ∈ policy.defaultBlock, nameDefects "element" block = [] := by
  cases policy.defaultBlock <;> simp

theorem isSound_iff : policy.isSound ↔ policy.Sound := by
  rw [isSound, List.isEmpty_iff]
  simp only [defects, List.append_eq_nil_iff, List.flatMap_eq_nil_iff, ChainSpec.sound_iff,
    aliasDefects_eq_nil_iff, rewrite_sound_iff, defaultBlock_sound_iff]
  constructor
  · rintro ⟨⟨⟨⟨⟨⟨elements, properties⟩, first⟩, second⟩, tables⟩, rewrites⟩, block⟩
    exact ⟨⟨elements, properties, tables, rewrites, block⟩, first, second⟩
  · rintro ⟨⟨elements, properties, tables, rewrites, block⟩, first, second⟩
    exact ⟨⟨⟨⟨⟨⟨elements, properties⟩, first⟩, second⟩, tables⟩, rewrites⟩, block⟩

theorem SoundEntries.elementDefects_eq_nil (sound : policy.SoundEntries) :
    (policy.elements.flatMap fun (element, chain) =>
      nameDefects "element" element ++ chainDefects element chain) = [] := by
  simp only [List.flatMap_eq_nil_iff, List.append_eq_nil_iff, ChainSpec.sound_iff]
  exact sound.elements

theorem SoundEntries.propertyDefects_eq_nil (sound : policy.SoundEntries) :
    (policy.styleTables.flatMap fun (table, spec) =>
      spec.properties.flatMap fun (property, chain) =>
        nameDefects "property" property ++ chainDefects (table ++ ":" ++ property) chain) = [] := by
  simp only [List.flatMap_eq_nil_iff, List.append_eq_nil_iff, ChainSpec.sound_iff]
  exact sound.properties

theorem SoundEntries.tableDefects_eq_nil (sound : policy.SoundEntries) :
    (policy.styleTables.flatMap fun (table, spec) =>
      aliasDefects ("style table '" ++ table ++ "' property") spec.aliases) = [] := by
  simp only [List.flatMap_eq_nil_iff, aliasDefects_eq_nil_iff]
  exact sound.tableAliases

theorem SoundEntries.rewriteDefects_eq_nil (sound : policy.SoundEntries) :
    (policy.rewrites.flatMap fun (element, rules) => rules.flatMap fun rule =>
      (if rule.conditions.isEmpty then [Defect.unconditionalRewrite element] else []) ++
        nameDefects "element" rule.rename) = [] := by
  simp only [List.flatMap_eq_nil_iff, List.append_eq_nil_iff, rewrite_sound_iff]
  exact sound.rewrites

/-- A policy whose entries are sound has no defects but ambiguous aliases. -/
theorem SoundEntries.defects_eq (sound : policy.SoundEntries) :
    policy.defects = aliasDefects "element" policy.elementAliases ++
      aliasDefects "attribute" policy.attributeAliases := by
  rw [defects, sound.elementDefects_eq_nil, sound.propertyDefects_eq_nil,
    sound.tableDefects_eq_nil, sound.rewriteDefects_eq_nil,
    defaultBlock_sound_iff.mpr sound.defaultBlock]
  simp only [List.nil_append, List.append_nil]

theorem SoundEntries.exists_ambiguous {defect : Defect} (sound : policy.SoundEntries)
    (told : defect ∈ policy.defects) :
    ∃ scope name first second, (scope = "element".toList ∨ scope = "attribute".toList) ∧
      defect = .ambiguousAlias scope name first second := by
  rw [sound.defects_eq] at told
  rcases List.mem_append.mp told with inElements | inAttributes
  · obtain ⟨name, first, second, same⟩ := exists_of_mem_aliasDefectsFrom inElements
    exact ⟨_, name, first, second, .inl rfl, same⟩
  · obtain ⟨name, first, second, same⟩ := exists_of_mem_aliasDefectsFrom inAttributes
    exact ⟨_, name, first, second, .inr rfl, same⟩

end PolicySpec
end SafeMarkup
