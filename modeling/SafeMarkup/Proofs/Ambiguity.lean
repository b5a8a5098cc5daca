import SafeMarkup.Proofs.Merging
import SafeMarkup.Proofs.Soundness

/-!
Contract: the defects of two policies without defects once one is written over the other.

Owns: that only aliases can become a defect, and which of them do: those that one policy lists under
an entry that the other one leaves in place.

Does not own: which of two names such an alias goes by when the merged policy is compiled.
-/

namespace SafeMarkup

open Dictionary

/-- What entries list, no entry lists that they are written over and do not replace. -/
def Apart (base user : Dictionary (List Text)) : Prop :=
  ∀ own ∈ user, ∀ left ∈ base, left.1 ∉ keys user → ∀ name ∈ own.2, name ∉ left.2

instance (base user : Dictionary (List Text)) : Decidable (Apart base user) :=
  inferInstanceAs (Decidable (∀ own ∈ user, ∀ left ∈ base, left.1 ∉ keys user →
    ∀ name ∈ own.2, name ∉ left.2))

/-- An entry that stands there after inserting all was added, or stood there under another name. -/
theorem Dictionary.mem_insertAll_iff {α : Type} {added entries : Dictionary α} {entry : Text × α}
    (addedDistinct : (keys added).Nodup) (distinct : (keys entries).Nodup) :
    entry ∈ insertAll added entries ↔
      entry ∈ added ∨ entry ∈ entries ∧ entry.1 ∉ keys added := by
  obtain ⟨key, value⟩ := entry
  have reversed : get? key added.reverse = get? key added :=
    (get?_eq_of_perm addedDistinct added.reverse_perm.symm).symm
  rw [← get?_eq_some_iff (nodup_keys_insertAll distinct), get?_insertAll, reversed,
    Option.or_eq_some_iff, get?_eq_none_iff, get?_eq_some_iff addedDistinct,
    get?_eq_some_iff distinct]
  tauto

/-- Aliases over aliases stand for one name each if both do and they are apart. -/
theorem unambiguous_insertAll_iff {base user : Dictionary (List Text)}
    (baseDistinct : (keys base).Nodup) (userDistinct : (keys user).Nodup)
    (baseClear : Unambiguous base) (userClear : Unambiguous user) :
    Unambiguous (insertAll user base) ↔ Apart base user := by
  have merged (entry : Text × List Text) : entry ∈ insertAll user base ↔
      entry ∈ user ∨ entry ∈ base ∧ entry.1 ∉ keys user :=
    mem_insertAll_iff userDistinct baseDistinct
  constructor
  · intro clear own written left standing unreplaced name inOwn inLeft
    have same : own.1 = left.1 := clear own ((merged own).mpr (.inl written)) left
      ((merged left).mpr (.inr ⟨standing, unreplaced⟩)) name inOwn inLeft
    have replaced : left.1 ∈ keys user := same ▸ List.mem_map_of_mem written
    exact unreplaced replaced
  · intro apart first firstListed second secondListed name inFirst inSecond
    rcases (merged first).mp firstListed with firstOwn | ⟨firstLeft, firstUnreplaced⟩
    · rcases (merged second).mp secondListed with secondOwn | ⟨secondLeft, secondUnreplaced⟩
      · exact userClear first firstOwn second secondOwn name inFirst inSecond
      · exact absurd inSecond (apart first firstOwn second secondLeft secondUnreplaced name inFirst)
    · rcases (merged second).mp secondListed with secondOwn | ⟨secondLeft, secondUnreplaced⟩
      · exact absurd inFirst (apart second secondOwn first firstLeft firstUnreplaced name inSecond)
      · exact baseClear first firstLeft second secondLeft name inFirst inSecond

namespace PolicySpec

variable {base user : PolicySpec}

/-- Entries come from one policy or the other, and what holds of each on its own holds again. -/
theorem SoundEntries.merge (first : base.SoundEntries) (second : user.SoundEntries) :
    (base.merge user).SoundEntries := by
  refine ⟨?elements, ?properties, ?tableAliases, ?rewrites, ?defaultBlock⟩
  case elements =>
    intro element member
    exact (mem_insertAll member).elim (second.elements element) (first.elements element)
  case properties =>
    intro table member
    exact (mem_insertAll member).elim (second.properties table) (first.properties table)
  case tableAliases =>
    intro table member
    exact (mem_insertAll member).elim (second.tableAliases table) (first.tableAliases table)
  case rewrites =>
    intro entry member
    exact (mem_insertAll member).elim (second.rewrites entry) (first.rewrites entry)
  case defaultBlock =>
    intro block written
    rcases Option.or_eq_some_iff.mp written with own | ⟨-, left⟩
    · exact second.defaultBlock block own
    · exact first.defaultBlock block left

theorem merge_sound_iff (baseKeyed : base.Keyed) (userKeyed : user.Keyed) (baseSound : base.Sound)
    (userSound : user.Sound) :
    (base.merge user).Sound ↔ Apart base.elementAliases user.elementAliases ∧
      Apart base.attributeAliases user.attributeAliases := by
  have elements : Unambiguous (base.merge user).elementAliases ↔
      Apart base.elementAliases user.elementAliases :=
    unambiguous_insertAll_iff baseKeyed.elementAliases userKeyed.elementAliases
      baseSound.elementAliases userSound.elementAliases
  have attributes : Unambiguous (base.merge user).attributeAliases ↔
      Apart base.attributeAliases user.attributeAliases :=
    unambiguous_insertAll_iff baseKeyed.attributeAliases userKeyed.attributeAliases
      baseSound.attributeAliases userSound.attributeAliases
  rw [← elements, ← attributes]
  constructor
  · intro sound
    exact ⟨sound.elementAliases, sound.attributeAliases⟩
  · intro clear
    exact ⟨baseSound.toSoundEntries.merge userSound.toSoundEntries, clear.1, clear.2⟩

/-- A policy without defects over another one has no defects if and only if neither its elements nor
its attributes share an alias with an entry of the other that they leave in place. Such aliases of
elements and attributes are all that can be wrong with the merged policy; those of style tables
stand for one property each, since whole tables are replaced. -/
theorem merge_isSound_iff (baseKeyed : base.Keyed) (userKeyed : user.Keyed)
    (baseSound : base.isSound) (userSound : user.isSound) :
    ((base.merge user).isSound ↔ Apart base.elementAliases user.elementAliases ∧
      Apart base.attributeAliases user.attributeAliases) ∧
    (∀ defect ∈ (base.merge user).defects, ∃ scope name first second,
      (scope = "element".toList ∨ scope = "attribute".toList) ∧
        defect = .ambiguousAlias scope name first second) ∧
    ∀ table ∈ (base.merge user).styleTables, Unambiguous table.2.aliases := by
  have first := isSound_iff.mp baseSound
  have second := isSound_iff.mp userSound
  have entries : (base.merge user).SoundEntries := first.toSoundEntries.merge second.toSoundEntries
  refine ⟨?_, ?_, entries.tableAliases⟩
  · rw [isSound_iff]
    exact merge_sound_iff baseKeyed userKeyed first second
  · intro defect told
    exact entries.exists_ambiguous told

/-- Headings that share the rules of the first one, and emphasis by two names. -/
def headingSpec : PolicySpec :=
  { empty with
    elementAliases := [("h1", ["h2", "h3"]), ("b", ["i"])]
    elements := [("p", []), ("h1", []), ("b", [])] }

/-- Fewer headings share the rules of the first one, and one of the others is a paragraph. -/
def demotedSpec : PolicySpec := { empty with elementAliases := [("h1", ["h2"]), ("p", ["h3"])] }

theorem merge_isSound_iff_demoted :
    headingSpec.Keyed ∧ demotedSpec.Keyed ∧ headingSpec.isSound ∧ demotedSpec.isSound ∧
    (headingSpec.merge demotedSpec).isSound := by
  have headingKeyed : headingSpec.Keyed :=
    ⟨by decide, by decide, by decide, by decide, by decide, by decide, by decide, by decide⟩
  have demotedKeyed : demotedSpec.Keyed :=
    ⟨by decide, by decide, by decide, by decide, by decide, by decide, by decide, by decide⟩
  have headingSound : headingSpec.isSound := by decide
  have demotedSound : demotedSpec.isSound := by decide
  have apart : Apart headingSpec.elementAliases demotedSpec.elementAliases ∧
      Apart headingSpec.attributeAliases demotedSpec.attributeAliases := by decide
  exact ⟨headingKeyed, demotedKeyed, headingSound, demotedSound,
    (merge_isSound_iff headingKeyed demotedKeyed headingSound demotedSound).1.mpr apart⟩

/-- A heading is to be a paragraph, and nothing is said of the headings it is listed with. -/
def movedSpec : PolicySpec := { empty with elementAliases := [("p", ["h3"])] }

/-- The heading stands for two elements, and neither policy has a defect. -/
theorem merge_ambiguous :
    headingSpec.Keyed ∧ movedSpec.Keyed ∧ headingSpec.isSound ∧ movedSpec.isSound ∧
    (headingSpec.merge movedSpec).defects = [.ambiguousAlias "element" "h3" "h1" "p"] := by
  have headingKeyed : headingSpec.Keyed :=
    ⟨by decide, by decide, by decide, by decide, by decide, by decide, by decide, by decide⟩
  have movedKeyed : movedSpec.Keyed :=
    ⟨by decide, by decide, by decide, by decide, by decide, by decide, by decide, by decide⟩
  exact ⟨headingKeyed, movedKeyed, by decide, by decide, by decide⟩

end PolicySpec
end SafeMarkup
