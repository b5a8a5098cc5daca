import SafeMarkup.Policy.Rewrite
import SafeMarkup.Proofs.PolicyData
import SafeMarkup.Proofs.Whitelist

/-!
Contract: the attributes of a tag once a rewrite has renamed it.

Owns: which attributes of the tag are spared and what is found under each key afterwards; when the
keys are still distinct, and when the values that the rewrite adds are the ones that are found.

Does not own: what a check makes of the renamed tag.
-/

namespace SafeMarkup

open Dictionary

namespace Rewrite

variable {rewrite : Rewrite} {tag : Tag} {key value : Text}

/-- The attributes that a rewrite leaves of a tag: all but the pairs that it asks for. -/
def spared (rewrite : Rewrite) (tag : Tag) : Dictionary Text :=
  tag.attributes.filter fun pair => !rewrite.conditions.contains pair

/-- Under the names that a rewrite adds, a tag has nothing but pairs that the rewrite asks for,
which it drops. -/
def MakesRoom (rewrite : Rewrite) (tag : Tag) : Prop :=
  ∀ pair ∈ tag.attributes, pair.1 ∈ keys rewrite.add → pair ∈ rewrite.conditions

instance (rewrite : Rewrite) (tag : Tag) : Decidable (rewrite.MakesRoom tag) :=
  inferInstanceAs (Decidable (∀ pair ∈ tag.attributes, pair.1 ∈ keys rewrite.add →
    pair ∈ rewrite.conditions))

theorem mem_spared {pair : Text × Text} :
    pair ∈ rewrite.spared tag ↔ pair ∈ tag.attributes ∧ pair ∉ rewrite.conditions := by
  simp [spared]

theorem nodup_keys_spared (distinct : (keys tag.attributes).Nodup) :
    (keys (rewrite.spared tag)).Nodup :=
  distinct.sublist (List.filter_sublist.map Prod.fst)

/-- What the tag had and keeps is found first, and what is added behind it. -/
theorem get?_apply (key : Text) : (rewrite.apply tag).get? key =
    (Dictionary.get? key (rewrite.spared tag)).or (Dictionary.get? key rewrite.add) :=
  get?_append key (rewrite.spared tag) rewrite.add

/-- A rewrite makes room if and only if what it spares has none of the names that it adds. -/
theorem makesRoom_iff :
    rewrite.MakesRoom tag ↔ (keys (rewrite.spared tag)).Disjoint (keys rewrite.add) := by
  constructor
  · intro room key inSpared added
    obtain ⟨pair, member, rfl⟩ := List.mem_map.mp inSpared
    obtain ⟨written, undropped⟩ := mem_spared.mp member
    exact undropped (room pair written added)
  · intro apart pair written added
    by_contra undropped
    exact apart (List.mem_map_of_mem (mem_spared.mpr ⟨written, undropped⟩)) added

theorem nodup_keys_apply_iff (distinct : (keys tag.attributes).Nodup) :
    (keys (rewrite.apply tag).attributes).Nodup ↔
      (keys rewrite.add).Nodup ∧ rewrite.MakesRoom tag := by
  have parts : keys (rewrite.apply tag).attributes =
      keys (rewrite.spared tag) ++ keys rewrite.add :=
    keys_append _ _
  rw [parts, List.nodup_append', makesRoom_iff, and_iff_right (nodup_keys_spared distinct)]

/-- An added value is the one that is found unless the tag keeps another one under its key. -/
theorem get?_apply_of_added (distinct : (keys tag.attributes).Nodup)
    (added : Dictionary.get? key rewrite.add = some value) :
    (rewrite.apply tag).get? key = some value ↔
      ∀ own, (key, own) ∈ tag.attributes → (key, own) ∈ rewrite.conditions ∨ own = value := by
  have keptDistinct : (keys (rewrite.spared tag)).Nodup := nodup_keys_spared distinct
  rw [get?_apply, added]
  constructor
  · intro found own written
    by_contra other
    obtain ⟨undropped, different⟩ := not_or.mp other
    have first : Dictionary.get? key (rewrite.spared tag) = some own :=
      (get?_eq_some_iff keptDistinct).mpr (mem_spared.mpr ⟨written, undropped⟩)
    rw [first, Option.some_or] at found
    exact different (Option.some.inj found)
  · intro replaced
    cases first : Dictionary.get? key (rewrite.spared tag) with
    | none => rfl
    | some own =>
        obtain ⟨written, undropped⟩ := mem_spared.mp (mem_of_get?_eq_some first)
        obtain rfl := (replaced own written).resolve_left undropped
        rfl

/-- Under the other keys a tag has after a rewrite what it had and was not asked for. -/
theorem get?_apply_of_not_added (distinct : (keys tag.attributes).Nodup)
    (other : key ∉ keys rewrite.add) :
    (rewrite.apply tag).get? key = some value ↔
      tag.get? key = some value ∧ (key, value) ∉ rewrite.conditions := by
  rw [get?_apply, get?_eq_none_iff.mpr other, Option.or_none,
    get?_eq_some_iff (nodup_keys_spared distinct), mem_spared, Tag.get?,
    get?_eq_some_iff distinct]

end Rewrite

namespace PolicySpec

variable {spec : PolicySpec} {policy : Policy} {tag : Tag} {rule : Rewrite}

/-- The rewrite that a compiled policy applies is one of the written ones. -/
theorem keyed_of_rewriteFor? (keyed : spec.Keyed) (compiled : spec.compile.value = .ok policy)
    (applies : policy.rewriteFor? tag = some rule) : rule.Keyed := by
  obtain ⟨rfl, -⟩ := compile_eq_ok compiled
  obtain ⟨rules, listed, found⟩ := Option.bind_eq_some_iff.mp applies
  exact keyed.rules _ (mem_of_get?_eq_some listed) rule (List.mem_of_find?_eq_some found)

end PolicySpec

namespace Policy

variable {policy : Policy} {tag : Tag} {rule : Rewrite}

theorem value_rewrite (applies : policy.rewriteFor? tag = some rule) :
    (policy.rewrite tag).value = rule.apply tag := by
  rw [rewrite, applies]
  rfl

/-- A tag with distinct keys has distinct keys after a rewrite exactly if the rewrite names nothing
twice, which none of a policy that comes from data does, and makes room for what it adds. An added
value is the one that is found afterwards exactly if the tag had no other value under its key, or
one that the rewrite asks for and drops. Under all other keys the tag has what it had, without the
pairs that were asked for. -/
theorem rewrite_distinct_iff (distinct : (keys tag.attributes).Nodup)
    (applies : policy.rewriteFor? tag = some rule) :
    ((keys (policy.rewrite tag).value.attributes).Nodup ↔
      (keys rule.add).Nodup ∧ rule.MakesRoom tag) ∧
    (∀ spec : PolicySpec, spec.Keyed → spec.compile.value = .ok policy → (keys rule.add).Nodup) ∧
    (∀ key value, Dictionary.get? key rule.add = some value →
      ((policy.rewrite tag).value.get? key = some value ↔
        ∀ own, (key, own) ∈ tag.attributes → (key, own) ∈ rule.conditions ∨ own = value)) ∧
    ∀ key value, key ∉ keys rule.add →
      ((policy.rewrite tag).value.get? key = some value ↔
        tag.get? key = some value ∧ (key, value) ∉ rule.conditions) := by
  rw [value_rewrite applies]
  refine ⟨Rewrite.nodup_keys_apply_iff distinct, ?_, ?_, ?_⟩
  · intro spec keyed compiled
    exact (PolicySpec.keyed_of_rewriteFor? keyed compiled applies).add
  · intro key value added
    exact Rewrite.get?_apply_of_added distinct added
  · intro key value other
    exact Rewrite.get?_apply_of_not_added distinct other

/-- Links out of the site become anchors that say so. -/
def outbound : Rewrite := ⟨[("kind", "external")], "a", [("rel", "nofollow")]⟩

def linkingSpec : PolicySpec :=
  { PolicySpec.empty with
    elements := [("p", []), ("a", [])]
    rewrites := [("link", [outbound])] }

/-- A link without a relation of its own. -/
def unrelated : Tag := ⟨"link", [("title", "x"), ("kind", "external")]⟩

theorem rewrite_distinct_iff_unrelated :
    (keys unrelated.attributes).Nodup ∧
    linkingSpec.compiled.rewriteFor? unrelated = some outbound ∧ outbound.MakesRoom unrelated ∧
    (keys (linkingSpec.compiled.rewrite unrelated).value.attributes).Nodup ∧
    (linkingSpec.compiled.rewrite unrelated).value.get? "rel" = some "nofollow" ∧
    (linkingSpec.compiled.rewrite unrelated).value.get? "title" = some "x" := by
  have distinct : (keys unrelated.attributes).Nodup := by decide
  have applies : linkingSpec.compiled.rewriteFor? unrelated = some outbound := by decide
  have room : outbound.MakesRoom unrelated := by decide
  have keyed : linkingSpec.Keyed :=
    ⟨by decide, by decide, by decide, by decide, by decide, by decide, by decide, by decide⟩
  obtain ⟨stays, unrepeated, added, spared⟩ := rewrite_distinct_iff distinct applies
  have isAdded : "rel".toList ∈ keys outbound.add := by decide
  have replaced : ∀ own, ("rel".toList, own) ∈ unrelated.attributes →
      ("rel".toList, own) ∈ outbound.conditions ∨ own = "nofollow" :=
    fun own written => .inl (room _ written isAdded)
  exact ⟨distinct, applies, room, stays.mpr ⟨unrepeated linkingSpec keyed rfl, room⟩,
    (added _ _ rfl).mpr replaced, (spared _ _ (by decide)).mpr (by decide)⟩

/-- A link that has a relation already. -/
def related : Tag := ⟨"link", [("rel", "me"), ("kind", "external")]⟩

/-- The relation of the link stands beside the one that is added, and is the one that is found. -/
theorem rewrite_repeats_key :
    (keys related.attributes).Nodup ∧
    linkingSpec.compile.value = .ok linkingSpec.compiled ∧
    linkingSpec.compiled.rewriteFor? related = some outbound ∧
    ¬(keys (linkingSpec.compiled.rewrite related).value.attributes).Nodup ∧
    (linkingSpec.compiled.rewrite related).value.get? "rel" = some "me" :=
  ⟨by decide, rfl, by decide, by decide, by decide⟩

end Policy
end SafeMarkup
