import SafeMarkup.Proofs.Compilation
import SafeMarkup.Proofs.PolicyData

/-!
Contract: policies written over each other.

Owns: that entries set on top of each other may be set in any grouping, with the order of the keys;
that policies merge the same way; and that the elements of the policy on top go by their own chains
once the merged policy compiles.

Does not own: which policies compile, and whether a merged policy is free of defects.
-/

namespace SafeMarkup

/-! ## Entries over entries -/

namespace Dictionary

variable {α : Type _}

theorem mem_keys_insert_of_mem {key name : Text} {value : α} {entries : Dictionary α}
    (present : key ∈ keys entries) : key ∈ keys (insert name value entries) := by
  rw [keys_insert]
  split
  · exact present
  · exact List.mem_append_left _ present

/-- A key that is there can be set before or after another one: its place is settled. -/
theorem insert_comm {key other : Text} (apart : key ≠ other) {entries : Dictionary α}
    (present : key ∈ keys entries) (value otherValue : α) :
    insert key value (insert other otherValue entries) =
      insert other otherValue (insert key value entries) := by
  induction entries with
  | nil => exact absurd present List.not_mem_nil
  | cons entry rest inductionHypothesis =>
      obtain ⟨name, old⟩ := entry
      by_cases here : name = key
      · subst here
        simp [insert, apart]
      · by_cases there : name = other
        · subst there
          simp [insert, here]
        · have inside : key ∈ keys rest := by
            rcases List.mem_cons.mp present with same | inside
            · exact absurd same.symm here
            · exact inside
          simp [insert, here, there, inductionHypothesis inside]

theorem insert_insertAll {key : Text} (value : α) {added entries : Dictionary α}
    (fresh : key ∉ keys added) (present : key ∈ keys entries) :
    insert key value (insertAll added entries) = insertAll added (insert key value entries) := by
  induction added generalizing entries with
  | nil => rfl
  | cons entry rest inductionHypothesis =>
      obtain ⟨name, old⟩ := entry
      obtain ⟨apart, freshRest⟩ := not_or.mp (List.mem_cons.not.mp fresh)
      rw [insertAll_cons, insertAll_cons,
        inductionHypothesis freshRest (mem_keys_insert_of_mem present),
        insert_comm apart present]

/-- Setting a key in what is added is setting it in the end. -/
theorem insertAll_insert (key : Text) (value : α) {added : Dictionary α}
    (distinct : (keys added).Nodup) (entries : Dictionary α) :
    insertAll (insert key value added) entries = insert key value (insertAll added entries) := by
  induction added generalizing entries with
  | nil => rfl
  | cons entry rest inductionHypothesis =>
      obtain ⟨name, old⟩ := entry
      obtain ⟨fresh, restDistinct⟩ := List.nodup_cons.mp distinct
      rw [insert]
      by_cases here : name = key
      · subst here
        have present : name ∈ keys (insert name old entries) :=
          has_iff.mp (by simp [has])
        rw [if_pos rfl, insertAll_cons, insertAll_cons, insert_insertAll value fresh present,
          insert_insert]
      · rw [if_neg here, insertAll_cons, insertAll_cons, inductionHypothesis restDistinct]

/-- Entries over entries over entries: the grouping does not matter, down to the order. -/
theorem insertAll_insertAll (top : Dictionary α) {middle : Dictionary α}
    (distinct : (keys middle).Nodup) (base : Dictionary α) :
    insertAll top (insertAll middle base) = insertAll (insertAll top middle) base := by
  induction top generalizing middle with
  | nil => rfl
  | cons entry rest inductionHypothesis =>
      obtain ⟨key, value⟩ := entry
      rw [insertAll_cons, insertAll_cons, ← insertAll_insert key value distinct,
        inductionHypothesis (nodup_keys_insert distinct)]

/-- Of a key that is added the added value counts. -/
theorem get?_insertAll_of_mem {key : Text} {value : α} {added : Dictionary α}
    (distinct : (keys added).Nodup) (member : (key, value) ∈ added) (entries : Dictionary α) :
    get? key (insertAll added entries) = some value := by
  have found : get? key added = some value := (get?_eq_some_iff distinct).mpr member
  rw [get?_insertAll, ← get?_eq_of_perm distinct added.reverse_perm.symm, found, Option.some_or]

end Dictionary

/-! ## Policies over policies -/

namespace PolicySpec

open Dictionary

theorem merge_assoc (base : PolicySpec) {middle : PolicySpec} (keyed : middle.Keyed)
    (top : PolicySpec) : (base.merge middle).merge top = base.merge (middle.merge top) := by
  simp only [merge, Option.or_assoc, mk.injEq, true_and]
  exact ⟨insertAll_insertAll _ keyed.elementAliases _,
    insertAll_insertAll _ keyed.attributeAliases _, insertAll_insertAll _ keyed.rewrites _,
    insertAll_insertAll _ keyed.styleTables _, insertAll_insertAll _ keyed.elements _⟩

theorem merge_empty (policy : PolicySpec) : policy.merge empty = policy := by
  simp only [merge, empty, Option.none_or]
  rfl

theorem empty_merge {policy : PolicySpec} (keyed : policy.Keyed) :
    empty.merge policy = policy := by
  have again : empty.merge policy = { policy with
      elementAliases := ofList policy.elementAliases
      attributeAliases := ofList policy.attributeAliases
      rewrites := ofList policy.rewrites
      styleTables := ofList policy.styleTables
      elements := ofList policy.elements } := by
    simp only [merge, empty, Option.or_none]
    rfl
  rw [again, ofList_eq_self keyed.elementAliases, ofList_eq_self keyed.attributeAliases,
    ofList_eq_self keyed.rewrites, ofList_eq_self keyed.styleTables, ofList_eq_self keyed.elements]

/-- Policies merge like layers: their grouping does not matter, down to the order of all entries,
and an empty one changes nothing on either side. Once a merged policy compiles, each element of the
policy on top goes by the chain that is written for it there, with the style tables of both,
whatever the policy below says of the element. -/
theorem merge_layered :
    (∀ base middle top : PolicySpec, middle.Keyed →
      (base.merge middle).merge top = base.merge (middle.merge top)) ∧
    (∀ policy : PolicySpec, policy.Keyed →
      policy.merge empty = policy ∧ empty.merge policy = policy) ∧
    ∀ (base user : PolicySpec) (policy : Policy), user.Keyed →
      (base.merge user).compile.value = .ok policy →
        Related BuildsTable (insertAll user.styleTables base.styleTables) policy.styleTables ∧
        ∀ entry ∈ user.elements, ∃ built, policy.chainFor? entry.1 = some built ∧
          Builds policy.styleTables false entry.1 entry.2 built := by
  refine ⟨fun base middle top keyed => merge_assoc base keyed top,
    fun policy keyed => ⟨merge_empty policy, empty_merge keyed⟩, ?_⟩
  intro base user policy keyed compiles
  obtain ⟨rfl, sound⟩ := compile_eq_ok compiles
  have built : (base.merge user).BuiltInto (base.merge user).compiled :=
    builtInto_compiled ((base.merge user).faults_eq_flaws ▸ sound)
  refine ⟨built.tables, ?_⟩
  rintro ⟨name, chain⟩ member
  have written : Dictionary.get? name (base.merge user).elements = some chain :=
    get?_insertAll_of_mem keyed.elements member base.elements
  exact built.own name chain written

/-- A policy in which `b` goes by the rules of `p`. -/
def sharing : PolicySpec :=
  { empty with
    verbose := some true
    elements := [("p", [])]
    elementAliases := [("p", ["b"])] }

/-- A policy with rules for `b`, and a style table that they use. -/
def ruling : PolicySpec :=
  { empty with
    styleTables := [("t", ⟨[], []⟩)]
    elements := [("b", [[("style", .simple .unwritten (.style "t"))]])] }

theorem merge_layered_ruling :
    ruling.Keyed ∧ (sharing.merge ruling).compile.value = .ok (sharing.merge ruling).compiled ∧
      (sharing.merge ruling).merge sharing = sharing.merge (ruling.merge sharing) ∧
      empty.merge ruling = ruling ∧
      ∃ built, (sharing.merge ruling).compiled.chainFor? "b" = some built ∧
        Builds (sharing.merge ruling).compiled.styleTables false "b"
          [[("style", .simple .unwritten (.style "t"))]] built := by
  have keyed : ruling.Keyed :=
    ⟨by decide, by decide, by decide, by decide, by decide, by decide, by decide, by decide⟩
  have compiles : (sharing.merge ruling).compile.value = .ok (sharing.merge ruling).compiled := rfl
  obtain ⟨grouping, neutral, ruled⟩ := merge_layered
  obtain ⟨-, own⟩ := ruled sharing ruling _ keyed compiles
  exact ⟨keyed, compiles, grouping sharing ruling sharing keyed, (neutral ruling keyed).2,
    own _ List.mem_cons_self⟩

end PolicySpec
end SafeMarkup
