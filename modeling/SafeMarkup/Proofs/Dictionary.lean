import SafeMarkup.Dictionary
import Mathlib.Data.List.Nodup
import Mathlib.Data.List.Perm.Basic

/-!
Contract: what setting, finding and removing entries does to a dictionary as a list of entries.
-/

namespace SafeMarkup
namespace Dictionary

variable {α β : Type _}

theorem keys_cons (name : Text) (value : α) (entries : Dictionary α) :
    keys ((name, value) :: entries) = name :: keys entries := rfl

theorem keys_append (left right : Dictionary α) : keys (left ++ right) = keys left ++ keys right :=
  List.map_append

theorem insertAll_cons (name : Text) (value : α) (added entries : Dictionary α) :
    insertAll ((name, value) :: added) entries = insertAll added (insert name value entries) := rfl

/-! ## Setting -/

theorem mem_insert {key : Text} {value : α} {entries : Dictionary α} {pair : Text × α}
    (member : pair ∈ insert key value entries) : pair = (key, value) ∨ pair ∈ entries := by
  induction entries with
  | nil => exact .inl (List.mem_singleton.mp member)
  | cons entry rest inductionHypothesis =>
      obtain ⟨name, old⟩ := entry
      rw [insert] at member
      by_cases here : name = key
      · rw [if_pos here] at member
        rcases List.mem_cons.mp member with rfl | member
        · exact .inl (by rw [here])
        · exact .inr (List.mem_cons_of_mem _ member)
      · rw [if_neg here] at member
        rcases List.mem_cons.mp member with rfl | member
        · exact .inr List.mem_cons_self
        · exact (inductionHypothesis member).imp_right (List.mem_cons_of_mem _)

/-- Setting a key keeps the keys distinct. -/
theorem nodup_keys_insert {key : Text} {value : α} {entries : Dictionary α}
    (distinct : (keys entries).Nodup) : (keys (insert key value entries)).Nodup := by
  induction entries with
  | nil => exact List.nodup_singleton key
  | cons entry rest inductionHypothesis =>
      obtain ⟨name, old⟩ := entry
      obtain ⟨fresh, restDistinct⟩ := List.nodup_cons.mp distinct
      rw [insert]
      by_cases here : name = key
      · rw [if_pos here]
        exact distinct
      · rw [if_neg here]
        refine List.nodup_cons.mpr ⟨?_, inductionHypothesis restDistinct⟩
        intro member
        obtain ⟨pair, inside, same⟩ := List.mem_map.mp member
        rcases mem_insert inside with rfl | inside
        · exact here same.symm
        · exact fresh (List.mem_map.mpr ⟨pair, inside, same⟩)

theorem insert_insert (key : Text) (first second : α) (entries : Dictionary α) :
    insert key second (insert key first entries) = insert key second entries := by
  induction entries with
  | nil => simp [insert]
  | cons entry rest inductionHypothesis =>
      obtain ⟨name, old⟩ := entry
      rw [insert]
      split_ifs with here
      · simp [insert, here]
      · rw [insert, if_neg here, inductionHypothesis, insert, if_neg here]

theorem mem_insertAll {added entries : Dictionary α} {pair : Text × α}
    (member : pair ∈ insertAll added entries) : pair ∈ added ∨ pair ∈ entries := by
  induction added generalizing entries with
  | nil => exact .inr member
  | cons entry rest inductionHypothesis =>
      obtain ⟨key, value⟩ := entry
      rcases inductionHypothesis member with inside | inside
      · exact .inl (List.mem_cons_of_mem _ inside)
      · rcases mem_insert inside with rfl | inside
        · exact .inl List.mem_cons_self
        · exact .inr inside

/-! ## Finding -/

/-- An entry that is found and the rest without it are all entries. -/
theorem perm_cons_erase {key : Text} {value : α} {entries : Dictionary α}
    (found : get? key entries = some value) :
    ((key, value) :: erase key entries).Perm entries := by
  induction entries with
  | nil => exact absurd found nofun
  | cons entry rest inductionHypothesis =>
      obtain ⟨name, old⟩ := entry
      rw [get?] at found
      rw [erase]
      by_cases here : name = key
      · rw [if_pos here] at found ⊢
        rw [here, Option.some.inj found]
      · rw [if_neg here] at found ⊢
        exact (List.Perm.swap _ _ _).trans ((inductionHypothesis found).cons _)

theorem mem_of_get?_eq_some {key : Text} {value : α} {entries : Dictionary α}
    (found : get? key entries = some value) : (key, value) ∈ entries :=
  (perm_cons_erase found).mem_iff.mp List.mem_cons_self

theorem get?_map (f : Text → α → β) (key : Text) (entries : Dictionary α) :
    get? key (entries.map fun (name, value) => (name, f name value)) =
      (get? key entries).map (f key) := by
  induction entries with
  | nil => rfl
  | cons entry rest inductionHypothesis =>
      obtain ⟨name, value⟩ := entry
      rw [List.map_cons, get?, get?]
      by_cases here : name = key
      · rw [if_pos here, if_pos here, here]
        rfl
      · rw [if_neg here, if_neg here, inductionHypothesis]

theorem get?_append (key : Text) (left right : Dictionary α) :
    get? key (left ++ right) = (get? key left).or (get? key right) := by
  induction left with
  | nil => rfl
  | cons entry rest inductionHypothesis =>
      rw [List.cons_append, get?, get?]
      split
      · rfl
      · exact inductionHypothesis

theorem get?_filter_keys (keep : Text → Bool) (key : Text) (entries : Dictionary α) :
    get? key (entries.filter fun entry => keep entry.1) =
      if keep key then get? key entries else none := by
  induction entries with
  | nil => exact (ite_self none).symm
  | cons entry rest inductionHypothesis =>
      obtain ⟨name, value⟩ := entry
      rw [get?]
      by_cases here : name = key
      · subst here
        cases kept : keep name with
        | true => simp [get?, kept]
        | false => simpa [kept] using inductionHypothesis
      · rw [if_neg here, ← inductionHypothesis]
        cases kept : keep name with
        | true => simp [get?, kept, here]
        | false => simp [kept]

/-- An entry that is found is still found without others. -/
theorem get?_filter_eq_some {keep : Text × α → Bool} {key : Text} {value : α}
    {entries : Dictionary α} (found : get? key entries = some value) (kept : keep (key, value)) :
    get? key (entries.filter keep) = some value := by
  induction entries with
  | nil => exact absurd found nofun
  | cons entry rest inductionHypothesis =>
      obtain ⟨name, first⟩ := entry
      rw [get?] at found
      by_cases here : name = key
      · subst here
        rw [if_pos rfl] at found
        obtain rfl := Option.some.inj found
        rw [List.filter_cons_of_pos kept, get?, if_pos rfl]
      · rw [if_neg here] at found
        have behind := inductionHypothesis found
        rw [List.filter_cons]
        split
        · rw [get?, if_neg here, behind]
        · exact behind

theorem get?_eq_none_iff {key : Text} {entries : Dictionary α} :
    get? key entries = none ↔ key ∉ keys entries := by
  induction entries with
  | nil => simp [get?, keys]
  | cons entry rest inductionHypothesis =>
      obtain ⟨name, value⟩ := entry
      have others : get? key rest = none ↔ key ∉ rest.map Prod.fst := inductionHypothesis
      by_cases here : name = key
      · simp [get?, keys, here]
      · simp [get?, keys, here, others, Ne.symm here]

theorem exists_get?_iff {key : Text} {entries : Dictionary α} :
    (∃ value, get? key entries = some value) ↔ key ∈ keys entries := by
  rw [← Option.ne_none_iff_exists', Ne, get?_eq_none_iff, not_not]

theorem has_iff {key : Text} {entries : Dictionary α} : has key entries ↔ key ∈ keys entries := by
  rw [has, Option.isSome_iff_exists, exists_get?_iff]

theorem has_eq_decide (key : Text) (entries : Dictionary α) :
    has key entries = decide (key ∈ keys entries) := by
  rw [Bool.eq_iff_iff, has_iff, decide_eq_true_iff]

theorem get?_eq_some_iff {key : Text} {value : α} {entries : Dictionary α}
    (distinct : (keys entries).Nodup) : get? key entries = some value ↔ (key, value) ∈ entries := by
  refine ⟨mem_of_get?_eq_some, fun member => ?_⟩
  induction entries with
  | nil => exact absurd member List.not_mem_nil
  | cons entry rest inductionHypothesis =>
      obtain ⟨fresh, restDistinct⟩ := List.nodup_cons.mp distinct
      rw [get?]
      rcases List.mem_cons.mp member with rfl | inside
      · rw [if_pos rfl]
      · have other : entry.1 ≠ key := by
          rintro rfl
          exact fresh (List.mem_map.mpr ⟨_, inside, rfl⟩)
        rw [if_neg other]
        exact inductionHypothesis restDistinct inside

theorem get?_eq_of_perm {key : Text} {left right : Dictionary α} (distinct : (keys left).Nodup)
    (same : left.Perm right) : get? key left = get? key right := by
  have rightDistinct : (keys right).Nodup := (same.map Prod.fst).nodup_iff.mp distinct
  apply Option.ext
  intro value
  rw [get?_eq_some_iff distinct, get?_eq_some_iff rightDistinct, same.mem_iff]

/-- Two dictionaries with the same keys in the same order and the same values are the same. -/
theorem eq_of_keys_eq {left right : Dictionary α} (distinct : (keys left).Nodup)
    (sameKeys : keys left = keys right) (sameValues : ∀ key, get? key left = get? key right) :
    left = right := by
  induction left generalizing right with
  | nil => exact (List.map_eq_nil_iff.mp sameKeys.symm).symm
  | cons entry left inductionHypothesis =>
      cases right with
      | nil => exact absurd sameKeys (List.cons_ne_nil _ _)
      | cons other right =>
          obtain ⟨name, value⟩ := entry
          obtain ⟨otherName, otherValue⟩ := other
          obtain ⟨rfl, behind⟩ := List.cons.inj sameKeys
          obtain ⟨fresh, restDistinct⟩ := List.nodup_cons.mp distinct
          have here : value = otherValue := by simpa [get?] using sameValues name
          have restValues : ∀ key, get? key left = get? key right := by
            intro key
            by_cases same : name = key
            · subst same
              have otherFresh : name ∉ keys right := by
                rw [keys, ← behind]
                exact fresh
              rw [get?_eq_none_iff.mpr fresh, get?_eq_none_iff.mpr otherFresh]
            · simpa [get?, same] using sameValues key
          rw [here, inductionHypothesis restDistinct behind restValues]

/-! ## Keys in their order -/

/-- First occurrences among some elements are the first occurrences, among those elements. -/
theorem eraseDups_filter (p : Text → Bool) (texts : List Text) :
    (texts.filter p).eraseDups = texts.eraseDups.filter p := by
  -- First occurrences recurse on what is left without the first element, not on the rest.
  induction measured : texts.length using Nat.strongRecOn generalizing texts with
  | ind size inductionHypothesis =>
      subst measured
      cases texts with
      | nil => simp
      | cons first rest =>
          have shorter : (rest.filter fun text => !text == first).length <
              (first :: rest).length := by
            have kept := List.length_filter_le (fun text => !text == first) rest
            simp only [List.length_cons]
            omega
          have behind := inductionHypothesis _ shorter _ rfl
          rw [List.eraseDups_cons]
          cases here : p first with
          | true =>
              rw [List.filter_cons_of_pos here, List.filter_cons_of_pos here, List.eraseDups_cons,
                ← behind, List.filter_filter, List.filter_filter]
              simp only [Bool.and_comm]
          | false =>
              have refused : ¬p first := by simp [here]
              rw [List.filter_cons_of_neg refused, List.filter_cons_of_neg refused, ← behind,
                List.filter_filter]
              refine congrArg List.eraseDups (List.filter_congr fun text _ => ?_)
              by_cases same : text = first
              · simp [same, here]
              · simp [same]

theorem keys_insert (key : Text) (value : α) (entries : Dictionary α) :
    keys (insert key value entries) =
      if key ∈ keys entries then keys entries else keys entries ++ [key] := by
  induction entries with
  | nil => rfl
  | cons entry rest inductionHypothesis =>
      obtain ⟨name, old⟩ := entry
      rw [insert]
      by_cases here : name = key
      · simp [here, keys]
      · rw [if_neg here, keys_cons, keys_cons, inductionHypothesis]
        have other : ¬key = name := Ne.symm here
        by_cases present : key ∈ keys rest
        · simp [present]
        · simp [present, other]

theorem keys_insertAll (added entries : Dictionary α) :
    keys (insertAll added entries) =
      keys entries ++ ((keys added).filter fun key => !(keys entries).contains key).eraseDups := by
  induction added generalizing entries with
  | nil => simp [insertAll, keys]
  | cons entry rest inductionHypothesis =>
      obtain ⟨key, value⟩ := entry
      rw [insertAll_cons, inductionHypothesis, keys_insert, keys_cons]
      by_cases present : key ∈ keys entries
      · simp [present]
      · rw [if_neg present, List.filter_cons_of_pos (by simpa using present), List.eraseDups_cons,
          List.filter_filter, List.append_assoc, List.singleton_append]
        refine congrArg (_ ++ key :: ·) (congrArg List.eraseDups (List.filter_congr ?_))
        intro other _
        by_cases same : other = key
        · simp [same]
        · simp [same]

/-- Of a repeated key the first place counts. -/
theorem keys_ofList (entries : List (Text × α)) :
    keys (ofList entries) = (keys entries).eraseDups := by
  rw [ofList, keys_insertAll]
  simp [keys]

theorem get?_insertAll (key : Text) (added entries : Dictionary α) :
    get? key (insertAll added entries) = (get? key added.reverse).or (get? key entries) := by
  induction added generalizing entries with
  | nil => rfl
  | cons entry rest inductionHypothesis =>
      obtain ⟨name, value⟩ := entry
      rw [insertAll_cons, inductionHypothesis, get?_insert, List.reverse_cons, get?_append,
        Option.or_assoc]
      by_cases here : name = key
      · simp [get?, here]
      · simp [get?, here]

/-- Of a repeated key the last value counts. -/
theorem get?_ofList (key : Text) (entries : List (Text × α)) :
    get? key (ofList entries) = get? key entries.reverse := by
  rw [ofList, get?_insertAll]
  exact Option.or_none

theorem nodup_keys_insertAll {added entries : Dictionary α} (distinct : (keys entries).Nodup) :
    (keys (insertAll added entries)).Nodup := by
  induction added generalizing entries with
  | nil => exact distinct
  | cons entry rest inductionHypothesis => exact inductionHypothesis (nodup_keys_insert distinct)

theorem nodup_keys_ofList (entries : List (Text × α)) : (keys (ofList entries)).Nodup :=
  nodup_keys_insertAll List.nodup_nil

theorem insert_of_fresh {key : Text} {value : α} {entries : Dictionary α}
    (fresh : key ∉ keys entries) : insert key value entries = entries ++ [(key, value)] := by
  induction entries with
  | nil => rfl
  | cons entry rest inductionHypothesis =>
      obtain ⟨name, old⟩ := entry
      obtain ⟨other, freshRest⟩ := not_or.mp (List.mem_cons.not.mp fresh)
      rw [insert, if_neg (Ne.symm other), inductionHypothesis freshRest]
      rfl

theorem insertAll_eq_append {added entries : Dictionary α}
    (distinct : (keys (entries ++ added)).Nodup) : insertAll added entries = entries ++ added := by
  induction added generalizing entries with
  | nil => exact (List.append_nil entries).symm
  | cons entry rest inductionHypothesis =>
      obtain ⟨key, value⟩ := entry
      rw [List.append_cons] at distinct
      have fresh : key ∉ keys entries := by
        rw [keys_append, keys_append] at distinct
        have apart := List.disjoint_of_nodup_append distinct.of_append_left
        intro member
        exact apart member List.mem_cons_self
      rw [insertAll_cons, insert_of_fresh fresh, inductionHypothesis distinct, ← List.append_cons]

/-- Entries whose keys do not repeat are a dictionary as they are. -/
theorem ofList_eq_self {entries : List (Text × α)} (distinct : (keys entries).Nodup) :
    ofList entries = entries :=
  insertAll_eq_append distinct

theorem keys_mapValues (f : α → β) (entries : Dictionary α) :
    keys (mapValues f entries) = keys entries := by
  rw [keys, mapValues, List.map_map]
  rfl

theorem get?_mapValues (f : α → β) (key : Text) (entries : Dictionary α) :
    get? key (mapValues f entries) = (get? key entries).map f :=
  get?_map (fun _ => f) key entries

theorem keys_erase (key : Text) {entries : Dictionary α} (distinct : (keys entries).Nodup) :
    keys (erase key entries) = (keys entries).filter fun other => !other == key := by
  induction entries with
  | nil => rfl
  | cons entry rest inductionHypothesis =>
      obtain ⟨name, value⟩ := entry
      obtain ⟨fresh, restDistinct⟩ := List.nodup_cons.mp distinct
      rw [erase, keys_cons]
      by_cases here : name = key
      · subst here
        rw [if_pos rfl, List.filter_cons_of_neg (by simp)]
        refine (List.filter_eq_self.mpr fun other member => ?_).symm
        have different : other ≠ name := by
          rintro rfl
          exact fresh member
        simpa using different
      · rw [if_neg here, keys_cons, List.filter_cons_of_pos (by simpa using here),
          inductionHypothesis restDistinct]

end Dictionary
end SafeMarkup
