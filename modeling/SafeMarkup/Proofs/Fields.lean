import SafeMarkup.Policy.Decode
import SafeMarkup.Proofs.Dictionary
import SafeMarkup.Proofs.Json

/-!
Contract: fields and collections that were written as data are read back.

Owns: lists, dictionaries and single fields, each for any way of writing and reading a value; and
the fields of settings and flags that are left out where there is nothing to write.

Does not own: which fields a structure has.
-/

namespace SafeMarkup

open Dictionary

variable {α β : Type} {read : Value → Option α} {encode : α → Value}

/-! ## Collections -/

theorem mapM_encoded {γ : Type} {write : α → γ} {read : γ → Option α} {items : List α}
    (each : ∀ item ∈ items, read (write item) = some item) :
    (items.map write).mapM read = some items := by
  induction items with
  | nil => rfl
  | cons item items inductionHypothesis =>
      obtain ⟨first, others⟩ := List.forall_mem_cons.mp each
      rw [List.map_cons, List.mapM_cons, first, inductionHypothesis others]
      rfl

theorem readList_encoded {items : List α}
    (each : ∀ item ∈ items, read (encode item) = some item) :
    Value.readList read (.list (items.map encode)) = some items :=
  mapM_encoded each

theorem mapM_entries_encoded {entries : Dictionary α}
    (each : ∀ entry ∈ entries, read (encode entry.2) = some entry.2) :
    (mapValues encode entries).mapM (fun (key, value) =>
      (read value).map fun value => (key, value)) = some entries := by
  apply mapM_encoded
  rintro ⟨key, value⟩ member
  exact congrArg (Option.map _) (each _ member)

theorem readDictionary_encoded {entries : Dictionary α} (distinct : (keys entries).Nodup)
    (each : ∀ entry ∈ entries, read (encode entry.2) = some entry.2) :
    Value.readDictionary read (.record (mapValues encode entries)) = some entries := by
  rw [Value.readDictionary]
  simp only [Value.readFields, Option.bind_eq_bind, Option.bind_some]
  rw [mapM_entries_encoded each, Option.bind_some, ofList_eq_self distinct]
  rfl

theorem readTexts_encoded (texts : List Text) :
    Value.readList Value.asString? (encodeTexts texts) = some texts :=
  readList_encoded fun _ _ => rfl

/-! ## What was read -/

theorem read_of_mem_mapM {γ : Type} {read : γ → Option α} {sources : List γ} {items : List α}
    (reads : sources.mapM read = some items) {item : α} (member : item ∈ items) :
    ∃ source ∈ sources, read source = some item := by
  induction sources generalizing items with
  | nil =>
      obtain rfl : [] = items := Option.some.inj reads
      exact absurd member List.not_mem_nil
  | cons source sources inductionHypothesis =>
      simp only [List.mapM_cons, Option.bind_eq_bind, Option.bind_eq_some_iff] at reads
      obtain ⟨first, here, others, behind, same⟩ := reads
      obtain rfl : first :: others = items := Option.some.inj same
      rcases List.mem_cons.mp member with rfl | inside
      · exact ⟨source, List.mem_cons_self, here⟩
      · obtain ⟨other, within, readOther⟩ := inductionHypothesis behind inside
        exact ⟨other, List.mem_cons_of_mem _ within, readOther⟩

theorem read_of_mem_readList {value : Value} {items : List α}
    (reads : Value.readList read value = some items) {item : α} (member : item ∈ items) :
    ∃ source, read source = some item := by
  cases value with
  | list sources =>
      obtain ⟨source, -, readSource⟩ := read_of_mem_mapM reads member
      exact ⟨source, readSource⟩
  | null | bool | number | string | record => exact absurd reads nofun

/-- A dictionary that was read names each key once, with values that were read. -/
theorem readDictionary_eq_some {value : Value} {entries : Dictionary α}
    (reads : Value.readDictionary read value = some entries) :
    (keys entries).Nodup ∧ ∀ entry ∈ entries, ∃ source, read source = some entry.2 := by
  rw [Value.readDictionary] at reads
  simp only [Option.bind_eq_bind, Option.bind_eq_some_iff] at reads
  obtain ⟨fields, -, pairs, readPairs, same⟩ := reads
  obtain rfl : ofList pairs = entries := Option.some.inj same
  refine ⟨nodup_keys_ofList pairs, ?_⟩
  intro entry member
  have inside : entry ∈ pairs := (mem_insertAll member).resolve_right List.not_mem_nil
  obtain ⟨⟨key, source⟩, -, readEntry⟩ := read_of_mem_mapM readPairs inside
  obtain ⟨found, readSource, rfl⟩ := Option.map_eq_some_iff.mp readEntry
  exact ⟨source, readSource⟩

/-- A field that was read is its usual value or was read from some value. -/
theorem fieldOr_eq_some {name : Text} {usual result : β} {read : α → Option β}
    {fields : List (Text × α)} (reads : fieldOr name usual read fields = some result) :
    result = usual ∨ ∃ source, read source = some result := by
  unfold fieldOr at reads
  split at reads
  · exact .inr ⟨_, reads⟩
  · exact .inl (Option.some.inj reads).symm
  · exact absurd reads nofun

/-- A dictionary that stands in a field names each key once, with values that were read. -/
theorem fieldOr_dictionary {name : Text} {fields : List (Text × Value)} {entries : Dictionary α}
    (reads : fieldOr name [] (Value.readDictionary read) fields = some entries) :
    (keys entries).Nodup ∧ ∀ entry ∈ entries, ∃ source, read source = some entry.2 := by
  rcases fieldOr_eq_some reads with rfl | ⟨source, readSource⟩
  · exact ⟨List.nodup_nil, List.forall_mem_nil _⟩
  · exact readDictionary_eq_some readSource

/-! ## Fields -/

theorem filter_of_notMem_keys {name : Text} {fields : List (Text × α)} (fresh : name ∉ keys fields) :
    fields.filter (fun (key, _) => key = name) = [] := by
  refine List.filter_eq_nil_iff.mpr ?_
  rintro ⟨key, _⟩ member same
  obtain rfl : key = name := by simpa using same
  exact fresh (List.mem_map.mpr ⟨_, member, rfl⟩)

section Fields

variable {fields : List (Text × α)} (distinct : (keys fields).Nodup)
include distinct

/-- Where no name comes twice a field is the entry of its name. -/
theorem singleField_eq_get? (name : Text) : singleField name fields = some (get? name fields) := by
  induction fields with
  | nil => rfl
  | cons field fields inductionHypothesis =>
      obtain ⟨other, value⟩ := field
      obtain ⟨fresh, distinctRest⟩ := List.nodup_cons.mp distinct
      have behind := inductionHypothesis distinctRest
      rw [singleField] at behind ⊢
      by_cases here : other = name
      · subst here
        rw [List.filter_cons_of_pos (by simp), filter_of_notMem_keys fresh, get?, if_pos rfl]
      · rw [List.filter_cons_of_neg (by simpa using here), behind, get?, if_neg here]

theorem requiredField_eq_bind (name : Text) (read : α → Option β) :
    requiredField name read fields = (get? name fields).bind read := by
  rw [requiredField, singleField_eq_get? distinct]
  cases get? name fields <;> rfl

theorem fieldOr_eq_elim (name : Text) (usual : β) (read : α → Option β) :
    fieldOr name usual read fields = (get? name fields).elim (some usual) read := by
  rw [fieldOr, singleField_eq_get? distinct]
  cases get? name fields <;> rfl

theorem fieldOr_of_get? (name : Text) {value : α} {result : β} (usual : β) {read : α → Option β}
    (found : get? name fields = some value) (reads : read value = some result) :
    fieldOr name usual read fields = some result := by
  rw [fieldOr_eq_elim distinct, found]
  exact reads

theorem requiredField_of_get? (name : Text) {value : α} {result : β} {read : α → Option β}
    (found : get? name fields = some value) (reads : read value = some result) :
    requiredField name read fields = some result := by
  rw [requiredField_eq_bind distinct, found]
  exact reads

end Fields

/-! ## Settings and flags -/

theorem get?_encodeOptional (name other : Text) (encode : α → Value) (setting : Option α) :
    get? other (encodeOptional name encode setting) =
      if name = other then setting.map encode else none := by
  cases setting <;> simp [encodeOptional, get?]

theorem get?_encodeFlag (name other : Text) (on : Bool) :
    get? other (encodeFlag name on) =
      if name = other then if on then some (.bool true) else none else none := by
  cases on <;> simp [encodeFlag, get?]

theorem keys_encodeOptional (name : Text) (encode : α → Value) (setting : Option α) :
    (keys (encodeOptional name encode setting)).Sublist [name] := by
  cases setting with
  | none => exact List.nil_sublist _
  | some value => exact List.Sublist.refl _

theorem keys_encodeFlag (name : Text) (on : Bool) : (keys (encodeFlag name on)).Sublist [name] := by
  cases on with
  | false => exact List.nil_sublist _
  | true => exact List.Sublist.refl _

theorem fieldOr_optional {fields : List (Text × Value)} (distinct : (keys fields).Nodup)
    {name : Text} {setting : Option α} (found : get? name fields = setting.map encode)
    (reads : ∀ value, Value.readOptional read (encode value) = some (some value)) :
    fieldOr name none (Value.readOptional read) fields = some setting := by
  rw [fieldOr_eq_elim distinct, found]
  cases setting with
  | none => rfl
  | some value => exact reads value

/-! ## Numbers -/

/-- Fields without numbers. -/
def NumberlessFields (fields : List (Text × Value)) : Prop := ∀ field ∈ fields, field.2.Numberless

theorem NumberlessFields.append {left right : List (Text × Value)} (first : NumberlessFields left)
    (second : NumberlessFields right) : NumberlessFields (left ++ right) :=
  List.forall_mem_append.mpr ⟨first, second⟩

theorem NumberlessFields.cons {name : Text} {value : Value} {fields : List (Text × Value)}
    (first : value.Numberless) (others : NumberlessFields fields) :
    NumberlessFields ((name, value) :: fields) :=
  List.forall_mem_cons.mpr ⟨first, others⟩

theorem NumberlessFields.nil : NumberlessFields [] :=
  List.forall_mem_nil _

theorem NumberlessFields.record {fields : List (Text × Value)} (each : NumberlessFields fields) :
    (Value.record fields).Numberless :=
  .record each

theorem numberless_encodeOptional (name : Text) (each : ∀ value, (encode value).Numberless)
    (setting : Option α) : NumberlessFields (encodeOptional name encode setting) := by
  cases setting with
  | none => exact .nil
  | some value => exact .cons (each value) .nil

theorem numberless_encodeFlag (name : Text) (on : Bool) :
    NumberlessFields (encodeFlag name on) := by
  cases on with
  | false => exact .nil
  | true => exact .cons (.bool true) .nil

theorem numberless_mapValues {entries : Dictionary α}
    (each : ∀ entry ∈ entries, (encode entry.2).Numberless) :
    NumberlessFields (mapValues encode entries) := by
  intro field member
  obtain ⟨entry, inside, rfl⟩ := List.mem_map.mp member
  exact each entry inside

theorem numberless_list {items : List α} (each : ∀ item ∈ items, (encode item).Numberless) :
    (Value.list (items.map encode)).Numberless :=
  .list (List.forall_mem_map.mpr each)

theorem numberless_texts (texts : List Text) : (encodeTexts texts).Numberless :=
  numberless_list fun text _ => .string text

end SafeMarkup
