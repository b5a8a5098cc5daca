import SafeMarkup.Proofs.Fields

/-!
Contract: written validators survive being written as data.

Owns: the names of the fields of a validator, none of which comes twice although its kind and its
options share one record; and that every validator with all its parts is read back from its data,
with the settings that were not written left unwritten.

Does not own: the tables and policies that validators stand in.
-/

namespace SafeMarkup

open Dictionary

namespace ValidatorSpec

/-! ## Fields of validators -/

/-- What holds of all validators if it holds of those whose parts it holds of. -/
@[elab_as_elim]
theorem spec_induction {motive : ValidatorSpec → Prop}
    (simple : ∀ options kind, motive (.simple options kind))
    (sequence : ∀ options item delimiter joiner appender, (∀ part ∈ item, motive part) →
      motive (.sequence options item delimiter joiner appender))
    (indent : ∀ options item delimiter joiner appender, (∀ part ∈ item, motive part) →
      motive (.indent options item delimiter joiner appender))
    (complex : ∀ options slots delimiter joiner, (∀ slot ∈ slots, motive slot) →
      motive (.complex options slots delimiter joiner)) (spec : ValidatorSpec) : motive spec := by
  refine @ValidatorSpec.rec motive (fun item => ∀ part ∈ item, motive part)
    (fun slots => ∀ slot ∈ slots, motive slot) simple sequence indent complex nofun ?_ nofun ?_ spec
  · intro item holds part member
    rwa [← Option.mem_some_iff.mp member]
  · intro slot slots holds others
    exact List.forall_mem_cons.mpr ⟨holds, others⟩

theorem encodeItem_eq_encodeOptional (item : Option ValidatorSpec) :
    encodeItem item = encodeOptional "item" encode item := by
  cases item <;> rfl

theorem encodeSlots_eq_map (slots : List ValidatorSpec) : encodeSlots slots = slots.map encode := by
  induction slots with
  | nil => rfl
  | cons slot slots inductionHypothesis => rw [encodeSlots, inductionHypothesis, List.map_cons]

/-- The fields of a validator that are not its options. -/
def ownFields : ValidatorSpec → List (Text × Value)
  | .simple _ kind => kind.encode
  | .sequence _ item delimiter joiner appender =>
    encodeKind "sequence" :: (encodeItem item ++ encodeDelimiters delimiter joiner ++
      encodeOptional "appender" .string appender)
  | .indent _ item delimiter joiner appender =>
    encodeKind "indent" :: (encodeItem item ++ encodeDelimiters delimiter joiner ++
      encodeOptional "appender" .string appender)
  | .complex _ slots delimiter joiner =>
    encodeKind "complex" :: ("slots", .list (encodeSlots slots)) ::
      encodeDelimiters delimiter joiner

/-- The fields of a validator, those of its kind before its options. -/
def fields (spec : ValidatorSpec) : List (Text × Value) := ownFields spec ++ spec.options.encode

theorem encode_eq_record (spec : ValidatorSpec) : encode spec = .record (fields spec) := by
  cases spec with
  | simple => rfl
  | sequence | indent | complex =>
      simp only [encode, fields, ownFields, options, List.cons_append, List.append_assoc]

end ValidatorSpec

open ValidatorSpec

/-! ## Names of fields -/

/-- The names of the fields that tell kinds apart and describe them. -/
def kindFields : List Text :=
  ["type", "item", "slots", "pattern", "values", "return_defined", "local_only", "allow_local",
   "allow_anchor", "allow_sign", "garbage_trimming", "remove_spaces", "table", "delimiter",
   "joiner", "appender"]

def optionFields : List Text :=
  ["required", "default", "invalid", "strip", "allow_empty", "case_sensitive"]

theorem OptionsSpec.keys_encode (options : OptionsSpec) :
    (keys options.encode).Sublist optionFields := by
  simp only [OptionsSpec.encode, keys_append]
  exact (((((keys_encodeFlag _ _).append (keys_encodeOptional _ _ _)).append
    (keys_encodeFlag _ _)).append (keys_encodeOptional _ _ _)).append
    (keys_encodeOptional _ _ _)).append (keys_encodeFlag _ _)

theorem NumberSpec.keys_encode (settings : NumberSpec) :
    (keys settings.encode).Sublist ["allow_sign", "garbage_trimming", "remove_spaces"] := by
  rw [NumberSpec.encode, keys_append, keys_append]
  exact ((keys_encodeOptional _ _ _).append (keys_encodeOptional _ _ _)).append
    (keys_encodeOptional _ _ _)

theorem SimpleSpec.keys_encode (kind : SimpleSpec) : (keys kind.encode).Sublist kindFields := by
  cases kind with
  | text | content | char | color | list | url | style =>
      refine List.isSublist_iff_sublist.mp ?_
      rfl
  | number settings | length settings | size settings =>
      exact (settings.keys_encode.cons_cons _).trans (by decide)
  | regexp pattern trimGarbage removeBlanks =>
      rw [SimpleSpec.encode, keys_append, keys_append]
      exact (((List.Sublist.refl _).append (keys_encodeOptional _ _ _)).append
        (keys_encodeOptional _ _ _)).trans (List.isSublist_iff_sublist.mp rfl)
  | listOrSize values allowSign trimGarbage =>
      rw [SimpleSpec.encode, keys_append, keys_append]
      exact (((List.Sublist.refl _).append (keys_encodeOptional _ _ _)).append
        (keys_encodeOptional _ _ _)).trans (List.isSublist_iff_sublist.mp rfl)

namespace ValidatorSpec

theorem keys_delimiters (delimiter joiner : Option Text) :
    (keys (encodeDelimiters delimiter joiner)).Sublist ["delimiter", "joiner"] := by
  rw [encodeDelimiters, keys_append]
  exact (keys_encodeOptional _ _ _).append (keys_encodeOptional _ _ _)

theorem keys_parts (item : Option ValidatorSpec) (delimiter joiner appender : Option Text) :
    (keys (encodeItem item ++ encodeDelimiters delimiter joiner ++
      encodeOptional "appender" .string appender)).Sublist
        ["item", "delimiter", "joiner", "appender"] := by
  rw [keys_append, keys_append, encodeItem_eq_encodeOptional]
  exact ((keys_encodeOptional _ _ _).append (keys_delimiters delimiter joiner)).append
    (keys_encodeOptional _ _ _)

theorem keys_ownFields (spec : ValidatorSpec) : (keys (ownFields spec)).Sublist kindFields := by
  cases spec with
  | simple options kind => exact kind.keys_encode
  | sequence options item delimiter joiner appender
  | indent options item delimiter joiner appender =>
      exact ((keys_parts item delimiter joiner appender).cons_cons _).trans (by decide)
  | complex options slots delimiter joiner =>
      exact (((keys_delimiters delimiter joiner).cons_cons _).cons_cons _).trans
        (List.isSublist_iff_sublist.mp rfl)

theorem nodup_fieldNames : (kindFields ++ optionFields).Nodup := by
  decide

/-- No name of a field comes twice. -/
theorem nodup_keys (spec : ValidatorSpec) : (keys (fields spec)).Nodup := by
  rw [fields, keys_append]
  exact nodup_fieldNames.sublist ((keys_ownFields spec).append spec.options.keys_encode)

theorem get?_kindField (spec : ValidatorSpec) {name : Text} (isKind : name ∈ kindFields) :
    get? name (fields spec) = get? name (ownFields spec) := by
  have elsewhere : get? name spec.options.encode = none := by
    rw [get?_eq_none_iff]
    intro member
    exact List.disjoint_of_nodup_append nodup_fieldNames isKind
      (spec.options.keys_encode.subset member)
  rw [fields, get?_append, elsewhere, Option.or_none]

theorem get?_optionField (spec : ValidatorSpec) {name : Text} (isOption : name ∈ optionFields) :
    get? name (fields spec) = get? name spec.options.encode := by
  have elsewhere : get? name (ownFields spec) = none := by
    rw [get?_eq_none_iff]
    intro member
    exact List.disjoint_of_nodup_append nodup_fieldNames ((keys_ownFields spec).subset member)
      isOption
  rw [fields, get?_append, elsewhere, Option.none_or]

/-! ## Reading fields -/

/-- What the value of a field may be taken for. -/
def reading (value : Value) : Reading := ⟨value, decode? value, decodeSlots? value⟩

theorem readings_eq_mapValues (fields : List (Text × Value)) :
    readings fields = mapValues reading fields := by
  induction fields with
  | nil => rfl
  | cons field fields inductionHypothesis =>
      obtain ⟨name, value⟩ := field
      rw [readings, inductionHypothesis]
      rfl

theorem get?_readings (name : Text) (fields : List (Text × Value)) :
    get? name (readings fields) = (get? name fields).map reading := by
  rw [readings_eq_mapValues, get?_mapValues]

theorem keys_readings (fields : List (Text × Value)) : keys (readings fields) = keys fields := by
  rw [readings_eq_mapValues, keys_mapValues]

theorem readOptional_encode (read : Value → Option ValidatorSpec) (spec : ValidatorSpec) :
    Value.readOptional read (encode spec) = (read (encode spec)).map some := by
  cases spec <;> rfl

theorem decodeAll?_encodeSlots {slots : List ValidatorSpec}
    (parts : ∀ slot ∈ slots, decode? (encode slot) = some slot) :
    decodeAll? (encodeSlots slots) = some slots := by
  induction slots with
  | nil => rfl
  | cons slot slots inductionHypothesis =>
      obtain ⟨first, others⟩ := List.forall_mem_cons.mp parts
      rw [encodeSlots, decodeAll?, first, inductionHypothesis others]

end ValidatorSpec

/-- The name that a kind is written with. -/
def SimpleSpec.typeName : SimpleSpec → Text
  | .text => "text"
  | .content => "content"
  | .char => "char"
  | .color => "color"
  | .list .. => "list"
  | .url .. => "url"
  | .number _ => "number"
  | .length _ => "length"
  | .size _ => "size"
  | .regexp .. => "regexp"
  | .listOrSize .. => "list_or_size"
  | .style _ => "style"

theorem SimpleSpec.typeName_mem (kind : SimpleSpec) : kind.typeName ∈ kindNames := by
  cases kind <;> exact List.contains_iff_mem.mp rfl

/-- No kind without parts has the name of one with parts. -/
theorem SimpleSpec.typeName_simple (kind : SimpleSpec) :
    kind.typeName ≠ "sequence" ∧ kind.typeName ≠ "indent" ∧ kind.typeName ≠ "complex" := by
  cases kind <;> exact of_decide_eq_true rfl

section Fields

variable {fields : List (Text × Value)} (distinct : (keys fields).Nodup) {name : Text}
include distinct

theorem fieldOr_readings {α : Type} (name : Text) (usual : α) (read : Reading → Option α) :
    fieldOr name usual read (readings fields) =
      (get? name fields).elim (some usual) fun value => read (reading value) := by
  rw [← keys_readings] at distinct
  rw [fieldOr_eq_elim distinct, get?_readings, Option.elim_map]
  rfl

theorem fieldOr_flag {on : Bool}
    (found : get? name fields = if on then some (.bool true) else none) :
    fieldOr name false Reading.bool (readings fields) = some on := by
  rw [fieldOr_readings distinct, found]
  cases on <;> rfl

theorem fieldOr_setting {setting : Option Bool} (found : get? name fields = setting.map .bool) :
    fieldOr name none Reading.optionalBool (readings fields) = some setting := by
  rw [fieldOr_readings distinct, found]
  cases setting <;> rfl

theorem fieldOr_text {setting : Option Text} (found : get? name fields = setting.map .string) :
    fieldOr name none Reading.optionalText (readings fields) = some setting := by
  rw [fieldOr_readings distinct, found]
  cases setting <;> rfl

/-- Options are read from any fields that agree with theirs on their names. -/
theorem OptionsSpec.ofFields?_readings (options : OptionsSpec)
    (found : ∀ name ∈ optionFields, get? name fields = get? name options.encode) :
    OptionsSpec.ofFields? (readings fields) = some options := by
  simp only [optionFields, List.forall_mem_cons, OptionsSpec.encode, get?_append, get?_encodeFlag,
    get?_encodeOptional, String.toList_inj, String.reduceEq, ↓reduceIte, Option.or_none,
    Option.none_or] at found
  obtain ⟨required, default, invalid, strip, allowEmpty, caseSensitive, -⟩ := found
  rw [OptionsSpec.ofFields?, fieldOr_flag distinct required, fieldOr_text distinct default,
    fieldOr_flag distinct invalid, fieldOr_setting distinct strip,
    fieldOr_setting distinct allowEmpty, fieldOr_flag distinct caseSensitive]
  rfl

theorem requiredField_readings {α : Type} (name : Text) (read : Reading → Option α) :
    requiredField name read (readings fields) =
      (get? name fields).bind fun value => read (reading value) := by
  rw [← keys_readings] at distinct
  rw [requiredField_eq_bind distinct, get?_readings, Option.bind_map]
  rfl

theorem fieldOr_bool {on : Bool} (usual : Bool) (found : get? name fields = some (.bool on)) :
    fieldOr name usual Reading.bool (readings fields) = some on := by
  rw [fieldOr_readings distinct, found]
  rfl

theorem requiredField_text {text : Text} (found : get? name fields = some (.string text)) :
    requiredField name Reading.text (readings fields) = some text := by
  rw [requiredField_readings distinct, found]
  rfl

theorem requiredField_texts {texts : List Text}
    (found : get? name fields = some (encodeTexts texts)) :
    requiredField name Reading.texts (readings fields) = some texts := by
  rw [requiredField_readings distinct, found]
  exact readTexts_encoded texts

theorem NumberSpec.ofFields?_readings (settings : NumberSpec) {typeName : Text}
    (found : ∀ name ∈ kindFields,
      get? name fields = get? name (encodeKind typeName :: settings.encode)) :
    NumberSpec.ofFields? (readings fields) = some settings := by
  have allowSign := found "allow_sign" (by decide)
  have trimGarbage := found "garbage_trimming" (by decide)
  have removeBlanks := found "remove_spaces" (by decide)
  simp only [NumberSpec.encode, encodeKind, get?, get?_append, get?_encodeOptional,
    String.toList_inj, String.reduceEq, ↓reduceIte, Option.or_none, Option.none_or]
    at allowSign trimGarbage removeBlanks
  rw [NumberSpec.ofFields?, fieldOr_setting distinct allowSign,
    fieldOr_setting distinct trimGarbage, fieldOr_setting distinct removeBlanks]
  rfl

/-- A kind is read from any fields that agree with its own on the names of kinds. -/
theorem SimpleSpec.ofFields?_readings (kind : SimpleSpec)
    (found : ∀ name ∈ kindFields, get? name fields = get? name kind.encode) :
    SimpleSpec.ofFields? kind.typeName (readings fields) = some kind := by
  -- Names are compared as literals only: `show` puts each of them in place before the chain of
  -- cases is opened, and a case that is refused is dropped before its branch is looked at.
  cases kind with
  | text | content | char | color => rfl
  | list values returnDefined =>
      have valuesRead := requiredField_texts distinct (found "values" (by decide))
      have definedRead := fieldOr_bool distinct true (found "return_defined" (by decide))
      show SimpleSpec.ofFields? "list" (readings fields) = _
      simp only [SimpleSpec.ofFields?, String.toList_inj, String.reduceEq, ↓reduceIte, valuesRead,
        definedRead]
      rfl
  | url localOnly allowLocal allowAnchor =>
      have onlyRead := fieldOr_bool distinct false (found "local_only" (by decide))
      have localRead := fieldOr_bool distinct true (found "allow_local" (by decide))
      have anchorRead := fieldOr_bool distinct false (found "allow_anchor" (by decide))
      show SimpleSpec.ofFields? "url" (readings fields) = _
      simp only [SimpleSpec.ofFields?, String.toList_inj, String.reduceEq, ↓reduceIte, onlyRead,
        localRead, anchorRead]
      rfl
  | number settings =>
      have settingsRead := NumberSpec.ofFields?_readings distinct settings found
      exact congrArg (Option.map SimpleSpec.number) settingsRead
  | length settings =>
      have settingsRead := NumberSpec.ofFields?_readings distinct settings found
      exact congrArg (Option.map SimpleSpec.length) settingsRead
  | size settings =>
      have settingsRead := NumberSpec.ofFields?_readings distinct settings found
      exact congrArg (Option.map SimpleSpec.size) settingsRead
  | regexp pattern trimGarbage removeBlanks =>
      have patternRead := requiredField_text distinct (found "pattern" (by decide))
      have trimField := found "garbage_trimming" (by decide)
      have removeField := found "remove_spaces" (by decide)
      simp only [SimpleSpec.encode, encodeKind, List.cons_append, List.nil_append, get?,
        get?_append, get?_encodeOptional, String.toList_inj, String.reduceEq, ↓reduceIte,
        Option.or_none, Option.none_or] at trimField removeField
      show SimpleSpec.ofFields? "regexp" (readings fields) = _
      simp only [SimpleSpec.ofFields?, String.toList_inj, String.reduceEq, ↓reduceIte, patternRead,
        fieldOr_setting distinct trimField, fieldOr_setting distinct removeField]
      rfl
  | listOrSize values allowSign trimGarbage =>
      have valuesRead := requiredField_texts distinct (found "values" (by decide))
      have signField := found "allow_sign" (by decide)
      have trimField := found "garbage_trimming" (by decide)
      simp only [SimpleSpec.encode, encodeKind, List.cons_append, List.nil_append, get?,
        get?_append, get?_encodeOptional, String.toList_inj, String.reduceEq, ↓reduceIte,
        Option.or_none, Option.none_or] at signField trimField
      show SimpleSpec.ofFields? "list_or_size" (readings fields) = _
      simp only [SimpleSpec.ofFields?, String.toList_inj, String.reduceEq, ↓reduceIte, valuesRead,
        fieldOr_setting distinct signField, fieldOr_setting distinct trimField]
      rfl
  | style table =>
      have tableRead := requiredField_text distinct (found "table" (by decide))
      exact congrArg (Option.map SimpleSpec.style) tableRead

theorem fieldOr_item {item : Option ValidatorSpec} (found : get? name fields = item.map encode)
    (parts : ∀ part ∈ item, decode? (encode part) = some part) :
    fieldOr name none Reading.optionalValidator (readings fields) = some item := by
  rw [fieldOr_readings distinct, found]
  cases item with
  | none => rfl
  | some part =>
      show Value.readOptional (fun _ => decode? (encode part)) (encode part) = _
      rw [readOptional_encode, parts part rfl]
      rfl

theorem requiredField_slots {slots : List ValidatorSpec}
    (found : get? name fields = some (.list (encodeSlots slots)))
    (parts : ∀ slot ∈ slots, decode? (encode slot) = some slot) :
    requiredField name Reading.validators (readings fields) = some slots := by
  rw [requiredField_readings distinct, found]
  exact decodeAll?_encodeSlots parts

theorem requiredField_kind {typeName : Text} (known : typeName ∈ kindNames)
    (found : get? name fields = some (.string typeName)) :
    requiredField name Reading.kindName (readings fields) = some typeName := by
  rw [requiredField_readings distinct, found]
  exact if_pos (List.contains_iff_mem.mpr known)

end Fields

/-! ## Validators -/

namespace ValidatorSpec

theorem decode?_encode_eq (spec : ValidatorSpec) :
    decode? (encode spec) = ofFields? (readings (fields spec)) := by
  rw [encode_eq_record, decode?]

theorem options_read (spec : ValidatorSpec) :
    OptionsSpec.ofFields? (readings (fields spec)) = some spec.options :=
  OptionsSpec.ofFields?_readings (nodup_keys spec) spec.options fun _ => get?_optionField spec

theorem type_read (spec : ValidatorSpec) (typeName : Text) (known : typeName ∈ kindNames)
    (own : get? "type" (ownFields spec) = some (.string typeName)) :
    requiredField "type" Reading.kindName (readings (fields spec)) = some typeName := by
  have found : get? "type" (fields spec) = some (.string typeName) := by
    rw [get?_kindField spec (by decide), own]
  exact requiredField_kind (nodup_keys spec) known found

/-- What sequences and indents have in common is read from their fields. -/
theorem parts_read {fields : List (Text × Value)} (distinct : (keys fields).Nodup)
    {typeName : Text} {item : Option ValidatorSpec} {delimiter joiner appender : Option Text}
    (found : ∀ name ∈ kindFields, get? name fields = get? name (encodeKind typeName ::
      (encodeItem item ++ encodeDelimiters delimiter joiner ++
        encodeOptional "appender" .string appender)))
    (parts : ∀ part ∈ item, decode? (encode part) = some part) :
    fieldOr "item" none Reading.optionalValidator (readings fields) = some item ∧
      fieldOr "delimiter" none Reading.optionalText (readings fields) = some delimiter ∧
      fieldOr "joiner" none Reading.optionalText (readings fields) = some joiner ∧
      fieldOr "appender" none Reading.optionalText (readings fields) = some appender := by
  have itemField := found "item" (by decide)
  have delimiterField := found "delimiter" (by decide)
  have joinerField := found "joiner" (by decide)
  have appenderField := found "appender" (by decide)
  simp only [encodeKind, encodeItem_eq_encodeOptional, encodeDelimiters, get?, get?_append,
    get?_encodeOptional, String.toList_inj, String.reduceEq, ↓reduceIte, Option.or_none,
    Option.none_or] at itemField delimiterField joinerField appenderField
  exact ⟨fieldOr_item distinct itemField parts, fieldOr_text distinct delimiterField,
    fieldOr_text distinct joinerField, fieldOr_text distinct appenderField⟩

/-- A validator is read back from its data. -/
theorem decode?_encode (spec : ValidatorSpec) : decode? (encode spec) = some spec := by
  induction spec using spec_induction with
  | simple options kind =>
      have kindRead := SimpleSpec.ofFields?_readings (nodup_keys (.simple options kind)) kind
        fun _ => get?_kindField (.simple options kind)
      obtain ⟨noSequence, noIndent, noComplex⟩ := kind.typeName_simple
      have typeRead := type_read (.simple options kind) kind.typeName kind.typeName_mem
        (by cases kind <;> rfl)
      rw [decode?_encode_eq, ofFields?, options_read, typeRead]
      simp only [Option.bind_eq_bind, Option.bind_some, noSequence, noIndent, noComplex, or_self,
        ↓reduceIte, kindRead]
      rfl
  | sequence options item delimiter joiner appender parts =>
      obtain ⟨itemRead, delimiterRead, joinerRead, appenderRead⟩ :=
        parts_read (nodup_keys (.sequence options item delimiter joiner appender))
          (fun _ => get?_kindField (.sequence options item delimiter joiner appender)) parts
      have typeRead := type_read (.sequence options item delimiter joiner appender) "sequence"
        (by decide) rfl
      rw [decode?_encode_eq, ofFields?, options_read, typeRead]
      simp only [Option.bind_eq_bind, Option.bind_some, true_or, ↓reduceIte, itemRead,
        delimiterRead, joinerRead, appenderRead]
      rfl
  | indent options item delimiter joiner appender parts =>
      obtain ⟨itemRead, delimiterRead, joinerRead, appenderRead⟩ :=
        parts_read (nodup_keys (.indent options item delimiter joiner appender))
          (fun _ => get?_kindField (.indent options item delimiter joiner appender)) parts
      have typeRead := type_read (.indent options item delimiter joiner appender) "indent"
        (by decide) rfl
      rw [decode?_encode_eq, ofFields?, options_read, typeRead]
      simp only [Option.bind_eq_bind, Option.bind_some, or_true, ↓reduceIte, itemRead,
        delimiterRead, joinerRead, appenderRead]
      rfl
  | complex options slots delimiter joiner parts =>
      have distinct := nodup_keys (.complex options slots delimiter joiner)
      have found (name : Text) := @get?_kindField (.complex options slots delimiter joiner) name
      have slotsRead := requiredField_slots distinct (found "slots" (by decide)) parts
      have delimiterField := found "delimiter" (by decide)
      have joinerField := found "joiner" (by decide)
      simp only [ownFields, encodeKind, encodeDelimiters, get?, get?_append, get?_encodeOptional,
        String.toList_inj, String.reduceEq, ↓reduceIte, Option.or_none, Option.none_or]
        at delimiterField joinerField
      have typeRead := type_read (.complex options slots delimiter joiner) "complex" (by decide) rfl
      rw [decode?_encode_eq, ofFields?, options_read, typeRead]
      simp only [Option.bind_eq_bind, Option.bind_some, String.toList_inj, String.reduceEq, or_self,
        ↓reduceIte, slotsRead, fieldOr_text distinct delimiterField,
        fieldOr_text distinct joinerField]
      rfl

end ValidatorSpec

/-! ## Numbers -/

theorem OptionsSpec.numberless_encode (options : OptionsSpec) :
    NumberlessFields options.encode :=
  (((((numberless_encodeFlag _ _).append (numberless_encodeOptional _ .string _)).append
    (numberless_encodeFlag _ _)).append (numberless_encodeOptional _ .bool _)).append
    (numberless_encodeOptional _ .bool _)).append (numberless_encodeFlag _ _)

theorem NumberSpec.numberless_encode (settings : NumberSpec) : NumberlessFields settings.encode :=
  ((numberless_encodeOptional _ .bool _).append (numberless_encodeOptional _ .bool _)).append
    (numberless_encodeOptional _ .bool _)

theorem SimpleSpec.numberless_encode (kind : SimpleSpec) : NumberlessFields kind.encode := by
  cases kind with
  | text | content | char | color => exact .cons (.string _) .nil
  | list values returnDefined =>
      exact .cons (.string _) (.cons (numberless_texts values) (.cons (.bool _) .nil))
  | url localOnly allowLocal allowAnchor =>
      exact .cons (.string _) (.cons (.bool _) (.cons (.bool _) (.cons (.bool _) .nil)))
  | number settings | length settings | size settings =>
      exact .cons (.string _) settings.numberless_encode
  | regexp pattern trimGarbage removeBlanks =>
      have own : NumberlessFields [encodeKind "regexp", ("pattern", .string pattern)] :=
        .cons (.string _) (.cons (.string _) .nil)
      exact (own.append (numberless_encodeOptional _ .bool _)).append
        (numberless_encodeOptional _ .bool _)
  | listOrSize values allowSign trimGarbage =>
      have own : NumberlessFields [encodeKind "list_or_size", ("values", encodeTexts values)] :=
        .cons (.string _) (.cons (numberless_texts values) .nil)
      exact (own.append (numberless_encodeOptional _ .bool _)).append
        (numberless_encodeOptional _ .bool _)
  | style table => exact .cons (.string _) (.cons (.string _) .nil)

namespace ValidatorSpec

theorem numberless_delimiters (delimiter joiner : Option Text) :
    NumberlessFields (encodeDelimiters delimiter joiner) :=
  (numberless_encodeOptional _ .string _).append (numberless_encodeOptional _ .string _)

theorem numberless_parts {item : Option ValidatorSpec}
    (parts : ∀ part ∈ item, (encode part).Numberless) (delimiter joiner appender : Option Text) :
    NumberlessFields (encodeItem item ++ encodeDelimiters delimiter joiner ++
      encodeOptional "appender" .string appender) := by
  have itemPart : NumberlessFields (encodeItem item) := by
    cases item with
    | none => exact .nil
    | some part => exact .cons (parts part rfl) .nil
  exact (itemPart.append (numberless_delimiters delimiter joiner)).append
    (numberless_encodeOptional _ .string _)

theorem numberless_slots {slots : List ValidatorSpec}
    (parts : ∀ slot ∈ slots, (encode slot).Numberless) :
    (Value.list (encodeSlots slots)).Numberless := by
  rw [encodeSlots_eq_map]
  exact numberless_list parts

theorem numberless_encode (spec : ValidatorSpec) : (encode spec).Numberless := by
  induction spec using spec_induction with
  | simple options kind => exact .record (kind.numberless_encode.append options.numberless_encode)
  | sequence options item delimiter joiner appender parts
  | indent options item delimiter joiner appender parts =>
      rw [encode_eq_record]
      have own := numberless_parts parts delimiter joiner appender
      exact NumberlessFields.record
        (NumberlessFields.append (.cons (.string _) own) options.numberless_encode)
  | complex options slots delimiter joiner parts =>
      rw [encode_eq_record]
      have own : NumberlessFields (ownFields (.complex options slots delimiter joiner)) :=
        .cons (.string _)
          (.cons (numberless_slots parts) (numberless_delimiters delimiter joiner))
      exact NumberlessFields.record (own.append options.numberless_encode)

end ValidatorSpec
end SafeMarkup
