import SafeMarkup.Policy.Encode

/-!
Contract: written policies read from structured data.

Fields that are not known are ignored, fields that are known may come once. Structures other than
validators may also be written as lists of their fields.
-/

namespace SafeMarkup

/-! ## Scalars and collections -/

namespace Value

def readOptional {α : Type} (read : Value → Option α) : Value → Option (Option α)
  | .null => some none
  | value => (read value).map some

def readList {α : Type} (read : Value → Option α) : Value → Option (List α)
  | .list items => items.mapM read
  | _ => none

def readFields : Value → Option (List (Text × Value))
  | .record fields => some fields
  | _ => none

def readDictionary {α : Type} (read : Value → Option α) (value : Value) :
    Option (Dictionary α) := do
  let fields ← value.readFields
  let entries ← fields.mapM fun (key, value) => (read value).map fun value => (key, value)
  return Dictionary.ofList entries

/-- The entries of a structure, which may be a list of its first fields. -/
def readStructure (names : List Text) : Value → Option (List (Text × Value))
  | .list items => if items.length ≤ names.length then some (names.zip items) else none
  | value => value.readFields

end Value

/-- The value of a field that may come once; `some none` if it is not there. -/
def singleField {α : Type} (name : Text) (fields : List (Text × α)) : Option (Option α) :=
  match fields.filter fun (key, _) => key = name with
  | [] => some none
  | [(_, value)] => some (some value)
  | _ => none

/-- A field that has to be there. -/
def requiredField {α β : Type} (name : Text) (read : α → Option β) (fields : List (Text × α)) :
    Option β :=
  match singleField name fields with
  | some (some value) => read value
  | _ => none

def fieldOr {α β : Type} (name : Text) (usual : β) (read : α → Option β)
    (fields : List (Text × α)) : Option β :=
  match singleField name fields with
  | some (some value) => read value
  | some none => some usual
  | none => none

/-! ## Validators -/

/-- What the value of a field may be taken for. -/
structure Reading where
  value : Value
  validator : Option ValidatorSpec
  validators : Option (List ValidatorSpec)

namespace Reading

def bool (reading : Reading) : Option Bool := reading.value.asBool?

def optionalBool (reading : Reading) : Option (Option Bool) :=
  reading.value.readOptional Value.asBool?

def text (reading : Reading) : Option Text := reading.value.asString?

def optionalText (reading : Reading) : Option (Option Text) :=
  reading.value.readOptional Value.asString?

def texts (reading : Reading) : Option (List Text) := reading.value.asStrings?

def optionalValidator (reading : Reading) : Option (Option ValidatorSpec) :=
  reading.value.readOptional fun _ => reading.validator

/-- The name of a kind, or its number. -/
def kindName (reading : Reading) : Option Text :=
  match reading.value with
  | .string name => if kindNames.contains name then some name else none
  | .number literal => (Text.toNat? literal).bind fun index => kindNames[index]?
  | _ => none

end Reading

def NumberSpec.ofFields? (fields : List (Text × Reading)) : Option NumberSpec := do
  let allowSign ← fieldOr "allow_sign" none Reading.optionalBool fields
  let trimGarbage ← fieldOr "garbage_trimming" none Reading.optionalBool fields
  let removeBlanks ← fieldOr "remove_spaces" none Reading.optionalBool fields
  return ⟨allowSign, trimGarbage, removeBlanks⟩

def SimpleSpec.ofFields? (kind : Text) (fields : List (Text × Reading)) : Option SimpleSpec :=
  if kind = "text" then some .text
  else if kind = "content" then some .content
  else if kind = "char" then some .char
  else if kind = "color" then some .color
  else if kind = "list" then do
    let values ← requiredField "values" Reading.texts fields
    let returnDefined ← fieldOr "return_defined" true Reading.bool fields
    return .list values returnDefined
  else if kind = "url" then do
    let localOnly ← fieldOr "local_only" false Reading.bool fields
    let allowLocal ← fieldOr "allow_local" true Reading.bool fields
    let allowAnchor ← fieldOr "allow_anchor" false Reading.bool fields
    return .url localOnly allowLocal allowAnchor
  else if kind = "number" then (NumberSpec.ofFields? fields).map .number
  else if kind = "length" then (NumberSpec.ofFields? fields).map .length
  else if kind = "size" then (NumberSpec.ofFields? fields).map .size
  else if kind = "regexp" then do
    let pattern ← requiredField "pattern" Reading.text fields
    let trimGarbage ← fieldOr "garbage_trimming" none Reading.optionalBool fields
    let removeBlanks ← fieldOr "remove_spaces" none Reading.optionalBool fields
    return .regexp pattern trimGarbage removeBlanks
  else if kind = "list_or_size" then do
    let values ← requiredField "values" Reading.texts fields
    let allowSign ← fieldOr "allow_sign" none Reading.optionalBool fields
    let trimGarbage ← fieldOr "garbage_trimming" none Reading.optionalBool fields
    return .listOrSize values allowSign trimGarbage
  else if kind = "style" then (requiredField "table" Reading.text fields).map .style
  else none

def OptionsSpec.ofFields? (fields : List (Text × Reading)) : Option OptionsSpec := do
  let required ← fieldOr "required" false Reading.bool fields
  let default ← fieldOr "default" none Reading.optionalText fields
  let invalid ← fieldOr "invalid" false Reading.bool fields
  let strip ← fieldOr "strip" none Reading.optionalBool fields
  let allowEmpty ← fieldOr "allow_empty" none Reading.optionalBool fields
  let caseSensitive ← fieldOr "case_sensitive" false Reading.bool fields
  return ⟨required, default, invalid, strip, allowEmpty, caseSensitive⟩

namespace ValidatorSpec

/-- A validator by what its fields may be taken for. -/
def ofFields? (fields : List (Text × Reading)) : Option ValidatorSpec := do
  let options ← OptionsSpec.ofFields? fields
  let kind ← requiredField "type" Reading.kindName fields
  if kind = "sequence" ∨ kind = "indent" then
    let item ← fieldOr "item" none Reading.optionalValidator fields
    let delimiter ← fieldOr "delimiter" none Reading.optionalText fields
    let joiner ← fieldOr "joiner" none Reading.optionalText fields
    let appender ← fieldOr "appender" none Reading.optionalText fields
    return if kind = "sequence" then .sequence options item delimiter joiner appender
      else .indent options item delimiter joiner appender
  else if kind = "complex" then
    let slots ← requiredField "slots" Reading.validators fields
    let delimiter ← fieldOr "delimiter" none Reading.optionalText fields
    let joiner ← fieldOr "joiner" none Reading.optionalText fields
    return .complex options slots delimiter joiner
  else
    let kind ← SimpleSpec.ofFields? kind fields
    return .simple options kind

mutual
def decode? : Value → Option ValidatorSpec
  | .record fields => ofFields? (readings fields)
  | _ => none
termination_by structural value => value

/-- What the fields of a validator may be taken for. -/
def readings : List (Text × Value) → List (Text × Reading)
  | [] => []
  | (name, value) :: fields =>
    (name, ⟨value, decode? value, decodeSlots? value⟩) :: readings fields
termination_by structural fields => fields

def decodeSlots? : Value → Option (List ValidatorSpec)
  | .list items => decodeAll? items
  | _ => none
termination_by structural value => value

def decodeAll? : List Value → Option (List ValidatorSpec)
  | [] => some []
  | item :: items =>
    match decode? item, decodeAll? items with
    | some slot, some slots => some (slot :: slots)
    | _, _ => none
termination_by structural items => items
end

end ValidatorSpec

/-! ## Policies -/

def decodeRuleSet? : Value → Option RuleSetSpec :=
  Value.readDictionary ValidatorSpec.decode?

def decodeChain? : Value → Option ChainSpec := Value.readList decodeRuleSet?

/-- Names with lists of names from data. -/
def decodeAliases? : Value → Option (Dictionary (List Text)) :=
  Value.readDictionary (Value.readList Value.asString?)

def Rewrite.decode? (value : Value) : Option Rewrite := do
  let fields ← value.readStructure ["when", "rename", "add"]
  let conditions ← fieldOr "when" [] (Value.readDictionary Value.asString?) fields
  let rename ← requiredField "rename" Value.asString? fields
  let add ← fieldOr "add" [] (Value.readDictionary Value.asString?) fields
  return ⟨conditions, rename, add⟩

def StyleTableSpec.decode? (value : Value) : Option StyleTableSpec := do
  let fields ← value.readStructure ["aliases", "properties"]
  let aliases ← fieldOr "aliases" [] decodeAliases? fields
  let properties ← fieldOr "properties" [] (Value.readDictionary decodeChain?) fields
  return ⟨aliases, properties⟩

def decodeStyleTables? : Value → Option (Dictionary StyleTableSpec) :=
  Value.readDictionary StyleTableSpec.decode?

/-- The domain of a site from data. -/
def decodeSite? (value : Value) : Option (Option Text) := do
  let fields ← value.readStructure ["domain"]
  fieldOr "domain" none (Value.readOptional Value.asString?) fields

def policyFields : List Text :=
  ["site", "verbose", "block_elements", "default_block", "void_elements", "keep_empty",
   "keep_nbsp", "element_aliases", "attribute_aliases", "rewrites", "style_tables", "elements"]

def PolicySpec.decode? (value : Value) : Option PolicySpec := do
  let fields ← value.readStructure policyFields
  let optionalTexts := Value.readOptional (Value.readList Value.asString?)
  let siteDomain ← fieldOr "site" none decodeSite? fields
  let verbose ← fieldOr "verbose" none (Value.readOptional Value.asBool?) fields
  let blockElements ← fieldOr "block_elements" none optionalTexts fields
  let defaultBlock ← fieldOr "default_block" none (Value.readOptional Value.asString?) fields
  let voidElements ← fieldOr "void_elements" none optionalTexts fields
  let keepEmpty ← fieldOr "keep_empty" none optionalTexts fields
  let keepNbsp ← fieldOr "keep_nbsp" none optionalTexts fields
  let elementAliases ← fieldOr "element_aliases" [] decodeAliases? fields
  let attributeAliases ← fieldOr "attribute_aliases" [] decodeAliases? fields
  let rewrites ← fieldOr "rewrites" []
    (Value.readDictionary (Value.readList Rewrite.decode?)) fields
  let styleTables ← fieldOr "style_tables" [] decodeStyleTables? fields
  let elements ← fieldOr "elements" [] (Value.readDictionary decodeChain?) fields
  return { siteDomain, verbose, blockElements, defaultBlock, voidElements, keepEmpty, keepNbsp,
           elementAliases, attributeAliases, rewrites, styleTables, elements }

end SafeMarkup
