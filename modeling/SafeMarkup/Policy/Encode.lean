import SafeMarkup.Policy.Spec
import SafeMarkup.Value.Json

/-!
Contract: written policies as structured data.

What is not written in a policy is left out, so that policies which are written differently have
different data.
-/

namespace SafeMarkup

def encodeTexts (texts : List Text) : Value := .list (texts.map .string)

/-- The field of a setting, if it is written. -/
def encodeOptional {α : Type} (name : Text) (encode : α → Value) :
    Option α → List (Text × Value)
  | none => []
  | some value => [(name, encode value)]

/-- The field of a setting that is written only where it is on. -/
def encodeFlag (name : Text) (on : Bool) : List (Text × Value) :=
  if on then [(name, .bool true)] else []

/-- The names of all kinds, in the order of their numbers. -/
def kindNames : List Text :=
  ["text", "content", "char", "list", "url", "number", "length", "size", "regexp", "color",
   "list_or_size", "sequence", "indent", "complex", "style"]

def encodeKind (name : Text) : Text × Value := ("type", .string name)

def NumberSpec.encode (settings : NumberSpec) : List (Text × Value) :=
  encodeOptional "allow_sign" .bool settings.allowSign ++
    encodeOptional "garbage_trimming" .bool settings.trimGarbage ++
    encodeOptional "remove_spaces" .bool settings.removeBlanks

/-- The fields of a kind without parts. -/
def SimpleSpec.encode : SimpleSpec → List (Text × Value)
  | .text => [encodeKind "text"]
  | .content => [encodeKind "content"]
  | .char => [encodeKind "char"]
  | .color => [encodeKind "color"]
  | .list values returnDefined =>
    [encodeKind "list", ("values", encodeTexts values), ("return_defined", .bool returnDefined)]
  | .url localOnly allowLocal allowAnchor =>
    [encodeKind "url", ("local_only", .bool localOnly), ("allow_local", .bool allowLocal),
      ("allow_anchor", .bool allowAnchor)]
  | .number settings => encodeKind "number" :: settings.encode
  | .length settings => encodeKind "length" :: settings.encode
  | .size settings => encodeKind "size" :: settings.encode
  | .regexp pattern trimGarbage removeBlanks =>
    [encodeKind "regexp", ("pattern", .string pattern)] ++
      encodeOptional "garbage_trimming" .bool trimGarbage ++
      encodeOptional "remove_spaces" .bool removeBlanks
  | .listOrSize values allowSign trimGarbage =>
    [encodeKind "list_or_size", ("values", encodeTexts values)] ++
      encodeOptional "allow_sign" .bool allowSign ++
      encodeOptional "garbage_trimming" .bool trimGarbage
  | .style table => [encodeKind "style", ("table", .string table)]

def OptionsSpec.encode (options : OptionsSpec) : List (Text × Value) :=
  encodeFlag "required" options.required ++
    encodeOptional "default" .string options.default ++
    encodeFlag "invalid" options.invalid ++
    encodeOptional "strip" .bool options.strip ++
    encodeOptional "allow_empty" .bool options.allowEmpty ++
    encodeFlag "case_sensitive" options.caseSensitive

/-- The fields of the texts between parts. -/
def encodeDelimiters (delimiter joiner : Option Text) : List (Text × Value) :=
  encodeOptional "delimiter" .string delimiter ++ encodeOptional "joiner" .string joiner

namespace ValidatorSpec

mutual
/-- A validator as data: its kind, then its options. -/
def encode : ValidatorSpec → Value
  | .simple options kind => .record (kind.encode ++ options.encode)
  | .sequence options item delimiter joiner appender =>
    .record (encodeKind "sequence" :: (encodeItem item ++ encodeDelimiters delimiter joiner ++
      encodeOptional "appender" .string appender ++ options.encode))
  | .indent options item delimiter joiner appender =>
    .record (encodeKind "indent" :: (encodeItem item ++ encodeDelimiters delimiter joiner ++
      encodeOptional "appender" .string appender ++ options.encode))
  | .complex options slots delimiter joiner =>
    .record (encodeKind "complex" :: ("slots", .list (encodeSlots slots)) ::
      (encodeDelimiters delimiter joiner ++ options.encode))
termination_by structural spec => spec

/-- The field of an item, if it is written. -/
def encodeItem : Option ValidatorSpec → List (Text × Value)
  | none => []
  | some item => [("item", encode item)]
termination_by structural item => item

def encodeSlots : List ValidatorSpec → List Value
  | [] => []
  | slot :: slots => encode slot :: encodeSlots slots
termination_by structural slots => slots
end

end ValidatorSpec

def encodeChain (chain : ChainSpec) : Value :=
  .list (chain.map fun ruleSet => .record (Dictionary.mapValues ValidatorSpec.encode ruleSet))

/-- Names with lists of names as data. -/
def encodeAliases (aliases : Dictionary (List Text)) : Value :=
  .record (Dictionary.mapValues encodeTexts aliases)

def encodePairs (pairs : Dictionary Text) : Value := .record (Dictionary.mapValues .string pairs)

def Rewrite.encode (rewrite : Rewrite) : Value :=
  .record [("when", encodePairs rewrite.conditions), ("rename", .string rewrite.rename),
    ("add", encodePairs rewrite.add)]

def StyleTableSpec.encode (table : StyleTableSpec) : Value :=
  .record [("aliases", encodeAliases table.aliases),
    ("properties", .record (Dictionary.mapValues encodeChain table.properties))]

/-- The fields of a policy that are left out where they are not written. -/
def encodeSettings (policy : PolicySpec) : List (Text × Value) :=
  encodeOptional "verbose" .bool policy.verbose ++
    encodeOptional "block_elements" encodeTexts policy.blockElements ++
    encodeOptional "default_block" .string policy.defaultBlock ++
    encodeOptional "void_elements" encodeTexts policy.voidElements ++
    encodeOptional "keep_empty" encodeTexts policy.keepEmpty ++
    encodeOptional "keep_nbsp" encodeTexts policy.keepNbsp

/-- The fields of a policy that are always written. -/
def encodeTables (policy : PolicySpec) : List (Text × Value) :=
  [("element_aliases", encodeAliases policy.elementAliases),
    ("attribute_aliases", encodeAliases policy.attributeAliases),
    ("rewrites",
      .record (Dictionary.mapValues (fun rules => .list (rules.map Rewrite.encode))
        policy.rewrites)),
    ("style_tables", .record (Dictionary.mapValues StyleTableSpec.encode policy.styleTables)),
    ("elements", .record (Dictionary.mapValues encodeChain policy.elements))]

def PolicySpec.encode (policy : PolicySpec) : Value :=
  .record (("site", .record (encodeOptional "domain" .string policy.siteDomain)) ::
    (encodeSettings policy ++ encodeTables policy))

def PolicySpec.toJson (policy : PolicySpec) : Text := Value.Json.write policy.encode

end SafeMarkup
