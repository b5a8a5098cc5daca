import SafeMarkup.Text.Lowercase
import SafeMarkup.Validator.Grammar
import SafeMarkup.Validator.Style
import SafeMarkup.Validator.Url

/-!
Contract: validators as data, the checks they stand for, and how they are built.

Owns: fixed vocabularies, the kinds of values, and the check of each kind in terms of the modules of
this folder.
-/

namespace SafeMarkup

/-- A list of words. -/
structure Vocabulary where
  words : List Text
  caseSensitive : Bool
  /-- A match is given out as the vocabulary spells it, not as it was written. -/
  returnDefined : Bool
deriving DecidableEq, Repr

namespace Vocabulary

/-- The accepted spelling of a value, if it is one of the words. -/
def lookup? (vocabulary : Vocabulary) (value : Text) : Option Text :=
  if vocabulary.caseSensitive then vocabulary.words.find? (· = value)
  else
    (vocabulary.words.find? fun word => Text.toLower word = Text.toLower value).map fun word =>
      if vocabulary.returnDefined then word else value

end Vocabulary

/-- A kind of value without parts. -/
inductive Simple where
  | text
  /-- Exactly one character. -/
  | char
  | list (vocabulary : Vocabulary)
  | url (rule : UrlRule)
  | number (grammar : Grammar)
  /-- A word of a vocabulary or else a number. -/
  | listOrNumber (vocabulary : Vocabulary) (grammar : Grammar)

namespace Simple

/-- The name of a kind in reports. -/
def name : Simple → Text
  | .text => "text"
  | .char => "char"
  | .list _ => "list"
  | .url _ => "url"
  | .number _ => "number"
  | .listOrNumber .. => "list_or_number"

/-- The value to give out; failing that, the value that was refused. -/
def accept (site : Site) (value : Text) : Simple → Except Text Text
  | .text => .ok value
  | .char => if value.length = 1 then .ok value else .error value
  | .list vocabulary => ((vocabulary.lookup? value).map .ok).getD (.error value)
  | .url rule => rule.resolve site value
  | .number grammar => ((grammar.matched? value).map .ok).getD (.error value)
  | .listOrNumber vocabulary grammar =>
    (((vocabulary.lookup? value).or (grammar.matched? value)).map .ok).getD (.error value)

def core (options : Options) (kind : Simple) : Core := fun context raw value =>
  match kind.accept context.environment.site value with
  | .ok value => pure (.ok value)
  | .error refused => options.refuse kind.name context (some raw) refused

/-- Whether an empty value of a kind counts as present unless said otherwise. -/
def allowsEmpty : Simple → Bool
  | .text | .char | .list _ => true
  | _ => false

end Simple

/-- A validator of attribute values or of style properties. -/
inductive Validator where
  | simple (options : Options) (kind : Simple)
  /-- Parts that each pass one validator; those it drops are left out. -/
  | sequence (options : Options) (delimiters : Delimiters) (item : Validator)
  /-- One, two or four parts that all pass one validator. -/
  | indent (options : Options) (delimiters : Delimiters) (item : Validator)
  /-- Parts that pass validators in order, some of which may be left out. -/
  | complex (options : Options) (delimiters : Delimiters) (slots : List Validator)
  /-- Style declarations by the chains of their properties. -/
  | style (options : Options) (name : Text)
      (properties : List (Text × List (List (Text × Validator)))) (equivalents : Equivalents)

namespace Validator

def options : Validator → Options
  | .simple options _ => options
  | .sequence options .. => options
  | .indent options .. => options
  | .complex options .. => options
  | .style options .. => options

def withOptions (options : Options) : Validator → Validator
  | .simple _ kind => .simple options kind
  | .sequence _ delimiters item => .sequence options delimiters item
  | .indent _ delimiters item => .indent options delimiters item
  | .complex _ delimiters slots => .complex options delimiters slots
  | .style _ name properties equivalents => .style options name properties equivalents

/-- The name of the kind in reports. -/
def kind : Validator → Text
  | .simple _ kind => kind.name
  | .sequence .. => "sequence"
  | .indent .. => "indent"
  | .complex .. => "complex"
  | .style .. => "style"

/-! ## Checking -/

mutual
def check : Validator → Check
  | .simple options kind => options.check kind.name (kind.core options)
  | .sequence options delimiters item =>
    options.check "sequence"
      (sequenceCore options "sequence" delimiters (Matching.free (check item)))
  | .indent options delimiters item =>
    options.check "indent" (sequenceCore options "indent" delimiters (Matching.indent (check item)))
  | .complex options delimiters slots =>
    options.check "complex" (sequenceCore options "complex" delimiters fun context parts =>
      Matching.slots context (checkSlots slots) parts)
  | .style options name properties equivalents =>
    options.check "style" (StyleRules.core options ⟨name, checkProperties properties, equivalents⟩)
termination_by structural validator => validator

def checkSlots : List Validator → List Check
  | [] => []
  | slot :: slots => check slot :: checkSlots slots
termination_by structural slots => slots

def checkProperties : List (Text × List (List (Text × Validator))) → Dictionary Chain
  | [] => []
  | (property, chain) :: properties => (property, checkChain chain) :: checkProperties properties
termination_by structural properties => properties

def checkChain : List (List (Text × Validator)) → Chain
  | [] => []
  | ruleSet :: chain => checkRuleSet ruleSet :: checkChain chain
termination_by structural chain => chain

def checkRuleSet : List (Text × Validator) → RuleSet
  | [] => []
  | (name, validator) :: ruleSet => (name, check validator) :: checkRuleSet ruleSet
termination_by structural ruleSet => ruleSet
end

theorem checkSlots_eq_map (slots : List Validator) : checkSlots slots = slots.map check := by
  induction slots with
  | nil => rfl
  | cons slot slots inductionHypothesis => simp [checkSlots, inductionHypothesis]

theorem checkRuleSet_eq_map (ruleSet : List (Text × Validator)) :
    checkRuleSet ruleSet = ruleSet.map fun (name, validator) => (name, check validator) := by
  induction ruleSet with
  | nil => rfl
  | cons entry ruleSet inductionHypothesis => simp [checkRuleSet, inductionHypothesis]

theorem checkChain_eq_map (chain : List (List (Text × Validator))) :
    checkChain chain = chain.map checkRuleSet := by
  induction chain with
  | nil => rfl
  | cons ruleSet chain inductionHypothesis => simp [checkChain, inductionHypothesis]

theorem checkProperties_eq_map (properties : List (Text × List (List (Text × Validator)))) :
    checkProperties properties =
      properties.map fun (property, chain) => (property, checkChain chain) := by
  induction properties with
  | nil => rfl
  | cons entry properties inductionHypothesis => simp [checkProperties, inductionHypothesis]

/-- Checks a value outside any document, without reports. -/
def checkValue (validator : Validator) (raw : Text) : Except Rejection Text :=
  (validator.check ⟨"value", "value", true, .detached⟩ (some raw)).value

/-! ## Building -/

def newOptions (allowEmpty : Bool) : Options := ⟨.optional, true, allowEmpty, false⟩

/-- A validator of a kind without parts. -/
def ofSimple (kind : Simple) : Validator := .simple (newOptions kind.allowsEmpty) kind

def text : Validator := ofSimple .text

/-- A value or nothing counts as empty. -/
def allowEmpty (allow : Bool) (validator : Validator) : Validator :=
  validator.withOptions { validator.options with allowEmpty := allow }

def content : Validator := text.allowEmpty false

def char : Validator := ofSimple .char

/-- A word of a list, in any case. -/
def list (words : List Text) : Validator := ofSimple (.list ⟨words, false, true⟩)

/-- A URL with a scheme of the list, or a path. -/
def url : Validator := ofSimple (.url .plain)

def number : Validator := ofSimple (.number (.ofShape .number .plain))

def length : Validator := ofSimple (.number (.ofShape .length .plain))

def size : Validator := ofSimple (.number (.ofShape .size .size))

/-- The part of a value that a pattern matches. -/
def regexp (pattern : Text) : Except Pattern.Fault Validator :=
  (Grammar.ofPattern pattern .plain).map fun grammar => ofSimple (.number grammar)

/-- A color by name or in notation. -/
def color : Validator :=
  ofSimple (.listOrNumber ⟨colorNames, false, true⟩ (.ofShape .color .color))

/-- A word of a list or a size. -/
def listOrSize (words : List Text) : Validator :=
  ofSimple (.listOrNumber ⟨words, false, true⟩ (.ofShape .size .size))

def sequenceOf (item : Validator) : Validator := .sequence (newOptions false) .spaces item

def indentOfSizes : Validator := .indent (newOptions false) .spaces size

def complexOf (slots : List Validator) : Validator := .complex (newOptions false) .spaces slots

/-- A missing or refused value fails the rule set. -/
def required (validator : Validator) : Validator :=
  validator.withOptions { validator.options with requirement := .required }

/-- A missing or refused value is replaced. -/
def withDefault (value : Text) (validator : Validator) : Validator :=
  validator.withOptions { validator.options with requirement := .substitute value }

def alwaysInvalid (validator : Validator) : Validator :=
  validator.withOptions { validator.options with invalid := true }

/-- Whether blanks at both ends are removed. -/
def strip (strip : Bool) (validator : Validator) : Validator :=
  validator.withOptions { validator.options with strip }

end Validator

/-! ## Style tables -/

/-- A named table of style properties. -/
structure StyleTable where
  name : Text
  properties : Dictionary (List (List (Text × Validator)))
  equivalents : Equivalents

namespace StyleTable

def new (name : Text) : StyleTable := ⟨name, [], .empty⟩

/-- Adds a property with a single validator. -/
def withProperty (property : Text) (validator : Validator) (table : StyleTable) : StyleTable :=
  { table with
    properties := Dictionary.insert property [[(property, validator)]] table.properties }

/-- Adds properties that share the chain of another. -/
def withAlias (property : Text) (aliases : List Text) (table : StyleTable) : StyleTable :=
  { table with equivalents := table.equivalents.insert property aliases }

/-- A validator of styles by a table. -/
def validator (table : StyleTable) : Validator :=
  .style (Validator.newOptions false) table.name table.properties table.equivalents

end StyleTable
end SafeMarkup
