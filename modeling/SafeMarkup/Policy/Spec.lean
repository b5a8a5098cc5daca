import SafeMarkup.Markup.Node

/-!
Contract: policies as they are written down, before anything is looked up or compiled.

A setting that is not written is kept apart from one that is written with its usual value: merging
takes what was written, and two policies that are written differently are different.

Owns: the written form of a policy, its merging over another, and taking elements off it.
-/

namespace SafeMarkup

/-- Settings of a number, as far as they are written. -/
structure NumberSpec where
  allowSign : Option Bool
  trimGarbage : Option Bool
  removeBlanks : Option Bool
deriving DecidableEq, Repr

/-- The kind of a validator without parts. -/
inductive SimpleSpec where
  | text
  | content
  | char
  | color
  | list (values : List Text) (returnDefined : Bool)
  | url (localOnly allowLocal allowAnchor : Bool)
  | number (settings : NumberSpec)
  | length (settings : NumberSpec)
  | size (settings : NumberSpec)
  | regexp (pattern : Text) (trimGarbage removeBlanks : Option Bool)
  | listOrSize (values : List Text) (allowSign trimGarbage : Option Bool)
  /-- Style declarations by the table of a name. -/
  | style (table : Text)
deriving DecidableEq, Repr

/-- Settings that every validator can have. -/
structure OptionsSpec where
  required : Bool
  default : Option Text
  invalid : Bool
  strip : Option Bool
  allowEmpty : Option Bool
  caseSensitive : Bool
deriving DecidableEq, Repr

/-- Options of which nothing is written. -/
def OptionsSpec.unwritten : OptionsSpec := ⟨false, none, false, none, none, false⟩

/-- A validator as it is written. -/
inductive ValidatorSpec where
  | simple (options : OptionsSpec) (kind : SimpleSpec)
  | sequence (options : OptionsSpec) (item : Option ValidatorSpec)
      (delimiter joiner appender : Option Text)
  | indent (options : OptionsSpec) (item : Option ValidatorSpec)
      (delimiter joiner appender : Option Text)
  | complex (options : OptionsSpec) (slots : List ValidatorSpec) (delimiter joiner : Option Text)

def ValidatorSpec.options : ValidatorSpec → OptionsSpec
  | .simple options _ => options
  | .sequence options .. => options
  | .indent options .. => options
  | .complex options .. => options

/-- Attribute names with their validators. -/
abbrev RuleSetSpec := Dictionary ValidatorSpec

/-- Rule sets to try in order. -/
abbrev ChainSpec := List RuleSetSpec

/-- A new name for an element that has all pairs of `conditions`. Those pairs are dropped and the
pairs of `add` appended. -/
structure Rewrite where
  conditions : Dictionary Text
  rename : Text
  add : Dictionary Text
deriving DecidableEq, Repr

/-- A table of style properties as it is written. -/
structure StyleTableSpec where
  aliases : Dictionary (List Text)
  properties : Dictionary ChainSpec

/-- A whole policy as it is written. -/
structure PolicySpec where
  siteDomain : Option Text
  verbose : Option Bool
  blockElements : Option (List Text)
  defaultBlock : Option Text
  voidElements : Option (List Text)
  keepEmpty : Option (List Text)
  keepNbsp : Option (List Text)
  /-- Elements with the elements that share their chains. -/
  elementAliases : Dictionary (List Text)
  /-- Attributes with the attributes that share their validators. -/
  attributeAliases : Dictionary (List Text)
  rewrites : Dictionary (List Rewrite)
  styleTables : Dictionary StyleTableSpec
  elements : Dictionary ChainSpec

namespace PolicySpec

def empty : PolicySpec := ⟨none, none, none, none, none, none, none, [], [], [], [], []⟩

/-! ## Settings with their usual values -/

/-- Elements that stray content is not wrapped around. -/
def usualBlockElements : List Text :=
  ["p", "h1", "h2", "h3", "h4", "h5", "h6", "div", "address", "fieldset", "ins", "del", "ul", "ol",
   "blockquote", "table", "pre"]

def effectiveDomain (policy : PolicySpec) : Text := policy.siteDomain.getD "localhost"

def effectiveVerbose (policy : PolicySpec) : Bool := policy.verbose.getD false

/-- Elements that may stand at the top. -/
def effectiveBlockElements (policy : PolicySpec) : List Text :=
  policy.blockElements.getD usualBlockElements

/-- The element that stray content is wrapped into. -/
def effectiveDefaultBlock (policy : PolicySpec) : Text := policy.defaultBlock.getD "p"

/-- Elements that are kept without content because they never have any. -/
def effectiveVoidElements (policy : PolicySpec) : List Text :=
  policy.voidElements.getD SafeMarkup.voidElements

/-- Elements that are kept when they are empty. -/
def effectiveKeepEmpty (policy : PolicySpec) : List Text :=
  policy.keepEmpty.getD ["td", "th", "caption", "a"]

/-- Elements in which a lone no-break space is content. -/
def effectiveKeepNbsp (policy : PolicySpec) : List Text := policy.keepNbsp.getD ["td", "th"]

/-! ## Merging -/

/-- A policy over another: entries replace those of the same name, new entries follow, and settings
that are not written stay as they were. -/
def merge (base user : PolicySpec) : PolicySpec where
  siteDomain := user.siteDomain.or base.siteDomain
  verbose := user.verbose.or base.verbose
  blockElements := user.blockElements.or base.blockElements
  defaultBlock := user.defaultBlock.or base.defaultBlock
  voidElements := user.voidElements.or base.voidElements
  keepEmpty := user.keepEmpty.or base.keepEmpty
  keepNbsp := user.keepNbsp.or base.keepNbsp
  elementAliases := Dictionary.insertAll user.elementAliases base.elementAliases
  attributeAliases := Dictionary.insertAll user.attributeAliases base.attributeAliases
  rewrites := Dictionary.insertAll user.rewrites base.rewrites
  styleTables := Dictionary.insertAll user.styleTables base.styleTables
  elements := Dictionary.insertAll user.elements base.elements

/-- A policy over another one, if there is one. -/
def mergeOptional (base : PolicySpec) : Option PolicySpec → PolicySpec
  | none => base
  | some user => base.merge user

/-! ## Taking elements off -/

/-- The names of a deny list: without blanks around them, and each once. -/
def deniedNames (names : List Text) : List Text :=
  ((names.map Text.trim).filter fun name => !name.isEmpty).eraseDups

/-- The elements a policy knows, by themselves or as aliases. -/
def knownElements (policy : PolicySpec) : List Text :=
  Dictionary.keys policy.elements ++ policy.elementAliases.flatMap Prod.snd

/-- The policy without some elements and without their aliases. -/
def without (denied : List Text) (policy : PolicySpec) : PolicySpec :=
  { policy with
    elements := policy.elements.filter fun (name, _) => !denied.contains name
    elementAliases :=
      (policy.elementAliases.filter fun (canonical, _) => !denied.contains canonical).map
        fun (canonical, aliases) => (canonical, aliases.filter fun name => !denied.contains name) }

/-- Takes elements off a policy, with a warning for each that was not on it. -/
def deny (policy : PolicySpec) (names : List Text) : Reported PolicySpec :=
  let denied := deniedNames names
  let unknown := denied.filter fun name => !policy.knownElements.contains name
  ⟨policy.without denied, unknown.map fun name =>
    .warning .policy ("Element '" ++ name ++ "' in the deny list is not whitelisted.")⟩

end PolicySpec
end SafeMarkup
