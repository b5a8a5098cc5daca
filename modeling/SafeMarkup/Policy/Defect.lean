import SafeMarkup.Pattern.Reader
import SafeMarkup.Policy.Spec

/-!
Contract: faults of a written policy that show without compiling it.
-/

namespace SafeMarkup

/-- Something wrong with a written policy. -/
inductive Defect where
  | emptyName (kind : Text)
  | blankInName (kind name : Text)
  | requiredWithDefault (location : Text)
  | badPattern (location : Text) (fault : Pattern.Fault)
  | emptyVocabulary (location : Text)
  | emptyDelimiter (location : Text)
  | noSlots (location : Text)
  | ambiguousAlias (scope name first second : Text)
  | unconditionalRewrite (element : Text)
deriving DecidableEq, Repr

namespace Defect

def message : Defect → Text
  | emptyName kind => "A " ++ kind ++ " has an empty name."
  | blankInName kind name => kind ++ " name '" ++ name ++ "' contains whitespace."
  | requiredWithDefault location =>
    "Validator '" ++ location ++ "' is both required and has a default."
  | badPattern location fault =>
    "Validator '" ++ location ++ "' has an invalid pattern: " ++ fault.message
  | emptyVocabulary location => "Validator '" ++ location ++ "' has an empty value list."
  | emptyDelimiter location => "Validator '" ++ location ++ "' has an empty delimiter."
  | noSlots location => "Validator '" ++ location ++ "' has no slots."
  | ambiguousAlias scope name first second =>
    "Alias '" ++ name ++ "' is listed under " ++ scope ++ " '" ++ first ++ "' and '" ++ second ++
      "'."
  | unconditionalRewrite element =>
    "Rewrite rule for '" ++ element ++ "' has no \x60when\x60 pairs."

end Defect

/-- The faults of a name: it has to be there and may not hold blanks. -/
def nameDefects (kind name : Text) : List Defect :=
  if name.isEmpty then [.emptyName kind]
  else if name.any Text.isBlank then [.blankInName kind name]
  else []

/-- The place of a slot in a validator. -/
def slotLocation (location : Text) (index : Nat) : Text :=
  location ++ "[" ++ Text.ofNat index ++ "]"

/-- The place of the item in a validator. -/
def itemLocation (location : Text) : Text := location ++ "[item]"

namespace ValidatorSpec

/-- A validator that is both required and has a default. -/
def optionDefects (location : Text) (options : OptionsSpec) : List Defect :=
  if options.required && options.default.isSome then [.requiredWithDefault location] else []

/-- The faults of a kind without parts. -/
def simpleDefects (location : Text) : SimpleSpec → List Defect
  | .regexp pattern _ _ =>
    match Pattern.read false pattern with
    | .ok _ => []
    | .error fault => [.badPattern location fault]
  | .list values _ => if values.isEmpty then [.emptyVocabulary location] else []
  | _ => []

/-- A delimiter that is written but empty. -/
def delimiterDefects (location : Text) (delimiter : Option Text) : List Defect :=
  if delimiter = some [] then [.emptyDelimiter location] else []

mutual
/-- The faults of a validator and its parts. -/
def defects (location : Text) : ValidatorSpec → List Defect
  | .simple options kind => optionDefects location options ++ simpleDefects location kind
  | .sequence options item delimiter _ _ =>
    optionDefects location options ++ delimiterDefects location delimiter ++
      itemDefects location item
  | .indent options item delimiter _ _ =>
    optionDefects location options ++ delimiterDefects location delimiter ++
      itemDefects location item
  | .complex options slots _ _ =>
    optionDefects location options ++ (if slots.isEmpty then [.noSlots location] else []) ++
      slotDefects location 0 slots
termination_by structural spec => spec

/-- The faults of an item, if there is one. -/
def itemDefects (location : Text) : Option ValidatorSpec → List Defect
  | none => []
  | some item => defects (itemLocation location) item
termination_by structural item => item

/-- The faults of slots, counted from `index`. -/
def slotDefects (location : Text) (index : Nat) : List ValidatorSpec → List Defect
  | [] => []
  | slot :: slots =>
    defects (slotLocation location index) slot ++ slotDefects location (index + 1) slots
termination_by structural slots => slots
end

end ValidatorSpec

def chainDefects (owner : Text) (chain : ChainSpec) : List Defect :=
  chain.flatMap fun ruleSet => ruleSet.flatMap fun (name, spec) =>
    nameDefects "attribute" name ++ spec.defects (owner ++ "." ++ name)

/-- Aliases that are listed under a second canonical name, with what was `seen` before. -/
def aliasDefectsFrom (scope : Text) : (seen : Dictionary Text) → List (Text × Text) → List Defect
  | _, [] => []
  | seen, (name, canonical) :: rest =>
    (match Dictionary.get? name seen with
      | some first =>
        if first = canonical then [] else [.ambiguousAlias scope name first canonical]
      | none => []) ++ aliasDefectsFrom scope (Dictionary.insert name canonical seen) rest

/-- Aliases that stand for two canonical names. -/
def aliasDefects (scope : Text) (aliases : Dictionary (List Text)) : List Defect :=
  aliasDefectsFrom scope [] <|
    aliases.flatMap fun (canonical, names) => names.map fun name => (name, canonical)

namespace PolicySpec

/-- All faults of a policy, in the order they are told. -/
def defects (policy : PolicySpec) : List Defect :=
  (policy.elements.flatMap fun (element, chain) =>
    nameDefects "element" element ++ chainDefects element chain) ++
  (policy.styleTables.flatMap fun (table, spec) =>
    spec.properties.flatMap fun (property, chain) =>
      nameDefects "property" property ++ chainDefects (table ++ ":" ++ property) chain) ++
  aliasDefects "element" policy.elementAliases ++
  aliasDefects "attribute" policy.attributeAliases ++
  (policy.styleTables.flatMap fun (table, spec) =>
    aliasDefects ("style table '" ++ table ++ "' property") spec.aliases) ++
  (policy.rewrites.flatMap fun (element, rules) => rules.flatMap fun rule =>
    (if rule.conditions.isEmpty then [.unconditionalRewrite element] else []) ++
      nameDefects "element" rule.rename) ++
  (policy.defaultBlock.map (nameDefects "element")).getD []

def isSound (policy : PolicySpec) : Bool := policy.defects.isEmpty

/-- The text that tells the faults of a policy. -/
def defectMessage (defects : List Defect) : Text :=
  "Policy validation failed:\n" ++ Text.join ['\n'] (defects.map Defect.message)

end PolicySpec
end SafeMarkup
