import SafeMarkup.Policy.Defect
import SafeMarkup.Validator.Basic

/-!
Contract: policies in the form that is applied to markup.

Compiling a written policy builds every validator and looks up every name. All faults are collected
before it fails, in the order in which they are met.
-/

namespace SafeMarkup

/-- A single reason why a policy cannot be compiled. -/
inductive PolicyFault where
  | pattern (location : Text) (fault : Pattern.Fault)
  | nestedTable (location : Text)
  | unknownTable (location table : Text)
  | danglingAlias (canonical : Text)
  | defaultBlock (name : Text)
deriving DecidableEq, Repr

/-- Why a policy cannot be compiled. -/
inductive PolicyError where
  | one (fault : PolicyFault)
  | several (faults : List PolicyFault)
deriving DecidableEq, Repr

namespace PolicyFault

def message : PolicyFault → Text
  | pattern location fault =>
    "Failed to compile pattern for validator '" ++ location ++ "': " ++ fault.message
  | nestedTable location =>
    "Invalid policy: Validator '" ++ location ++ "' nests a style table inside a style table."
  | unknownTable location table =>
    "Invalid policy: Validator '" ++ location ++ "' references unknown style table '" ++ table ++
      "'."
  | danglingAlias canonical =>
    "Invalid policy: Element aliases point at '" ++ canonical ++ "', which has no rules."
  | defaultBlock name =>
    "Invalid policy: Default block element '" ++ name ++ "' is not whitelisted."

end PolicyFault

namespace PolicyError

def message : PolicyError → Text
  | one fault => fault.message
  | several faults =>
    "A fatal error occurred: Failed to compile policy, " ++ Text.ofNat faults.length ++
      " error(s):\n" ++ Text.join ['\n'] (faults.map PolicyFault.message)

/-- The error of some faults, if there are any. -/
def ofFaults : List PolicyFault → Option PolicyError
  | [] => none
  | [fault] => some (one fault)
  | faults => some (several faults)

end PolicyError

/-- A compiled chain. -/
abbrev CompiledChain := List (List (Text × Validator))

/-! ## Validators -/

/-- Settings of a grammar over its usual ones. -/
def GrammarSettings.adjusted (usual : GrammarSettings)
    (allowSign trimGarbage removeBlanks : Option Bool) (caseSensitive : Bool) : GrammarSettings :=
  ⟨allowSign.getD usual.allowSign, trimGarbage.getD usual.trimGarbage,
    removeBlanks.getD usual.removeBlanks, caseSensitive⟩

/-- A built-in grammar with settings over its usual ones. -/
def NumberSpec.compile (settings : NumberSpec) (shape : Shape) (usual : GrammarSettings)
    (caseSensitive : Bool) : Simple :=
  .number (.ofShape shape
    (usual.adjusted settings.allowSign settings.trimGarbage settings.removeBlanks caseSensitive))

/-- The texts between parts: a space, and the delimiter again for joining, unless written
otherwise. -/
def compileDelimiters (delimiter joiner appender : Option Text) : Delimiters :=
  let delimiter := delimiter.getD " "
  ⟨delimiter, joiner.getD delimiter, appender.getD []⟩

/-- What is written about options over those of a new validator. -/
def OptionsSpec.apply (spec : OptionsSpec) (options : Options) : Options where
  requirement :=
    match spec.default with
    | some value => .substitute value
    | none => if spec.required then .required else options.requirement
  strip := spec.strip.getD options.strip
  allowEmpty := spec.allowEmpty.getD options.allowEmpty
  invalid := spec.invalid || options.invalid

/-- Builds a validator of a kind without parts. -/
def SimpleSpec.compile (tables : Dictionary StyleTable) (inTable : Bool) (location : Text)
    (caseSensitive : Bool) : SimpleSpec → Except PolicyFault Validator
  | .text => .ok .text
  | .content => .ok .content
  | .char => .ok .char
  | .color => .ok .color
  | .list values returnDefined =>
    .ok (.ofSimple (.list ⟨values, caseSensitive, returnDefined⟩))
  | .url localOnly allowLocal allowAnchor =>
    .ok (.ofSimple (.url (.of localOnly allowLocal allowAnchor)))
  | .number settings => .ok (.ofSimple (settings.compile .number .plain caseSensitive))
  | .length settings => .ok (.ofSimple (settings.compile .length .plain caseSensitive))
  | .size settings => .ok (.ofSimple (settings.compile .size .size caseSensitive))
  | .regexp pattern trimGarbage removeBlanks =>
    match Grammar.ofPattern pattern
      (GrammarSettings.plain.adjusted none trimGarbage removeBlanks caseSensitive) with
    | .ok grammar => .ok (.ofSimple (.number grammar))
    | .error fault => .error (.pattern location fault)
  | .listOrSize values allowSign trimGarbage =>
    .ok (.ofSimple (.listOrNumber ⟨values, caseSensitive, true⟩
      (.ofShape .size (GrammarSettings.size.adjusted allowSign trimGarbage none caseSensitive))))
  | .style table =>
    if inTable then .error (.nestedTable location)
    else match Dictionary.get? table tables with
      | some table => .ok table.validator
      | none => .error (.unknownTable location table)

namespace ValidatorSpec

mutual
/-- Builds a validator; `inTable` for the properties of a style table. -/
def compile (tables : Dictionary StyleTable) (inTable : Bool) (location : Text) :
    ValidatorSpec → Except PolicyFault Validator
  | .simple options kind => do
    let validator ← kind.compile tables inTable location options.caseSensitive
    return validator.withOptions (options.apply validator.options)
  | .sequence options item delimiter joiner appender => do
    let item ← compileItem tables inTable location .text item
    return .sequence (options.apply (Validator.newOptions false))
      (compileDelimiters delimiter joiner appender) item
  | .indent options item delimiter joiner appender => do
    let item ← compileItem tables inTable location .size item
    return .indent (options.apply (Validator.newOptions false))
      (compileDelimiters delimiter joiner appender) item
  | .complex options slots delimiter joiner => do
    let slots ← compileSlots tables inTable location 0 slots
    return .complex (options.apply (Validator.newOptions false))
      (compileDelimiters delimiter joiner none) slots
termination_by structural spec => spec

/-- Builds the validator of an item, or takes the usual one. -/
def compileItem (tables : Dictionary StyleTable) (inTable : Bool) (location : Text)
    (usual : Validator) : Option ValidatorSpec → Except PolicyFault Validator
  | none => .ok usual
  | some item => compile tables inTable (itemLocation location) item
termination_by structural item => item

/-- Builds the validators of slots, counted from `index`. -/
def compileSlots (tables : Dictionary StyleTable) (inTable : Bool) (location : Text)
    (index : Nat) : List ValidatorSpec → Except PolicyFault (List Validator)
  | [] => .ok []
  | slot :: slots => do
    let first ← compile tables inTable (slotLocation location index) slot
    let others ← compileSlots tables inTable location (index + 1) slots
    return first :: others
termination_by structural slots => slots
end

end ValidatorSpec

/-! ## Chains -/

/-- The results of building the validators of a chain. -/
abbrev ChainResults := List (List (Text × Except PolicyFault Validator))

def compileChain (tables : Dictionary StyleTable) (inTable : Bool) (owner : Text)
    (chain : ChainSpec) : ChainResults :=
  chain.map fun ruleSet => ruleSet.map fun (name, spec) =>
    (name, spec.compile tables inTable (owner ++ "." ++ name))

namespace ChainResults

/-- The chain of the validators that could be built. -/
def chain (results : ChainResults) : CompiledChain :=
  results.map fun ruleSet => ruleSet.filterMap fun (name, result) =>
    match result with
    | .ok validator => some (name, validator)
    | .error _ => none

/-- The faults of those that could not. -/
def faults (results : ChainResults) : List PolicyFault :=
  results.flatMap fun ruleSet => ruleSet.filterMap fun (_, result) =>
    match result with
    | .ok _ => none
    | .error fault => some fault

end ChainResults

/-! ## Policies -/

/-- A compiled policy. -/
structure Policy where
  elements : Dictionary CompiledChain
  /-- Elements with the element whose chain they share. -/
  elementAliases : Dictionary Text
  /-- Attributes that share the validator of another. -/
  equivalents : Equivalents
  rewrites : Dictionary (List Rewrite)
  styleTables : Dictionary StyleTable
  blockElements : List Text
  defaultBlock : Text
  voidElements : List Text
  keepEmpty : List Text
  keepNbsp : List Text
  siteDomain : Text
  verbose : Bool

namespace PolicySpec

/-- The results of building the validators of all style tables. -/
def styleResults (policy : PolicySpec) : Dictionary (Dictionary ChainResults) :=
  policy.styleTables.map fun (name, table) => (name, table.properties.map fun (property, chain) =>
    (property, compileChain [] true (name ++ ":" ++ property) chain))

def compiledTables (policy : PolicySpec) : Dictionary StyleTable :=
  (policy.styleTables.zip policy.styleResults).map fun ((name, table), (_, results)) =>
    (name, ⟨name, Dictionary.mapValues ChainResults.chain results, .ofList table.aliases⟩)

/-- The results of building the validators of all elements. -/
def elementResults (policy : PolicySpec) : Dictionary ChainResults :=
  policy.elements.map fun (name, chain) =>
    (name, compileChain policy.compiledTables false name chain)

/-- The elements that aliases stand for but that have no rules. -/
def danglingAliases (policy : PolicySpec) : List Text :=
  (Dictionary.keys policy.elementAliases).filter fun canonical =>
    !Dictionary.has canonical policy.elements

/-- Each alias with its element, as far as that has rules. -/
def aliasPairs (policy : PolicySpec) : List (Text × Text) :=
  (policy.elementAliases.filter fun (canonical, _) =>
    Dictionary.has canonical policy.elements).flatMap
      fun (canonical, aliases) => aliases.map fun name => (name, canonical)

/-- The aliases that count: those without rules of their own, of two elements the later one. -/
def compiledAliases (policy : PolicySpec) : Dictionary Text :=
  Dictionary.ofList (policy.aliasPairs.filter fun (name, _) => !Dictionary.has name policy.elements)

/-- Warnings about aliases that have rules of their own. -/
def aliasWarnings (policy : PolicySpec) : List Note :=
  (policy.aliasPairs.filter fun (name, _) => Dictionary.has name policy.elements).map
    fun (name, canonical) => .warning .compilation ("Element '" ++ name ++
      "' has its own rules; ignoring its alias to '" ++ canonical ++ "'.")

/-- Whether an element has rules, its own or shared. -/
def hasRules (policy : PolicySpec) (name : Text) : Bool :=
  Dictionary.has name policy.elements || Dictionary.has name policy.compiledAliases

/-- All reasons why a policy cannot be compiled. -/
def faults (policy : PolicySpec) : List PolicyFault :=
  (policy.styleResults.flatMap fun (_, properties) =>
    properties.flatMap fun (_, results) => results.faults) ++
  (policy.elementResults.flatMap fun (_, results) => results.faults) ++
  policy.danglingAliases.map .danglingAlias ++
  if policy.hasRules policy.effectiveDefaultBlock then []
  else [.defaultBlock policy.effectiveDefaultBlock]

/-- The compiled form of a policy that has no faults. -/
def compiled (policy : PolicySpec) : Policy where
  elements := Dictionary.mapValues ChainResults.chain policy.elementResults
  elementAliases := policy.compiledAliases
  equivalents := .ofList policy.attributeAliases
  rewrites := policy.rewrites
  styleTables := policy.compiledTables
  blockElements := policy.effectiveBlockElements.eraseDups
  defaultBlock := policy.effectiveDefaultBlock
  voidElements := policy.effectiveVoidElements.eraseDups
  keepEmpty := policy.effectiveKeepEmpty.eraseDups
  keepNbsp := policy.effectiveKeepNbsp.eraseDups
  siteDomain := policy.effectiveDomain
  verbose := policy.effectiveVerbose

def compile (policy : PolicySpec) : Reported (Except PolicyError Policy) :=
  ⟨match PolicyError.ofFaults policy.faults with
    | some error => .error error
    | none => .ok policy.compiled, policy.aliasWarnings⟩

end PolicySpec

namespace Policy

/-- The chain of an element, its own or a shared one. -/
def chainFor? (policy : Policy) (name : Text) : Option CompiledChain :=
  (Dictionary.get? name policy.elements).or
    ((Dictionary.get? name policy.elementAliases).bind fun canonical =>
      Dictionary.get? canonical policy.elements)

def isWhitelisted (policy : Policy) (name : Text) : Bool := (policy.chainFor? name).isSome

end Policy
end SafeMarkup
