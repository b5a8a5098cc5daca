import SafeMarkup.Markup.Node
import SafeMarkup.Rule.Check

/-!
Contract: tags checked against chains of rule sets.

A rule set names the attributes a tag may have, with a check for each. The rule sets of a chain are
tried in order; the first whose checks all pass decides which attributes are kept. A required value
that is missing moves on to the next rule set, an invalid one refuses the tag at once.

Only the last rule set of a chain is tried loudly: earlier ones are expected to fail now and then.

Names may share the checks of a canonical name. Canonical names keep the order of their declaration,
so that a name listed under two of them stands for the first.
-/

namespace SafeMarkup

/-- Canonical names with the names that stand for them. -/
structure Equivalents where
  entries : Dictionary (List Text)
deriving DecidableEq, Repr

namespace Equivalents

def empty : Equivalents := ⟨[]⟩

/-- The names that stand for a canonical name. -/
def aliasesOf (equivalents : Equivalents) (canonical : Text) : List Text :=
  (Dictionary.get? canonical equivalents.entries).getD []

/-- Adds names to those that stand for a canonical name. -/
def insert (canonical : Text) (aliases : List Text) (equivalents : Equivalents) : Equivalents :=
  ⟨Dictionary.insert canonical (equivalents.aliasesOf canonical ++ aliases) equivalents.entries⟩

/-- The canonical name that a name stands for. -/
def canonical? (equivalents : Equivalents) (name : Text) : Option Text :=
  (equivalents.entries.find? fun (_, aliases) => aliases.contains name).map Prod.fst

def isEmpty (equivalents : Equivalents) : Bool := equivalents.entries.isEmpty

/-- The equivalents declared by a list, in its order. -/
def ofList (entries : List (Text × List Text)) : Equivalents :=
  entries.foldl (fun equivalents (canonical, aliases) => equivalents.insert canonical aliases) empty

end Equivalents

/-- Attribute names with their checks. The order decides where values that are not in the tag go. -/
abbrev RuleSet := List (Text × Check)

/-- What became of a tag. -/
inductive Verdict where
  /-- A rule set applied and the tag keeps what it accepted. -/
  | accepted
  /-- No rule set applied. -/
  | exhausted
  /-- A value was invalid. -/
  | invalid
deriving DecidableEq, Repr

/-- What came of trying one rule set. -/
inductive Attempt where
  | accepted (values : Dictionary Text)
  | fallback
  | invalid
deriving DecidableEq, Repr

namespace RuleSet

/-- Each name of a rule set followed by the names that stand for it, all with its check. -/
def expand (equivalents : Equivalents) (ruleSet : RuleSet) : RuleSet :=
  ruleSet.flatMap fun (canonical, check) =>
    (canonical :: equivalents.aliasesOf canonical).map fun name => (name, check)

/-- Tries checks in order, collecting what they accept. -/
def attemptFrom (tag : Tag) (environment : Environment) (quiet : Bool) :
    RuleSet → Dictionary Text → Reported Attempt
  | [], accepted => pure (.accepted accepted)
  | (name, check) :: rest, accepted => do
    match ← check ⟨tag.name, name, quiet, environment⟩ (tag.get? name) with
    | .ok value => attemptFrom tag environment quiet rest (Dictionary.insert name value accepted)
    | .error .absentOptional => attemptFrom tag environment quiet rest accepted
    | .error .defaultApplied => attemptFrom tag environment quiet rest accepted
    | .error .missingRequired => pure .fallback
    | .error .sequenceInconsistent => pure .fallback
    | .error .invalid => pure .invalid

/-- Tries a rule set on a tag. -/
def attempt (equivalents : Equivalents) (tag : Tag) (environment : Environment) (quiet : Bool)
    (ruleSet : RuleSet) : Reported Attempt :=
  attemptFrom tag environment quiet (expand equivalents ruleSet) []

end RuleSet

/-- Accepted values in the order of the tag's attributes, then those the tag did not have. -/
def ordered : (attributes : List (Text × Text)) → (accepted : Dictionary Text) → Dictionary Text
  | [], accepted => accepted
  | (key, _) :: rest, accepted =>
    match Dictionary.get? key accepted with
    | some value => (key, value) :: ordered rest (Dictionary.erase key accepted)
    | none => ordered rest accepted

/-- Rule sets to try in order. -/
abbrev Chain := List RuleSet

namespace Chain

/-- Tries the rule sets of a chain that are left. -/
def checkFrom (equivalents : Equivalents) (quiet : Bool) (environment : Environment) (tag : Tag) :
    Chain → Reported (Verdict × Tag)
  | [] => pure (.exhausted, tag)
  | ruleSet :: rest => do
    let quietly := quiet || !rest.isEmpty
    match ← RuleSet.attempt equivalents tag environment quietly ruleSet with
    | .accepted values =>
      pure (.accepted, { tag with attributes := ordered tag.attributes values })
    | .fallback =>
      Reported.noteIf (environment.verbose && !quietly)
        (.trace ("<" ++ tag.name ++ "> matched no rule set"))
      checkFrom equivalents quiet environment tag rest
    | .invalid => pure (.invalid, tag)

/-- Checks a tag against a chain. The empty chain accepts every tag without its attributes. -/
def check (equivalents : Equivalents) (quiet : Bool) (environment : Environment) (chain : Chain)
    (tag : Tag) : Reported (Verdict × Tag) :=
  if chain.isEmpty then pure (.accepted, { tag with attributes := [] })
  else checkFrom equivalents quiet environment tag chain

end Chain
end SafeMarkup
