import SafeMarkup.Policy.Decode
import SafeMarkup.Policy.Defect
import SafeMarkup.Value.Yaml.Schema

/-!
Contract: policies from the text of a file.

A text is a policy if it is well formed, if its parts are what a policy wants, and if no fault shows
in it. Depth is limited, so that a small text cannot stand for something endlessly nested. What
stands under unknown names of a policy is left out unread; what belongs to the kind of a validator
may be anything that spells a value.
-/

namespace SafeMarkup

/-- Why the text of a file is no policy. -/
inductive PolicyTextFault where
  /-- It is not well formed, or not what a policy wants. -/
  | malformed
  /-- Faults show in it. -/
  | defective (defects : List Defect)
deriving DecidableEq, Repr

/-! ## What stands where -/

open Value.Yaml (Schema)

def textsSchema : Schema := .list .text

def aliasesSchema : Schema := .dictionary textsSchema

/-- A validator: its options, and what belongs to its kind. -/
def ValidatorSpec.schema : Schema :=
  .fields [("required", .flag), ("default", .optional .text), ("invalid", .flag),
    ("strip", .optional .flag), ("allow_empty", .optional .flag), ("case_sensitive", .flag)]
    (some .anything)

def chainSchema : Schema := .list (.dictionary ValidatorSpec.schema)

def Rewrite.schema : Schema :=
  .fields [("when", .dictionary .text), ("rename", .text), ("add", .dictionary .text)] none

def StyleTableSpec.schema : Schema :=
  .fields [("aliases", aliasesSchema), ("properties", .dictionary chainSchema)] none

namespace PolicySpec

def schema : Schema :=
  .fields [("site", .fields [("domain", .optional .text)] none), ("verbose", .optional .flag),
    ("block_elements", .optional textsSchema), ("default_block", .optional .text),
    ("void_elements", .optional textsSchema), ("keep_empty", .optional textsSchema),
    ("keep_nbsp", .optional textsSchema), ("element_aliases", aliasesSchema),
    ("attribute_aliases", aliasesSchema), ("rewrites", .dictionary (.list Rewrite.schema)),
    ("style_tables", .dictionary StyleTableSpec.schema), ("elements", .dictionary chainSchema)]
    none

/-! ## Reading -/

def maxDepth : Nat := 128

/-- The policy of a text, faults included. -/
def readText? (text : Text) : Option PolicySpec := do
  let document ← Value.Yaml.Document.ofText? text
  PolicySpec.decode? (← document.value? maxDepth schema)

def ofText (text : Text) : Except PolicyTextFault PolicySpec :=
  match readText? text with
  | none => .error .malformed
  | some policy => if policy.isSound then .ok policy else .error (.defective policy.defects)

end PolicySpec
end SafeMarkup
