import SafeMarkup.Policy.Compile

/-!
Contract: elements renamed by the attributes they carry.
-/

namespace SafeMarkup

namespace Rewrite

/-- Whether a tag has all pairs a rewrite asks for. -/
def applies (rewrite : Rewrite) (tag : Tag) : Bool :=
  rewrite.conditions.all fun (key, value) => tag.hasPair key value

/-- The tag with its new name, without the pairs that were asked for, and with those to add. -/
def apply (rewrite : Rewrite) (tag : Tag) : Tag where
  name := rewrite.rename
  attributes := (tag.attributes.filter fun pair => !rewrite.conditions.contains pair) ++ rewrite.add

end Rewrite

def quotedPair (pair : Text × Text) : Text :=
  "(" ++ Text.quoted pair.1 ++ ", " ++ Text.quoted pair.2 ++ ")"

def quotedPairs (pairs : List (Text × Text)) : Text :=
  "[" ++ Text.join ", " (pairs.map quotedPair) ++ "]"

namespace Policy

/-- The first rewrite that applies to a tag. -/
def rewriteFor? (policy : Policy) (tag : Tag) : Option Rewrite :=
  (Dictionary.get? tag.name policy.rewrites).bind fun rules =>
    rules.find? fun rule => rule.applies tag

def rewriteLine (tag : Tag) (rewrite : Rewrite) : Text :=
  "~rewrite <" ++ tag.name ++ " " ++ quotedPairs tag.attributes ++ "> as <" ++ rewrite.rename ++
    ">"

def rewrite (policy : Policy) (tag : Tag) : Reported Tag :=
  match policy.rewriteFor? tag with
  | none => pure tag
  | some rule => do
    Reported.noteIf policy.verbose (.trace (rewriteLine tag rule))
    return rule.apply tag

end Policy
end SafeMarkup
