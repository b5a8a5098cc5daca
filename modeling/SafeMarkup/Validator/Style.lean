import SafeMarkup.Rule.Chain
import SafeMarkup.Text.Lowercase
import SafeMarkup.Validator.Sequence

/-!
Contract: declarations of a style, each a property and a value.

A declaration is checked like a tag with one attribute. What no rule accepts is dropped; an invalid
value refuses the whole style.
-/

namespace SafeMarkup

/-- The properties a style may have, each with the chain of its values. -/
structure StyleRules where
  name : Text
  properties : Dictionary Chain
  equivalents : Equivalents

namespace StyleRules

/-- The chain of a property, its own or that of the property it stands for. -/
def chainFor? (rules : StyleRules) (property : Text) : Option Chain :=
  (Dictionary.get? property rules.properties).or
    ((rules.equivalents.canonical? property).bind fun canonical =>
      Dictionary.get? canonical rules.properties)

/-- The declarations of a style in order: property in small letters, and value. A part without a
colon is none. -/
def declarations (value : Text) : List (Text × Text) :=
  (Text.splitOn [';'] value).filterMap fun part =>
    (Text.splitOnce ':' part).map fun (name, value) =>
      (Text.toLower (Text.trim name), Text.trim value)

/-- The trace line of a property without a chain. -/
def unknownLine (rules : StyleRules) (context : Context) (property : Text) : Text :=
  "-<" ++ context.element ++ " " ++ rules.name ++ ": unknown property " ++ Text.quoted property ++
    ">"

/-- What is kept of some declarations, or nothing if one of them is invalid. -/
def keepFrom (rules : StyleRules) (context : Context) :
    List (Text × Text) → Reported (Option (List (Text × Text)))
  | [] => pure (some [])
  | (property, value) :: rest =>
    match rules.chainFor? property with
    | none => do
      Reported.noteIf context.traces (.trace (rules.unknownLine context property))
      keepFrom rules context rest
    | some chain => do
      let (verdict, tag) ← chain.check rules.equivalents context.quiet context.environment
        ⟨property, [(property, value)]⟩
      match verdict with
      | .accepted => return (← keepFrom rules context rest).map (tag.attributes ++ ·)
      | .exhausted => keepFrom rules context rest
      | .invalid => pure none

/-- Declarations in the form they are given out. -/
def render (kept : List (Text × Text)) : Text :=
  Text.join "; " (kept.map fun (name, value) => name ++ ": " ++ value) ++ ";"

def core (options : Options) (rules : StyleRules) : Core := fun context raw value => do
  let value := spaced value
  match ← rules.keepFrom context (declarations value) with
  | none => reportRejection "style" context (some raw) value .invalid
  | some [] => options.refuse "style" context (some raw) value
  | some kept => pure (.ok (render kept))

end StyleRules
end SafeMarkup
