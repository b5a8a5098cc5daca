import SafeMarkup.Html.Rules.Foreign

/-!
Contract: markup as the fragment it stands for.

Tokens are read one after the other, each in the way that the elements open by then ask for.
-/

namespace SafeMarkup.Html

namespace Rules

open Build

/-- Looks at a token until a rule is done with it. Each round but the last closes an element or
leaves a mode for a more general one. -/
def process : (fuel : Nat) → Token → Build Unit
  | 0, _ => pure ()
  | fuel + 1, token => do
    let foreign ← ask fun builder => isForeign builder token
    match ← if foreign then inForeign token else inCurrentMode token with
    | .done => pure ()
    | .again token => process fuel token

/-- Takes in a token. A line feed directly behind some start tags is dropped. -/
def feed (token : Token) : Build Unit := do
  let dropped := (← get).dropLineFeed
  modify fun builder => { builder with dropLineFeed := false }
  let token : Token := match token with
    | .characters ('\n' :: rest) => if dropped then .characters rest else token
    | _ => token
  let fuel := 4 * (← get).stack.length + 16
  match token with
  | .malformed => pure ()
  | .characters [] => pure ()
  | _ => process fuel token

/-- Places what is left at the end of the markup. -/
def finish : Build Unit := do
  if (← get).mode == .tableText then placePending

/-- Reads markup to its end. Two reads take at least one character. -/
def readAll : (fuel : Nat) → Text → Build Unit
  | 0, _ => finish
  | _, [] => finish
  | fuel + 1, text => do
    let builder ← get
    let foreign := builder.adjustedName.vocabulary != .html
    let (tokens, rest) := read builder.reading foreign text
    modify fun builder => { builder with reading := .markup }
    for token in tokens do
      feed token
    readAll fuel rest

end Rules

/-- The fragment that markup stands for inside the body of a document. -/
def parseFragment (markup : Text) : Fragment :=
  let text := source markup
  let builder := (Rules.readAll (2 * text.length + 2) text Builder.initial).2
  { builder.tree.childrenFragment Builder.root with fostered := builder.fostered }

end SafeMarkup.Html
