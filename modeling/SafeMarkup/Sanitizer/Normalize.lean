import SafeMarkup.Markup.Node
import SafeMarkup.Report

/-!
Contract: raw markup brought into a form that another pass leaves alone.

A pass drops null characters, decodes numeric character references, makes one space of each run of
control characters and spaces, and one no-break space of each run of spaces of both kinds. Passes
are repeated a few times; markup that is still changing then is refused.
-/

namespace SafeMarkup

/-! ## Runs of spaces -/

/-- Whether a character is a space or a no-break space. -/
def isSpacing (c : Char) : Bool := c = ' ' || c = Text.nbsp

/-- How many spaces stand directly before a place. -/
inductive Spacing where
  | zero
  /-- One, which is not yet written. -/
  | one (c : Char)
  | several
deriving DecidableEq, Repr

/-- The text from a place with some spaces before it. -/
def collapseSpacesFrom : Spacing → Text → Text
  | .one c, [] => [c]
  | _, [] => []
  | .zero, c :: rest =>
    if isSpacing c then collapseSpacesFrom (.one c) rest else c :: collapseSpacesFrom .zero rest
  | .one first, c :: rest =>
    if isSpacing c then Text.nbsp :: collapseSpacesFrom .several rest
    else first :: c :: collapseSpacesFrom .zero rest
  | .several, c :: rest =>
    if isSpacing c then collapseSpacesFrom .several rest else c :: collapseSpacesFrom .zero rest

/-- Each run of two or more spaces becomes one no-break space. -/
def collapseSpaces (text : Text) : Text := collapseSpacesFrom .zero text

/-- Whether a character is a control character or a space. Null characters are gone by then. -/
def isControlOrSpace (c : Char) : Bool := c ≠ '\x00' && c.toNat ≤ 32

/-! ## Character references -/

/-- The number of digits of a base, the value of each by `digit?`. -/
def digitsValue (base : Nat) (digits : Text) : Nat :=
  digits.foldl (fun value c => base * value + (Text.hexValue? c).getD 0) 0

/-- The text a code point stands for: nothing if it is none or null, an entity if the character is
special. -/
def decodedCode (code : Nat) : Text :=
  if code ≠ 0 ∧ code.isValidChar then escapeChar (Char.ofNat code) else []

/-- Whether a character is a hexadecimal digit. -/
def isHexDigit (c : Char) : Bool := (Text.hexValue? c).isSome

/-- The semicolon that may end a reference. -/
def semicolonLength : Text → Nat
  | ';' :: _ => 1
  | _ => 0

/-- A numeric reference behind an ampersand: its replacement, and the number of characters behind
the ampersand that belong to it. -/
def reference? : Text → Option (Text × Nat)
  | '#' :: rest =>
    match rest.takeWhile Char.isDigit with
    | [] =>
      match rest with
      | mark :: rest =>
        if mark = 'x' ∨ mark = 'X' then
          match rest.takeWhile isHexDigit with
          | [] => none
          | digits =>
            some (decodedCode (digitsValue 16 digits),
              2 + digits.length + semicolonLength (rest.drop digits.length))
        else none
      | [] => none
    | digits =>
      some (decodedCode (digitsValue 10 digits),
        1 + digits.length + semicolonLength (rest.drop digits.length))
  | _ => none

/-- Decoding below a number of characters that still belong to the last reference. -/
def decodeReferencesFrom : Nat → Text → Text
  | _, [] => []
  | skip + 1, _ :: rest => decodeReferencesFrom skip rest
  | 0, c :: rest =>
    if c = '&' then
      match reference? rest with
      | some (replacement, length) => replacement ++ decodeReferencesFrom length rest
      | none => c :: decodeReferencesFrom 0 rest
    else c :: decodeReferencesFrom 0 rest

/-- Text with its numeric character references decoded. Special characters become entities, so that
a reference never turns into markup. -/
def decodeReferences (text : Text) : Text := decodeReferencesFrom 0 text

/-! ## Passes -/

def normalize (markup : Text) : Text :=
  collapseSpaces (Text.squeeze isControlOrSpace ' '
    (decodeReferences (markup.filter fun c => c != '\x00')))

/-- A stage that has a fixed number of passes. -/
inductive Stage where
  | preparing
  | filtering
deriving DecidableEq, Repr

/-- Markup that is still changing when a stage has no passes left. -/
structure NonConvergence where
  stage : Stage
  passes : Nat
deriving DecidableEq, Repr

namespace NonConvergence

def message (failure : NonConvergence) : Text :=
  "Sanitization did not converge: " ++
    (match failure.stage with
      | .preparing => ("preparing" : Text)
      | .filtering => "filtering") ++
    " stage still changing after " ++ Text.ofNat failure.passes ++ " passes"

end NonConvergence

/-- The number of passes that prepare markup. -/
def preparingPasses : Nat := 3

/-- The line about a pass that changed something. -/
def preparingLine (pass : Nat) (before after : Text) : Text :=
  "Preparing pass " ++ Text.ofNat pass ++ " changed " ++ Text.ofNat before.byteSize ++
    " bytes into " ++ Text.ofNat after.byteSize ++ " bytes."

def prepareWithin : Nat → Text → Reported (Except NonConvergence Text)
  | 0, _ => pure (.error ⟨.preparing, preparingPasses⟩)
  | left + 1, markup => do
    let next := normalize markup
    if next = markup then pure (.ok markup)
    else
      Reported.note (.progress (preparingLine (preparingPasses - (left + 1)) markup next))
      prepareWithin left next

/-- Markup that a pass leaves alone, unless there are too few passes to get there. -/
def prepare (markup : Text) : Reported (Except NonConvergence Text) :=
  prepareWithin preparingPasses markup

end SafeMarkup
