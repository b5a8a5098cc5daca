import SafeMarkup.Value.Basic
import SafeMarkup.Value.Yaml.Scalar

/-!
Contract: what a scalar stands for where any value may stand.

The words for null and the Booleans, whole numbers in four bases and decimal fractions are values of
their own; everything else is text. Digits after a leading zero are text. A tag may ask for one of
the kinds; then the scalar has to be of it, in quotes or not. Numbers have at most 64 bits.
-/

namespace SafeMarkup.Value.Yaml

/-! ## Words -/

def isNullWord (text : Text) : Bool :=
  ["~", "null", "Null", "NULL"].contains (String.ofList text)

def boolWord? (text : Text) : Option Bool :=
  let word := String.ofList text
  if ["true", "True", "TRUE"].contains word then some true
  else if ["false", "False", "FALSE"].contains word then some false
  else none

/-! ## Whole numbers -/

/-- What a text is among the whole numbers. -/
inductive Whole where
  /-- No number, or one of more than 128 bits. -/
  | absent
  /-- A number of more than 64 bits. -/
  | oversized
  | number (negative : Bool) (amount : Nat)
deriving DecidableEq, Repr

/-- The number of digits in a base up to sixteen. -/
def inBase? (base : Nat) (digits : Text) : Option Nat :=
  if digits.isEmpty then none
  else digits.foldl (fun value c => do
    let n ← value
    let digit ← Text.hexValue? c
    if digit < base then some (base * n + digit) else none) (some 0)

/-- Whether a text is a zero followed by more digits, perhaps behind a sign. -/
def hasLeadingZero (text : Text) : Bool :=
  match (match text with
    | c :: rest => if c = '+' ∨ c = '-' then rest else text
    | [] => []) with
  | '0' :: d :: rest => (d :: rest).all Char.isDigit
  | _ => false

/-- The amount of a whole number, without its sign, in one of four bases. -/
def amount? (text : Text) : Option Nat :=
  let based (lead : Text) (base : Nat) : Option Nat :=
    (Text.after? lead text).bind (inBase? base)
  (based "0x" 16).or <| (based "0o" 8).or <| (based "0b" 2).or <|
    if hasLeadingZero text then none else inBase? 10 text

/-- An amount as a whole number, by the least amounts that 64 and 128 bits do not hold. -/
def Whole.ofAmount (negative : Bool) (beyond64 beyond128 : Nat) : Option Nat → Whole
  | none => .absent
  | some amount =>
    if amount < beyond64 then .number negative amount
    else if amount < beyond128 then .oversized
    else .absent

def Whole.ofText (text : Text) : Whole :=
  match text with
  | '-' :: rest => .ofAmount true (Nat.pow 2 63 + 1) (Nat.pow 2 127 + 1) (amount? rest)
  | '+' :: rest => .ofAmount false (Nat.pow 2 64) (Nat.pow 2 128) (amount? rest)
  | _ => .ofAmount false (Nat.pow 2 64) (Nat.pow 2 128) (amount? text)

/-- A whole number as a value, unless it is too large for one. -/
def Whole.value? : Whole → Option Value
  | .number negative amount =>
    some (.number (if negative then '-' :: Text.ofNat amount else Text.ofNat amount))
  | _ => none

/-! ## Fractions -/

/-- A decimal fraction: its digits from the first that is not zero, and the power of ten that the
number they write is multiplied by. -/
structure Fraction where
  digits : Text
  exponent : Int
deriving DecidableEq, Repr

/-- The exponent behind the digits of a fraction. -/
def exponent? : Text → Option Int
  | [] => some 0
  | mark :: rest =>
    if mark = 'e' ∨ mark = 'E' then
      match rest with
      | '-' :: digits => (inBase? 10 digits).map fun amount => -(amount : Int)
      | '+' :: digits => (inBase? 10 digits).map Int.ofNat
      | digits => (inBase? 10 digits).map Int.ofNat
    else none

/-- The fraction a text without a sign spells. Digits may be missing on one side of the point. -/
def Fraction.ofText? (text : Text) : Option Fraction := do
  let whole := text.takeWhile Char.isDigit
  let rest := text.dropWhile Char.isDigit
  let (part, rest) : Text × Text := match rest with
    | '.' :: rest => (rest.takeWhile Char.isDigit, rest.dropWhile Char.isDigit)
    | rest => ([], rest)
  if whole.isEmpty && part.isEmpty then none
  let exponent ← exponent? rest
  return ⟨(whole ++ part).dropWhile (· = '0'), exponent - part.length⟩

/-- The least number that rounds to no finite one of 64 bits. -/
def beyondFinite : Nat := Nat.pow 2 1024 - Nat.pow 2 970

/-- Whether a fraction rounds to a finite number of 64 bits. Far from the limit the number of digits
decides alone. -/
def Fraction.isFinite (fraction : Fraction) : Bool :=
  let places : Int := fraction.digits.length + fraction.exponent
  let whole := (inBase? 10 fraction.digits).getD 0
  if fraction.digits.isEmpty || places < 309 then true
  else if 309 < places then false
  else if 0 ≤ fraction.exponent then whole * Nat.pow 10 fraction.exponent.toNat < beyondFinite
  else whole < beyondFinite * Nat.pow 10 (-fraction.exponent).toNat

/-- Whether a text spells infinity, some number that is none, or a fraction. -/
def isFraction (text : Text) : Bool :=
  let amount : Text := match text with
    | '+' :: rest => rest
    | '-' :: rest => rest
    | _ => text
  [".inf", ".Inf", ".INF"].contains (String.ofList amount) ||
    [".nan", ".NaN", ".NAN"].contains (String.ofList text) ||
    (Fraction.ofText? amount).any Fraction.isFinite

/-- A fraction as a value. Without a point it gets one, for it is no whole number. -/
def fractionValue (text : Text) : Value :=
  .number (if text.all Char.isDigit then text ++ ['.', '0'] else text)

/-! ## Scalars -/

/-- The value a scalar without quotes spells; none if it spells a number that is too large. -/
def spelled? (text : Text) : Option Value :=
  if text.isEmpty || isNullWord text then some .null
  else match boolWord? text with
    | some value => some (.bool value)
    | none =>
      match Whole.ofText text with
      | .absent =>
        some (if !hasLeadingZero text && isFraction text then fractionValue text else .string text)
      | whole => whole.value?

/-- The tags of the kinds of scalars. -/
def nullTag : Text := "tag:yaml.org,2002:null"

@[inherit_doc nullTag]
def boolTag : Text := "tag:yaml.org,2002:bool"

@[inherit_doc nullTag]
def intTag : Text := "tag:yaml.org,2002:int"

@[inherit_doc nullTag]
def floatTag : Text := "tag:yaml.org,2002:float"

/-- The value of a scalar: of the kind that its tag asks for, text with any other tag or in quotes,
else what it spells. -/
def scalarValue? (tag : Option Text) (style : Style) (text : Text) : Option Value :=
  match tag with
  | none => if style = .plain then spelled? text else some (.string text)
  | some tag =>
    if tag = nullTag then if isNullWord text then some .null else none
    else if tag = boolTag then (boolWord? text).map .bool
    else if tag = intTag then (Whole.ofText text).value?
    else if tag = floatTag then if isFraction text then some (fractionValue text) else none
    else some (.string text)

end SafeMarkup.Value.Yaml
