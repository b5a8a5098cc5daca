/-!
Contract: text as a list of characters, with the substring operations that the rest of the
library is written in.

Owns: searching, splitting, replacing and joining by literal delimiters; and white space, with what
trimming and squeezing do with it.

Does not own: the other properties of characters, which are those of the neighbouring modules.
-/

namespace SafeMarkup

/-- Text is the list of its Unicode scalar values. -/
abbrev Text := List Char

instance : Coe String Text := ⟨String.toList⟩

namespace Text

def nbsp : Char := '\u00a0'

/-- What follows `lead` in a text that begins with it. -/
def after? : (lead text : Text) → Option Text
  | [], text => some text
  | _ :: _, [] => none
  | c :: lead, d :: text => if c = d then after? lead text else none

/-- Replacement below a number of characters that still belong to the last occurrence. -/
def replaceFrom (needle replacement : Text) : Nat → Text → Text
  | _, [] => []
  | skip + 1, _ :: rest => replaceFrom needle replacement skip rest
  | 0, c :: rest =>
    if needle.isPrefixOf (c :: rest) then
      replacement ++ replaceFrom needle replacement (needle.length - 1) rest
    else c :: replaceFrom needle replacement 0 rest

/-- Every occurrence of a non-empty `needle`, found from the left without overlap, replaced. -/
def replaceAll (needle replacement : Text) (text : Text) : Text :=
  replaceFrom needle replacement 0 text

/-- Puts one more character in front of the first piece. -/
def consHead (c : Char) : List Text → List Text
  | [] => [[c]]
  | piece :: pieces => (c :: piece) :: pieces

/-- Splitting below a number of characters that still belong to the last delimiter. -/
def splitFrom (delimiter : Text) : Nat → Text → List Text
  | _, [] => [[]]
  | skip + 1, _ :: rest => splitFrom delimiter skip rest
  | 0, c :: rest =>
    if delimiter.isPrefixOf (c :: rest) then
      [] :: splitFrom delimiter (delimiter.length - 1) rest
    else consHead c (splitFrom delimiter 0 rest)

/-- The pieces between the occurrences of `delimiter`, one more than there are occurrences. An
empty delimiter stands before, between and after all characters. -/
def splitOn (delimiter text : Text) : List Text :=
  if delimiter.isEmpty then [] :: (text.map ([·]) ++ [[]])
  else splitFrom delimiter 0 text

/-- The parts before and after the first `mark`, if there is one. -/
def splitOnce (mark : Char) : Text → Option (Text × Text)
  | [] => none
  | c :: rest =>
    if c = mark then some ([], rest)
    else (splitOnce mark rest).map fun (before, behind) => (c :: before, behind)

def join (joiner : Text) : List Text → Text
  | [] => []
  | [piece] => piece
  | piece :: pieces => piece ++ joiner ++ join joiner pieces

/-- Each maximal run of characters of a class becomes one `mark`; `inRun` tells whether the
character before belonged to the class. -/
def squeezeFrom (inClass : Char → Bool) (mark : Char) (inRun : Bool) : Text → Text
  | [] => []
  | c :: rest =>
    if inClass c then
      if inRun then squeezeFrom inClass mark true rest
      else mark :: squeezeFrom inClass mark true rest
    else c :: squeezeFrom inClass mark false rest

/-- Each maximal run of characters of a class becomes one `mark`. -/
def squeeze (inClass : Char → Bool) (mark : Char) (text : Text) : Text :=
  squeezeFrom inClass mark false text

/-- Drops the characters of a class at both ends. -/
def trimmed (inClass : Char → Bool) (text : Text) : Text :=
  ((text.dropWhile inClass).reverse.dropWhile inClass).reverse

/-- White space: the Unicode property of that name. -/
def isBlank (c : Char) : Bool :=
  let code := c.toNat
  (9 ≤ code && code ≤ 13) || code == 0x20 || code == 0x85 || code == 0xA0 || code == 0x1680 ||
    (0x2000 ≤ code && code ≤ 0x200A) || code == 0x2028 || code == 0x2029 || code == 0x202F ||
    code == 0x205F || code == 0x3000

def trim (text : Text) : Text := trimmed isBlank text

/-- Each run of white space becomes one space. -/
def squeezeBlanks (text : Text) : Text := squeeze isBlank ' ' text

def removeBlanks (text : Text) : Text := text.filter fun c => !isBlank c

/-- The text with its ASCII capitals made small. -/
def toAsciiLower (text : Text) : Text := text.map Char.toLower

/-- The value of an ASCII hexadecimal digit. -/
def hexValue? (c : Char) : Option Nat :=
  if c.isDigit then some (c.toNat - 48)
  else if 'a' ≤ c ∧ c ≤ 'f' then some (c.toNat - 87)
  else if 'A' ≤ c ∧ c ≤ 'F' then some (c.toNat - 55)
  else none

/-- The digit of a value below sixteen, in small letters. -/
def hexDigit (value : Nat) : Char :=
  if value < 10 then Char.ofNat (48 + value) else Char.ofNat (87 + value)

/-- The digits of a number in some base, the most significant first. -/
def digitsFrom (base : Nat) : Nat → Nat → Text → Text
  | 0, _, tail => tail
  | fuel + 1, value, tail =>
    if value < base then hexDigit value :: tail
    else digitsFrom base fuel (value / base) (hexDigit (value % base) :: tail)

def ofNat (value : Nat) : Text := digitsFrom 10 (value + 1) value []

/-- A natural number in hexadecimal with small letters. -/
def ofNatHex (value : Nat) : Text := digitsFrom 16 (value + 1) value []

/-- The number a text of decimal digits stands for. -/
def toNat? (text : Text) : Option Nat :=
  if text.isEmpty then none
  else text.foldl (fun value c =>
    value.bind fun n => if c.isDigit then some (10 * n + (c.toNat - 48)) else none) (some 0)

/-- The number of bytes of a text in UTF-8. -/
def byteSize (text : Text) : Nat := text.foldl (fun size c => size + c.utf8Size) 0

/-- The bytes of a text in UTF-8. -/
def bytes (text : Text) : List UInt8 := text.flatMap String.utf8EncodeChar

end Text
end SafeMarkup
