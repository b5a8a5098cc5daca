import SafeMarkup.Value.Basic

/-!
Contract: JSON as the written form of a `Value`.

The writer is compact; it escapes quotes, backslashes and control characters and leaves all other
characters as they are. It writes values of any depth. The reader keeps the order and repetition of
keys, and refuses collections that are nested too deep. Escapes that name half of a pair stand for
no character. A text with them is refused where it is wanted, and only there, as depth is.
-/

namespace SafeMarkup.Value.Json

/-! ## Writing -/

def escapedChar (c : Char) : Text :=
  if c = '"' then "\\\""
  else if c = '\\' then "\\\\"
  else if c = '\n' then "\\n"
  else if c = '\r' then "\\r"
  else if c = '\t' then "\\t"
  else if c = '\x08' then "\\b"
  else if c = '\x0c' then "\\f"
  else if c.toNat < 16 then "\\u000" ++ [Text.hexDigit c.toNat]
  else if c.toNat < 32 then "\\u001" ++ [Text.hexDigit (c.toNat - 16)]
  else [c]

def writeString (text : Text) : Text := '"' :: (text.flatMap escapedChar ++ ['"'])

mutual
/-- The compact JSON text of a value. -/
def write : Value → Text
  | .null => "null"
  | .bool true => "true"
  | .bool false => "false"
  | .number literal => literal
  | .string text => writeString text
  | .list items => '[' :: (writeItems items ++ [']'])
  | .record fields => '{' :: (writeFields fields ++ ['}'])

/-- The items of a list, with commas between them. -/
def writeItems : List Value → Text
  | [] => []
  | [item] => write item
  | item :: items => write item ++ ',' :: writeItems items

/-- The entries of a record, with commas between them. -/
def writeFields : List (Text × Value) → Text
  | [] => []
  | [(key, value)] => writeString key ++ ':' :: write value
  | (key, value) :: fields => writeString key ++ ':' :: (write value ++ ',' :: writeFields fields)
end

/-- A line break and the indentation of a level. -/
def lineBreak (level : Nat) : Text := '\n' :: List.replicate (2 * level) ' '

mutual
/-- The JSON text of a value with one entry a line, indented by two spaces a level. -/
def writePretty (level : Nat) : Value → Text
  | .list [] => "[]"
  | .list (item :: items) =>
    '[' :: (writePrettyItems (level + 1) (item :: items) ++ lineBreak level ++ [']'])
  | .record [] => "\x7b\x7d"
  | .record (field :: fields) =>
    '{' :: (writePrettyFields (level + 1) (field :: fields) ++ lineBreak level ++ ['}'])
  | .null => write .null
  | .bool value => write (.bool value)
  | .number literal => write (.number literal)
  | .string text => write (.string text)

/-- The items of a list, each on a line of its own. -/
def writePrettyItems (level : Nat) : List Value → Text
  | [] => []
  | [item] => lineBreak level ++ writePretty level item
  | item :: items =>
    lineBreak level ++ writePretty level item ++ ',' :: writePrettyItems level items

/-- The entries of a record, each on a line of its own. -/
def writePrettyFields (level : Nat) : List (Text × Value) → Text
  | [] => []
  | [(key, value)] => lineBreak level ++ writeString key ++ ": " ++ writePretty level value
  | (key, value) :: fields =>
    lineBreak level ++ writeString key ++ ": " ++ writePretty level value ++
      ',' :: writePrettyFields level fields
end

/-! ## Reading -/

def isSpace (c : Char) : Bool := c = ' ' || c = '\t' || c = '\n' || c = '\r'

def skipSpaces (text : Text) : Text := text.dropWhile isSpace

def codeUnit? : Text → Option Nat
  | a :: b :: c :: d :: _ => do
    let a ← Text.hexValue? a
    let b ← Text.hexValue? b
    let c ← Text.hexValue? c
    let d ← Text.hexValue? d
    return ((a * 16 + b) * 16 + c) * 16 + d
  | _ => none

/-- The character that follows a backslash, and the number of characters it is written with. Code
points above the first plane take two escapes. Half of such a pair is refused, or replaced. -/
def escape? (replacing : Bool) : Text → Option (Char × Nat)
  | [] => none
  | c :: rest =>
    if c = '"' then some ('"', 1)
    else if c = '\\' then some ('\\', 1)
    else if c = '/' then some ('/', 1)
    else if c = 'b' then some ('\x08', 1)
    else if c = 'f' then some ('\x0c', 1)
    else if c = 'n' then some ('\n', 1)
    else if c = 'r' then some ('\r', 1)
    else if c = 't' then some ('\t', 1)
    else if c = 'u' then do
      let unit ← codeUnit? rest
      if unit < 0xD800 ∨ 0xE000 ≤ unit then return (Char.ofNat unit, 5)
      if replacing then return ('\ufffd', 5)
      if 0xDC00 ≤ unit then none
      let low ← (Text.after? "\\u" (rest.drop 4)).bind codeUnit?
      if low < 0xDC00 ∨ 0xE000 ≤ low then none
      return (Char.ofNat (0x10000 + (unit - 0xD800) * 0x400 + (low - 0xDC00)), 11)
    else none

/-- The rest of a string after its opening quote, below a number of characters that still belong
to an escape. Also what follows the closing quote. -/
def readStringFrom (replacing : Bool) : Nat → Text → Option (Text × Text)
  | _, [] => none
  | skip + 1, _ :: rest => readStringFrom replacing skip rest
  | 0, c :: rest =>
    if c = '"' then some ([], rest)
    else if c = '\\' then do
      let (escaped, used) ← escape? replacing rest
      let (text, behind) ← readStringFrom replacing used rest
      return (escaped :: text, behind)
    else if c.toNat < 32 then none
    else do
      let (text, behind) ← readStringFrom replacing 0 rest
      return (c :: text, behind)

/-- The digits a text begins with, at least one, and what follows them. -/
def readDigits (text : Text) : Option (Text × Text) :=
  match text.takeWhile Char.isDigit with
  | [] => none
  | digits => some (digits, text.dropWhile Char.isDigit)

/-- A number literal and what follows it. -/
def readNumber (text : Text) : Option (Text × Text) := do
  let (sign, text) : Text × Text := match text with
    | '-' :: rest => (['-'], rest)
    | rest => ([], rest)
  let (whole, text) ← match text with
    | '0' :: rest => some (['0'], rest)
    | rest => readDigits rest
  let (fraction, text) ← match text with
    | '.' :: rest => (readDigits rest).map fun (digits, behind) => ('.' :: digits, behind)
    | rest => some ([], rest)
  let (exponent, text) ← match text with
    | mark :: rest =>
      if mark = 'e' ∨ mark = 'E' then
        let (sign, rest) : Text × Text := match rest with
          | '+' :: rest => (['+'], rest)
          | '-' :: rest => (['-'], rest)
          | rest => ([], rest)
        (readDigits rest).map fun (digits, behind) => (mark :: (sign ++ digits), behind)
      else some ([], mark :: rest)
    | [] => some ([], [])
  return (sign ++ whole ++ fraction ++ exponent, text)

/-- What is asked of a value that is read: that it is wanted, with at most so many collections one
inside the other, or that it is passed over, whatever its depth, with halves of pairs replaced. -/
inductive Demand where
  | wanted (depth : Nat)
  | passed
deriving DecidableEq, Repr

namespace Demand

/-- What is asked of the parts of a collection, if there may be one. -/
def inside? : Demand → Option Demand
  | wanted 0 => none
  | wanted (depth + 1) => some (wanted depth)
  | passed => some passed

def replaces : Demand → Bool
  | wanted _ => false
  | passed => true

end Demand

mutual
/-- A value and what follows it. Each step of the fuel reads at least one character. -/
def readValue (demand : Demand) : Nat → Text → Option (Value × Text)
  | 0, _ => none
  | fuel + 1, text =>
    match skipSpaces text with
    | [] => none
    | '"' :: rest => do
      let (text, behind) ← readStringFrom demand.replaces 0 rest
      return (.string text, behind)
    | '[' :: rest => do
      let inside ← demand.inside?
      match skipSpaces rest with
      | ']' :: behind => return (.list [], behind)
      | rest =>
        let (items, behind) ← readItems inside fuel rest
        return (.list items, behind)
    | '{' :: rest => do
      let inside ← demand.inside?
      match skipSpaces rest with
      | '}' :: behind => return (.record [], behind)
      | rest =>
        let (fields, behind) ← readFields inside.replaces (fun _ => inside) fuel rest
        return (.record fields, behind)
    | c :: rest =>
      if c = '-' ∨ c.isDigit then do
        let (literal, behind) ← readNumber (c :: rest)
        return (.number literal, behind)
      else match Text.after? "null" (c :: rest) with
        | some behind => some (.null, behind)
        | none => match Text.after? "true" (c :: rest) with
          | some behind => some (.bool true, behind)
          | none => (Text.after? "false" (c :: rest)).map fun behind => (.bool false, behind)

/-- The items of a list up to and with its closing bracket. -/
def readItems (demand : Demand) : Nat → Text → Option (List Value × Text)
  | 0, _ => none
  | fuel + 1, text => do
    let (item, rest) ← readValue demand fuel text
    match skipSpaces rest with
    | ',' :: rest => do
      let (items, behind) ← readItems demand fuel rest
      return (item :: items, behind)
    | ']' :: behind => return ([item], behind)
    | _ => none

/-- The entries of a record up to and with its closing brace. Halves of pairs may be replaced in
keys, and of each value is asked what its key says. -/
def readFields (replacing : Bool) (demand : Text → Demand) :
    Nat → Text → Option (List (Text × Value) × Text)
  | 0, _ => none
  | fuel + 1, text =>
    match skipSpaces text with
    | '"' :: rest => do
      let (key, rest) ← readStringFrom replacing 0 rest
      match skipSpaces rest with
      | ':' :: rest => do
        let (value, rest) ← readValue (demand key) fuel rest
        match skipSpaces rest with
        | ',' :: rest => do
          let (fields, behind) ← readFields replacing demand fuel rest
          return ((key, value) :: fields, behind)
        | '}' :: behind => return ([(key, value)], behind)
        | _ => none
      | _ => none
    | _ => none
end

/-- What was read of a text, if nothing follows it. -/
def whole {α : Type} : Option (α × Text) → Option α
  | some (value, behind) => if (skipSpaces behind).isEmpty then some value else none
  | none => none

/-- How many collections may stand one inside the other: with one more the text is refused. -/
def maxDepth : Nat := 127

/-- The value a whole JSON text stands for. -/
def read (text : Text) : Option Value :=
  whole (readValue (.wanted maxDepth) (2 * text.length + 2) text)

/-- The value a whole JSON text stands for of which only some entries are wanted. -/
def readWanted (wanted : Text → Bool) (text : Text) : Option Value :=
  match skipSpaces text with
  | '{' :: rest =>
    match skipSpaces rest with
    | '}' :: behind => whole (some (.record [], behind))
    | rest =>
      let demand (key : Text) : Demand := if wanted key then .wanted (maxDepth - 1) else .passed
      (whole (readFields false demand (2 * text.length + 2) rest)).map .record
  | _ => read text

end SafeMarkup.Value.Json
