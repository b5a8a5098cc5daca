import SafeMarkup.Text.Break
import SafeMarkup.Text.Edition
import SafeMarkup.Text.Folding
import SafeMarkup.Text.ScriptExtension

/-!
Contract: sets of characters as patterns name them.

Owns: the classes by letters and by names, and closing a set under case.
Does not own: which characters have a property; those are the tables of the text folder.

A set is kept as its ranges in order, so that equal sets are the same value.
-/

namespace SafeMarkup

/-- A set of characters, by the ranges of their code points. -/
abbrev CharSet := Text.Ranges

namespace CharSet

/-- Whether a character belongs to a set. -/
def member (set : CharSet) (c : Char) : Bool := Text.Ranges.member set c.toNat

def none : CharSet := []

def single (c : Char) : CharSet := [(c.toNat, c.toNat)]

/-- The characters from one to another one. -/
def range (first last : Char) : CharSet :=
  if first.toNat < 0xD800 ∧ 0xDFFF < last.toNat then
    [(first.toNat, 0xD7FF), (0xE000, last.toNat)]
  else [(first.toNat, last.toNat)]

def unions (sets : List CharSet) : CharSet := Text.Ranges.ordered sets.flatten

def union (left right : CharSet) : CharSet := Text.Ranges.union left right

/-- The characters that are in both sets. -/
def inter (left right : CharSet) : CharSet := Text.Ranges.inter left right

/-- The characters that are not in a set. -/
def complement (set : CharSet) : CharSet := Text.Ranges.complement set

def everything : CharSet := complement none

/-- The members of the left set that are not in the right one. -/
def difference (left right : CharSet) : CharSet := Text.Ranges.difference left right

/-- The characters that are in exactly one of two sets. -/
def symmetricDifference (left right : CharSet) : CharSet :=
  union (difference left right) (difference right left)

/-! ## Case -/

/-- The characters that fold like a member. -/
def folded (set : CharSet) : CharSet := Text.foldClosure set

/-- The capitals of ASCII, which become small letters. -/
def asciiCapitals : Text.CaseRun := ⟨0x41, 0x5A, 1, 32⟩

/-- The characters that are a member but for the case of a letter of ASCII. -/
def asciiFolded (set : CharSet) : CharSet :=
  unions [set, Text.CaseRun.images [asciiCapitals, asciiCapitals.inverse] set]

/-! ## Classes by letters -/

def digits : CharSet := Text.decimalDigits

def blanks : CharSet := Text.Property.whiteSpace.get

def wordCharacters : CharSet := Text.wordCharacters.get

def asciiDigits : CharSet := range '0' '9'

def asciiLetters : CharSet := union (range 'A' 'Z') (range 'a' 'z')

/-- White space in ASCII, the vertical tabulator included. -/
def asciiBlanks : CharSet := union (range '\t' '\r') (single ' ')

/-- Letters, digits and the low line in ASCII. -/
def asciiWordCharacters : CharSet := unions [asciiDigits, asciiLetters, single '_']

/-! ## Classes by names -/

/-- A class of ASCII characters by its name between colons. -/
def asciiNamed? (name : String) : Option CharSet :=
  match name with
  | "alnum" => some (union asciiDigits asciiLetters)
  | "alpha" => some asciiLetters
  | "ascii" => some (range '\x00' '\x7f')
  | "blank" => some (union (single '\t') (single ' '))
  | "cntrl" => some (union (range '\x00' '\x1f') (single '\x7f'))
  | "digit" => some asciiDigits
  | "graph" => some (range '!' '~')
  | "lower" => some (range 'a' 'z')
  | "print" => some (range ' ' '~')
  | "punct" => some (unions [range '!' '/', range ':' '@', range '[' '\x60', range '\x7b' '~'])
  | "space" => some asciiBlanks
  | "upper" => some (range 'A' 'Z')
  | "word" => some asciiWordCharacters
  | "xdigit" => some (unions [asciiDigits, range 'A' 'F', range 'a' 'f'])
  | _ => Option.none

/-- A name as it is compared: the letters "is" before it are dropped, then blanks, low lines,
hyphens and all that is not in ASCII, and letters are made small. The name "isc" would be dropped to
the name of a category and is kept. -/
def normalizedName (name : Text) : String :=
  let compared (name : Text) : String := String.ofList <|
    (name.filter fun c => c.toNat < 128 && !(c = ' ' || c = '_' || c = '-')).map Char.toLower
  match name with
  | first :: second :: rest =>
    if first.toLower = 'i' ∧ second.toLower = 's' then
      if compared rest = "c" then "isc" else compared rest
    else compared name
  | _ => compared name

/-- The characters of a general category by a normalized name. -/
def categoryNamed? (name : String) : Option CharSet :=
  match name with
  | "any" => some everything
  | "assigned" => some (complement Text.Category.unassigned.ranges)
  | "ascii" => some (range '\x00' '\x7f')
  | name => (Text.Category.named.lookup name).map fun categories =>
    unions (categories.map Text.Category.ranges)

/-- The characters of a property, a category or a script by a normalized name. The short names of
three categories are those of properties without members, too, and mean the categories. -/
def unicodeNamed? (name : String) : Option CharSet :=
  if name = "cf" ∨ name = "sc" ∨ name = "lc" then categoryNamed? name
  else (Text.propertyNamed? name).or ((categoryNamed? name).or (Text.scriptNamed? name))

/-- A value of a property by its names. -/
def valueNamed? (values : List (List String × Thunk Text.Ranges)) (name : String) :
    Option CharSet :=
  (values.find? fun (names, _) => names.contains name).map fun (_, set) => set.get

/-- The characters whose property has a value, by normalized names. -/
def unicodeValued? (property value : String) : Option CharSet :=
  match property with
  | "gc" | "generalcategory" => categoryNamed? value
  | "sc" | "script" => Text.scriptNamed? value
  | "scx" | "scriptextensions" => Text.usedWithScript? value
  | "age" => Text.assignedBy? value
  | "gcb" | "graphemeclusterbreak" => valueNamed? Text.Break.graphemeBreaks value
  | "wb" | "wordbreak" => valueNamed? Text.Break.wordBreaks value
  | "sb" | "sentencebreak" => valueNamed? Text.Break.sentenceBreaks value
  | _ => Option.none

end CharSet
end SafeMarkup
