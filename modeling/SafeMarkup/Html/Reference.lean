import SafeMarkup.Html.NamedCharacters

/-!
Contract: character references, by number and by name.

A reference by name is the longest name that fits. In an attribute value a name without a semicolon
is left alone if the text goes on like a word, since it may be part of a query.

Main statement: `flatten_pieces`, by which the pieces that a text is read in make up the text.
-/

namespace SafeMarkup.Html

/-- The characters that numbers of an old single-byte encoding stand for. -/
def oldEncoding : List (Nat × Nat) :=
  [(0x80, 0x20AC), (0x82, 0x201A), (0x83, 0x0192), (0x84, 0x201E), (0x85, 0x2026), (0x86, 0x2020),
   (0x87, 0x2021), (0x88, 0x02C6), (0x89, 0x2030), (0x8A, 0x0160), (0x8B, 0x2039), (0x8C, 0x0152),
   (0x8E, 0x017D), (0x91, 0x2018), (0x92, 0x2019), (0x93, 0x201C), (0x94, 0x201D), (0x95, 0x2022),
   (0x96, 0x2013), (0x97, 0x2014), (0x98, 0x02DC), (0x99, 0x2122), (0x9A, 0x0161), (0x9B, 0x203A),
   (0x9C, 0x0153), (0x9E, 0x017E), (0x9F, 0x0178)]

/-- The character of a number. Numbers of no character give the replacement character. -/
def numberedCharacter (code : Nat) : Char :=
  if code = 0 ∨ ¬ code.isValidChar then '\ufffd'
  else match oldEncoding.find? fun (old, _) => old = code with
    | some (_, new) => Char.ofNat new
    | none => Char.ofNat code

/-- A character reference behind an ampersand. -/
structure Reference where
  characters : Text
  /-- The number of characters behind the ampersand that belong to it. -/
  length : Nat
  /-- It ends with a semicolon. -/
  terminated : Bool
deriving DecidableEq, Repr

/-- A reference by number whose digits follow `lead` characters. -/
def numbered? (base lead : Nat) (isDigit : Char → Bool) (text : Text) : Option Reference :=
  let digits := text.takeWhile isDigit
  if digits.isEmpty then none
  else
    let code := digits.foldl (fun code c => base * code + (Text.hexValue? c).getD 0) 0
    let terminated := (text.drop digits.length).head? = some ';'
    some ⟨[numberedCharacter code], lead + digits.length + (if terminated then 1 else 0),
      terminated⟩

def named? (inAttribute : Bool) (text : Text) : Option Reference :=
  match namedCharacters.find? fun (name, _) => name.isPrefixOf text with
  | none => none
  | some (name, characters) =>
    let terminated := name.getLast? = some ';'
    let continued := (text.drop name.length).head?.any fun c => c = '=' || c.isAlphanum
    if inAttribute && !terminated && continued then none
    else some ⟨characters, name.length, terminated⟩

def reference? (inAttribute : Bool) : Text → Option Reference
  | '#' :: mark :: rest =>
    if mark = 'x' ∨ mark = 'X' then numbered? 16 2 (fun c => (Text.hexValue? c).isSome) rest
    else numbered? 10 1 Char.isDigit (mark :: rest)
  | c :: rest => if c.isAlphanum then named? inAttribute (c :: rest) else none
  | [] => none

/-- Decoding below a number of characters that still belong to the last reference. -/
def decodeFrom (inAttribute : Bool) : Nat → Text → Text
  | _, [] => []
  | skip + 1, _ :: rest => decodeFrom inAttribute skip rest
  | 0, c :: rest =>
    if c = '&' then
      match reference? inAttribute rest with
      | some reference => reference.characters ++ decodeFrom inAttribute reference.length rest
      | none => c :: decodeFrom inAttribute 0 rest
    else c :: decodeFrom inAttribute 0 rest

def decode (inAttribute : Bool) (text : Text) : Text := decodeFrom inAttribute 0 text

/-! ## Pieces -/

/-- How many characters two texts have in common at their beginning. -/
def commonLength : Text → Text → Nat
  | c :: left, d :: right => if c = d then commonLength left right + 1 else 0
  | _, _ => 0

/-- How many characters behind an ampersand are looked at to tell where a reference ends. A name is
read as long as some name goes on like it, and one character more; if there is no such name, to the
end of the word and one character more. -/
def lookAhead (text : Text) : Nat :=
  match text with
  | '#' :: mark :: _ => if mark = 'x' ∨ mark = 'X' then 2 else 1
  | c :: _ =>
    if c.isAlphanum then
      let known := (namedCharacters.map fun (name, _) => commonLength name text).foldl max 0
      let goesOn := (text.drop known).head?.any Char.isAlphanum
      if goesOn && (named? false text).isNone then (text.takeWhile Char.isAlphanum).length + 1
      else known + 1
    else 1
  | [] => 0

/-- Puts a piece that is given in reverse before others, unless it is empty. -/
def consPiece (piece : Text) (pieces : List Text) : List Text :=
  if piece.isEmpty then pieces else piece.reverse :: pieces

/-- The pieces below a number of characters that still belong to the last reference, given the piece
read so far in reverse. It ends behind `ahead` more characters. -/
def piecesFrom : (skip ahead : Nat) → (piece : Text) → Text → List Text
  | _, _, piece, [] => consPiece piece []
  | skip + 1, ahead, piece, _ :: rest => piecesFrom skip ahead piece rest
  | 0, ahead, piece, c :: rest =>
    if c = '&' then
      consPiece piece <| match reference? false rest with
        | some reference =>
          reference.characters.map ([·]) ++
            piecesFrom reference.length (lookAhead rest - reference.length) [] rest
        | none => ['&'] :: piecesFrom 0 (lookAhead rest) [] rest
    else if ahead = 1 then (c :: piece).reverse :: piecesFrom 0 0 [] rest
    else piecesFrom 0 (ahead - 1) (c :: piece) rest

/-- Text with its references decoded, in the pieces that it is read in: each character of a
reference, an ampersand without one, what was looked at behind either of them, and the rest. -/
def pieces (text : Text) : List Text := piecesFrom 0 0 [] text

theorem flatten_consPiece (piece : Text) (pieces : List Text) :
    (consPiece piece pieces).flatten = piece.reverse ++ pieces.flatten := by
  cases piece <;> simp [consPiece]

theorem flatten_piecesFrom (skip ahead : Nat) (piece text : Text) :
    (piecesFrom skip ahead piece text).flatten = piece.reverse ++ decodeFrom false skip text := by
  induction text generalizing skip ahead piece with
  | nil => cases skip <;> simp [piecesFrom, decodeFrom, flatten_consPiece]
  | cons c rest inductionHypothesis =>
    cases skip with
    | succ skip => simp [piecesFrom, decodeFrom, inductionHypothesis]
    | zero =>
      by_cases ampersand : c = '&'
      · simp only [piecesFrom, decodeFrom, ampersand, if_true, flatten_consPiece]
        cases reference? false rest with
        | none => simp [inductionHypothesis]
        | some reference =>
          have singles : (reference.characters.map ([·])).flatten = reference.characters := by
            induction reference.characters <;> simp_all
          simp [inductionHypothesis, singles]
      · by_cases last : ahead = 1 <;>
          simp [piecesFrom, decodeFrom, ampersand, last, inductionHypothesis]

/-- The pieces in a row are the decoded text. -/
theorem flatten_pieces (text : Text) : (pieces text).flatten = decode false text := by
  simp [pieces, decode, flatten_piecesFrom]

/-- Whether a text begins with a reference without its semicolon. -/
def beginsUnterminated : Text → Bool
  | '&' :: rest => (reference? false rest).any fun reference => !reference.terminated
  | _ => false

end SafeMarkup.Html
