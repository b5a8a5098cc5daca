import SafeMarkup.Text.Basic

/-!
Contract: scalars of YAML documents: without quotes, in either kind of quotes, and in blocks.

Owns: places in a document, the folding of line breaks, escapes, the indentation of blocks.
Does not own: where a scalar may stand.

Line breaks other than U+2028 and U+2029 are line feeds before anything is read.
-/

namespace SafeMarkup.Value.Yaml

/-! ## Styles -/

/-- How a scalar is written. -/
inductive Style where
  /-- Without quotes. -/
  | plain
  /-- As a block that keeps its line breaks. -/
  | literal
  /-- In quotes, or as a block that folds its line breaks. -/
  | other
deriving DecidableEq, Repr

/-! ## Places -/

/-- A place in a document. -/
structure Position where
  line : Nat
  column : Nat
  index : Nat
deriving DecidableEq, Repr

def isBreak (c : Char) : Bool := c = '\n' || c = '\u2028' || c = '\u2029'

/-- Characters that separate words on a line. -/
def isPad (c : Char) : Bool := c = ' ' || c = '\t'

/-- Whether a word ends before a text. -/
def endsWord : Text → Bool
  | [] => true
  | c :: _ => isPad c || isBreak c

/-- Whether a line ends before a text. -/
def endsLine : Text → Bool
  | [] => true
  | c :: _ => isBreak c

/-- Whether a text begins with a mark between documents. -/
def beginsDocumentMark (text : Text) : Bool :=
  match (Text.after? "---" text).or (Text.after? "..." text) with
  | some rest => endsWord rest
  | none => false

namespace Position

def start : Position := ⟨0, 0, 0⟩

def next (c : Char) (position : Position) : Position :=
  if isBreak c then ⟨position.line + 1, 0, position.index + 1⟩
  else ⟨position.line, position.column + 1, position.index + 1⟩

def behind (text : Text) (position : Position) : Position :=
  text.foldl (fun position c => position.next c) position

end Position

/-- Something read, the place behind it, and the text there. -/
structure Scanned (α : Type) where
  value : α
  position : Position
  rest : Text

def Scanned.map {α β : Type} (f : α → β) (scanned : Scanned α) : Scanned β :=
  ⟨f scanned.value, scanned.position, scanned.rest⟩

/-! ## Folding -/

/-- What stands between two words of a scalar. -/
inductive Gap where
  | pads (text : Text)
  /-- Line breaks. The first is missing if it was escaped. -/
  | breaks (first : Option Char) (more : Text)

namespace Gap

def none : Gap := .pads []

def add (c : Char) : Gap → Gap
  | .pads text => if isBreak c then .breaks (some c) [] else .pads (text ++ [c])
  | .breaks first more => if isBreak c then .breaks first (more ++ [c]) else .breaks first more

/-- Whether there is nothing in a gap. -/
def isEmpty : Gap → Bool
  | .pads text => text.isEmpty
  | .breaks _ _ => false

def isBroken : Gap → Bool
  | .pads _ => false
  | .breaks _ _ => true

/-- What a gap stands for. A single line feed is a space, and of several the first is dropped. -/
def folded : Gap → Text
  | .pads text => text
  | .breaks Option.none more => more
  | .breaks (some first) more =>
    if first = '\n' then (if more.isEmpty then [' '] else more) else first :: more

end Gap

/-! ## Scalars without quotes -/

/-- Characters that end a word between brackets. -/
def isFlowMark (c : Char) : Bool := [',', '[', ']', '{', '}'].contains c

/-- Reads a scalar without quotes: its text, and whether line breaks follow it. It goes on over
lines that are indented at least by `indent`. -/
def readPlain (inFlow : Bool) (indent : Nat) :
    Gap → Position → Text → Option (Scanned (Text × Bool))
  | gap, position, [] => some ⟨([], gap.isBroken), position, []⟩
  | gap, position, c :: rest =>
    let ended : Scanned (Text × Bool) := ⟨([], gap.isBroken), position, c :: rest⟩
    if isPad c || isBreak c then
      if gap.isBroken && c = '\t' && position.column < indent then none
      else readPlain inFlow indent (gap.add c) (position.next c) rest
    else if !gap.isEmpty && (c = '#' || (!inFlow && position.column < indent) ||
        (position.column = 0 && beginsDocumentMark (c :: rest))) then some ended
    else if inFlow && c = ':' && rest.head?.any (fun d => isFlowMark d || d = '?') then none
    else if (c = ':' && endsWord rest) || (inFlow && isFlowMark c) then some ended
    else (readPlain inFlow indent .none (position.next c) rest).map fun scanned =>
      scanned.map fun (text, broken) => (gap.folded ++ c :: text, broken)

/-! ## Scalars in quotes -/

/-- Reads a scalar behind its opening single quote. A quote in it is written twice. -/
def readSingle : Gap → Position → Text → Option (Scanned Text)
  | _, _, [] => none
  | gap, position, c :: rest =>
    if isPad c || isBreak c then readSingle (gap.add c) (position.next c) rest
    else if position.column = 0 && beginsDocumentMark (c :: rest) then none
    else if c = '\'' then
      match rest with
      | '\'' :: rest =>
        (readSingle .none ((position.next c).next c) rest).map fun scanned =>
          scanned.map fun text => gap.folded ++ c :: text
      | _ => some ⟨gap.folded, position.next c, rest⟩
    else (readSingle .none (position.next c) rest).map fun scanned =>
      scanned.map fun text => gap.folded ++ c :: text

/-- The characters that single letters behind a backslash stand for. -/
def letterEscapes : List (Char × Char) :=
  [('0', '\x00'), ('a', '\x07'), ('b', '\x08'), ('t', '\t'), ('\t', '\t'), ('n', '\n'),
   ('v', '\x0b'), ('f', '\x0c'), ('r', '\r'), ('e', '\x1b'), (' ', ' '), ('"', '"'), ('/', '/'),
   ('\\', '\\'), ('N', '\x85'), ('_', '\u00a0'), ('L', '\u2028'), ('P', '\u2029')]

/-- The character with a number of some hexadecimal digits. -/
def codePoint? (digits : Nat) (text : Text) : Option Char := do
  let values ← (text.take digits).mapM Text.hexValue?
  let code := values.foldl (fun code value => 16 * code + value) 0
  if values.length = digits ∧ code.isValidChar then return Char.ofNat code else none

/-- The character that follows a backslash, and the number of characters it is written with. -/
def escape? : Text → Option (Char × Nat)
  | [] => none
  | c :: rest =>
    let coded (digits : Nat) : Option (Char × Nat) :=
      (codePoint? digits rest).map fun d => (d, digits + 1)
    match letterEscapes.lookup c with
    | some d => some (d, 1)
    | none =>
      if c = 'x' then coded 2
      else if c = 'u' then coded 4
      else if c = 'U' then coded 8
      else none

/-- Reads a scalar behind its opening double quote, below a number of characters that still belong
to an escape. -/
def readDouble : Nat → Gap → Position → Text → Option (Scanned Text)
  | _, _, _, [] => none
  | skip + 1, gap, position, c :: rest => readDouble skip gap (position.next c) rest
  | 0, gap, position, c :: rest =>
    if isPad c || isBreak c then readDouble 0 (gap.add c) (position.next c) rest
    else if position.column = 0 && beginsDocumentMark (c :: rest) then none
    else if c = '"' then some ⟨gap.folded, position.next c, rest⟩
    else if c = '\\' then
      if rest.head?.any isBreak then
        (readDouble 1 (.breaks none []) (position.next c) rest).map fun scanned =>
          scanned.map fun text => gap.folded ++ text
      else match escape? rest with
        | none => none
        | some (escaped, used) =>
          (readDouble used .none (position.next c) rest).map fun scanned =>
            scanned.map fun text => gap.folded ++ escaped :: text
    else (readDouble 0 .none (position.next c) rest).map fun scanned =>
      scanned.map fun text => gap.folded ++ c :: text

/-! ## Scalars in blocks -/

/-- What happens to the line breaks at the end of a block. -/
inductive Chomping where
  | strip
  | clip
  | keep
deriving DecidableEq, Repr

/-- How a block is written. -/
structure BlockHeader where
  chomping : Chomping
  /-- The indentation against what is around the block, if it is given. -/
  indentation : Option Nat

def chomping? (c : Char) : Option Chomping :=
  if c = '+' then some .keep else if c = '-' then some .strip else none

/-- The indentation a character asks for; the inner `none` for a zero, which is not allowed. -/
def indentation? (c : Char) : Option (Option Nat) :=
  if c = '0' then some none
  else if c.isDigit then some (some (c.toNat - 48))
  else none

/-- Reads the marks behind the character that opens a block. -/
def readBlockMarks : Text → Option (BlockHeader × Text)
  | [] => some (⟨.clip, none⟩, [])
  | c :: rest =>
    match chomping? c, indentation? c with
    | some chomping, _ =>
      match rest with
      | [] => some (⟨chomping, none⟩, [])
      | d :: behind =>
        match indentation? d with
        | some (some indentation) => some (⟨chomping, some indentation⟩, behind)
        | some none => none
        | none => some (⟨chomping, none⟩, d :: behind)
    | none, some (some indentation) =>
      match rest with
      | [] => some (⟨.clip, some indentation⟩, [])
      | d :: behind =>
        match chomping? d with
        | some chomping => some (⟨chomping, some indentation⟩, behind)
        | none => some (⟨.clip, some indentation⟩, d :: behind)
    | none, some none => none
    | none, none => some (⟨.clip, none⟩, c :: rest)

/-- What is behind the blanks and the comment at the end of a line, if nothing else is there. -/
def skipLineEnd? (text : Text) : Option Text :=
  let text := text.dropWhile isPad
  let text := if text.head? = some '#' then text.dropWhile fun c => !isBreak c else text
  if endsLine text then some text else none

/-- Finds the indentation of a block: the empty lines before its text, and the greatest
indentation of a line up to there. -/
def measureBlock : (deepest : Nat) → (breaks : Text) → Position → Text →
    Option (Scanned (Nat × Text))
  | deepest, breaks, position, [] => some ⟨(max deepest position.column, breaks), position, []⟩
  | deepest, breaks, position, c :: rest =>
    if c = ' ' then measureBlock deepest breaks (position.next c) rest
    else if c = '\t' then none
    else
      let deepest := max deepest position.column
      if isBreak c then measureBlock deepest (breaks ++ [c]) (position.next c) rest
      else some ⟨(deepest, breaks), position, c :: rest⟩

/-- What is known at the end of a line of a block. -/
structure BlockState where
  /-- The end of the last line with text. -/
  lineEnd : Option Char
  /-- The ends of empty lines behind it. -/
  breaks : Text
  /-- The last line began with a blank. -/
  indented : Bool

/-- What stands between the last line of a block and one that begins with `c`. Folding makes a
space of a single line feed between lines that begin with text. -/
def BlockState.joint (folding : Bool) (c : Char) (state : BlockState) : Text :=
  let folds : Bool := folding && state.lineEnd = some '\n' && !state.indented && !isPad c
  if folds then (if state.breaks.isEmpty then [' '] else state.breaks)
  else state.lineEnd.toList ++ state.breaks

/-- What is left of the line breaks at the end of a block. -/
def BlockState.tail (chomping : Chomping) (state : BlockState) : Text :=
  match chomping with
  | .strip => []
  | .clip => state.lineEnd.toList
  | .keep => state.lineEnd.toList ++ state.breaks

/-- Reads the lines of a block; `inLine` behind the indentation of one. -/
def readBlock (folding : Bool) (chomping : Chomping) (indent : Nat) :
    (inLine : Bool) → BlockState → Position → Text → Option (Scanned Text)
  | _, state, position, [] => some ⟨state.tail chomping, position, []⟩
  | true, state, position, c :: rest =>
    if isBreak c then
      readBlock folding chomping indent false { state with lineEnd := some c } (position.next c)
        rest
    else (readBlock folding chomping indent true state (position.next c) rest).map fun scanned =>
      scanned.map (c :: ·)
  | false, state, position, c :: rest =>
    if c = ' ' && position.column < indent then
      readBlock folding chomping indent false state (position.next c) rest
    else if c = '\t' && position.column < indent then none
    else if isBreak c then
      readBlock folding chomping indent false { state with breaks := state.breaks ++ [c] }
        (position.next c) rest
    else if position.column = indent then
      (readBlock folding chomping indent true ⟨none, [], isPad c⟩ (position.next c) rest).map
        fun scanned => scanned.map fun text => state.joint folding c ++ c :: text
    else some ⟨state.tail chomping, position, c :: rest⟩

/-- Reads a block behind the character that opens it, inside something indented by `outer`. -/
def readBlockScalar (folding : Bool) (outer : Option Nat) (position : Position) (text : Text) :
    Option (Scanned Text) := do
  let (header, rest) ← readBlockMarks text
  let rest ← skipLineEnd? rest
  let position := position.behind (text.take (text.length - rest.length))
  let (position, rest) : Position × Text := match rest with
    | c :: rest => (position.next c, rest)
    | [] => (position, [])
  let least := outer.elim 0 (· + 1)
  match header.indentation with
  | some indentation =>
    readBlock folding header.chomping (outer.getD 0 + indentation) false ⟨none, [], false⟩ position
      rest
  | none =>
    let measured ← measureBlock 0 [] position rest
    let indent := max (max measured.value.1 least) 1
    readBlock folding header.chomping indent false ⟨none, measured.value.2, false⟩
      measured.position measured.rest

end SafeMarkup.Value.Yaml
