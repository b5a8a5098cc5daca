import SafeMarkup.Value.Yaml.Scalar

/-!
Contract: YAML documents cut into tokens, with their indentation made explicit.

Owns: directives, anchors, tags, brackets, and the tokens that open and close what is indented.
Does not own: the order in which tokens make sense.

A key without a mark of its own is known only by the colon behind it. The place where a key may
have begun is remembered until then, and the tokens that open it are put in at that place.
-/

namespace SafeMarkup.Value.Yaml

/-- A piece of a document. -/
inductive Token where
  | version (major minor : Text)
  | tagDirective (handle lead : Text)
  | documentStart
  | documentEnd
  | openItems
  | openFields
  /-- The end of what is indented. -/
  | close
  | openBracket
  | closeBracket
  | openBrace
  | closeBrace
  | comma
  /-- The hyphen before an item. -/
  | item
  | key
  | value
  | alias (name : Text)
  | anchor (name : Text)
  | tag (handle suffix : Text)
  | scalar (style : Style) (text : Text)
deriving DecidableEq, Repr, Inhabited

/-- A place where a key may have begun. -/
structure KeyStart where
  /-- Nothing but a key can stand there. -/
  required : Bool
  /-- The number of tokens before it. -/
  tokens : Nat
  position : Position
deriving DecidableEq, Repr

/-- A document that is read in part. -/
structure Layout where
  position : Position
  rest : Text
  tokens : Array Token
  /-- The columns of what is indented and open, innermost first. -/
  indents : List Nat
  /-- Where a key may have begun: in the innermost brackets, in those around them, and last
  outside of brackets. -/
  keys : List (Option KeyStart)
  /-- A key may begin at the next token. -/
  keyAllowed : Bool

namespace Layout

def ofText (text : Text) : Layout := ⟨.start, text, #[], [], [none], true⟩

def inFlow (layout : Layout) : Bool := 1 < layout.keys.length

/-- The least column of text that goes on over lines. -/
def innerColumn (layout : Layout) : Nat := layout.indents.head?.elim 0 (· + 1)

def push (token : Token) (layout : Layout) : Layout :=
  { layout with tokens := layout.tokens.push token }

def advance : Nat → Layout → Layout
  | 0, layout => layout
  | count + 1, layout =>
    match layout.rest with
    | [] => layout
    | c :: rest => advance count { layout with position := layout.position.next c, rest }

def advanceTo (rest : Text) (layout : Layout) : Layout :=
  layout.advance (layout.rest.length - rest.length)

/-- Adds a token and moves behind the characters it is written with. -/
def take (count : Nat) (token : Token) (layout : Layout) : Layout :=
  (layout.advance count).push token

def allowKey (allowed : Bool) (layout : Layout) : Layout := { layout with keyAllowed := allowed }

/-! ## Keys -/

/-- Whether a key that began at some place can still end. Keys are on one line and not long. -/
def KeyStart.isFresh (position : Position) (start : KeyStart) : Bool :=
  start.position.line = position.line && position.index ≤ start.position.index + 1024

/-- Forgets the starts of keys that cannot end any more. -/
def dropStale (layout : Layout) : Option Layout := do
  let keys ← layout.keys.mapM fun
    | none => some none
    | some start =>
      if KeyStart.isFresh layout.position start then some (some start)
      else if start.required then none
      else some none
  return { layout with keys }

/-- Forgets the start of a key, for something stands there that is none. -/
def dropKey (layout : Layout) : Option Layout :=
  match layout.keys with
  | some start :: keys => if start.required then none else some { layout with keys := none :: keys }
  | _ => some layout

/-- Remembers that a key may begin here. -/
def saveKey (layout : Layout) : Option Layout :=
  if layout.keyAllowed then do
    let required : Bool :=
      !layout.inFlow && layout.indents.head? = some layout.position.column
    let start : KeyStart := ⟨required, layout.tokens.size, layout.position⟩
    let layout ← layout.dropKey
    return { layout with keys := some start :: layout.keys.drop 1 }
  else some layout

/-! ## Indentation -/

/-- Closes what is indented deeper than `stays` allows. -/
def closeWhile (closes : Nat → Bool) (layout : Layout) : Layout :=
  if layout.inFlow then layout
  else
    let closed := layout.indents.takeWhile closes
    { layout with
      indents := layout.indents.dropWhile closes
      tokens := closed.foldl (fun tokens _ => tokens.push .close) layout.tokens }

def closeAll (layout : Layout) : Layout := layout.closeWhile fun _ => true

/-- Opens something indented at a column that is deeper than all that is open, with its token at
some place among the tokens. -/
def openAt (column place : Nat) (token : Token) (layout : Layout) : Layout :=
  if layout.inFlow || layout.indents.head?.any (column ≤ ·) then layout
  else { layout with
    indents := column :: layout.indents
    tokens := layout.tokens.insertIdxIfInBounds place token }

def openHere (token : Token) (layout : Layout) : Layout :=
  layout.openAt layout.position.column layout.tokens.size token

/-! ## Names -/

def isNameChar (c : Char) : Bool := c.isAlphanum || c = '-' || c = '_'

/-- Reads a name behind the mark of an anchor or an alias. -/
def readName (text : Text) : Option (Text × Text) :=
  let name := text.takeWhile isNameChar
  let rest := text.dropWhile isNameChar
  let ended : Bool := match rest with
    | [] => true
    | c :: _ => isPad c || isBreak c || ['?', ':', ',', ']', '}', '%', '@', '\x60'].contains c
  if name.isEmpty || !ended then none else some (name, rest)

/-- Characters of the names of tags; some of them only between angle brackets. -/
def isTagChar (bracketed : Bool) (c : Char) : Bool :=
  isNameChar c || ";/?:@&=+$.!~*'()%".toList.contains c || (bracketed && [',', '[', ']'].contains c)

/-- Decodes the percent signs of the name of a tag. Only bytes below 128 are characters. -/
def decodePercent : Nat → Text → Option Text
  | _, [] => some []
  | skip + 1, _ :: rest => decodePercent skip rest
  | 0, c :: rest =>
    if c = '%' then do
      let decoded ← codePoint? 2 rest
      if decoded.toNat < 128 then return decoded :: (← decodePercent 2 rest) else none
    else return c :: (← decodePercent 0 rest)

/-- Reads the name of a tag that begins with `lead`. -/
def readTagName (bracketed : Bool) (lead text : Text) : Option (Text × Text) := do
  let written := text.takeWhile (isTagChar bracketed)
  if lead.isEmpty && written.isEmpty then none
  return (lead ++ (← decodePercent 0 written), text.dropWhile (isTagChar bracketed))

/-- Reads the short form of a tag, from its first mark on: a handle between marks and a name, or a
name alone. -/
def readShortTag (text : Text) : Option (Text × Text × Text) := do
  let name := (text.drop 1).takeWhile isNameChar
  match (text.drop 1).dropWhile isNameChar with
  | '!' :: rest => do
    let (suffix, rest) ← readTagName false [] rest
    return ('!' :: (name ++ ['!']), suffix, rest)
  | rest => do
    let (suffix, rest) ← if name.isEmpty && !rest.head?.any (isTagChar false) then some ([], rest)
      else readTagName false name rest
    if suffix.isEmpty then return ([], ['!'], rest) else return (['!'], suffix, rest)

/-- Reads a tag: its handle, its name, and what follows. -/
def readTag (inFlow : Bool) (text : Text) : Option (Text × Text × Text) := do
  let (handle, suffix, rest) ← match Text.after? "!<" text with
    | some rest => do
      let (name, rest) ← readTagName true [] rest
      let rest ← Text.after? ">" rest
      pure ([], name, rest)
    | none => readShortTag text
  if endsWord rest || (inFlow && rest.head? = some ',') then return (handle, suffix, rest)
  else none

/-! ## Directives -/

def readVersionPart (text : Text) : Option (Text × Text) :=
  let digits := text.takeWhile Char.isDigit
  if digits.isEmpty || 9 < digits.length then none
  else some (digits, text.dropWhile Char.isDigit)

/-- Reads a directive behind its percent sign. -/
def readDirective (text : Text) : Option (Token × Text) := do
  let name := text.takeWhile isNameChar
  let rest := text.dropWhile isNameChar
  if !endsWord rest then none
  let rest := rest.dropWhile isPad
  let (token, rest) ← if name = "YAML".toList then do
      let (major, rest) ← readVersionPart rest
      let rest ← Text.after? "." rest
      let (minor, rest) ← readVersionPart rest
      pure (Token.version major minor, rest)
    else if name = "TAG".toList then do
      let rest ← Text.after? "!" rest
      let inner := rest.takeWhile isNameChar
      let (handle, rest) : Text × Text ← match rest.dropWhile isNameChar with
        | '!' :: rest => some ('!' :: (inner ++ ['!']), rest)
        | rest => if inner.isEmpty then some (['!'], rest) else none
      if !rest.head?.any isPad then none
      let (lead, rest) ← readTagName true [] (rest.dropWhile isPad)
      if !endsWord rest then none
      pure (Token.tagDirective handle lead, rest)
    else none
  return (token, ← skipLineEnd? rest)

/-! ## Tokens -/

/-- Skips what stands between tokens. A key may begin on a new line outside of brackets. -/
def skipSpace : (fuel : Nat) → Layout → Layout
  | 0, layout => layout
  | fuel + 1, layout =>
    match layout.rest with
    | [] => layout
    | c :: rest =>
      if c = ' ' || (c = '\t' && (layout.inFlow || !layout.keyAllowed)) ||
          (c = '\ufeff' && layout.position.column = 0) then
        skipSpace fuel (layout.advance 1)
      else if c = '#' then
        skipSpace fuel (layout.advanceTo (rest.dropWhile fun c => !isBreak c))
      else if isBreak c then
        let layout := layout.advance 1
        skipSpace fuel (if layout.inFlow then layout else layout.allowKey true)
      else layout

def takeOpening (token : Token) (layout : Layout) : Option Layout := do
  let layout ← layout.saveKey
  return { layout.take 1 token with keys := none :: layout.keys, keyAllowed := true }

def takeClosing (token : Token) (layout : Layout) : Option Layout := do
  let layout ← layout.dropKey
  let keys := if layout.inFlow then layout.keys.drop 1 else layout.keys
  return { layout.take 1 token with keys, keyAllowed := false }

/-- Takes the mark of an item or of a key, which may open what it belongs to. -/
def takeMark (opening token : Token) (allowsInFlow : Bool) (layout : Layout) : Option Layout := do
  if !layout.inFlow && !layout.keyAllowed then none
  let layout ← (layout.openHere opening).dropKey
  return (layout.allowKey (allowsInFlow || !layout.inFlow)).take 1 token

/-- Takes the mark of a value. If a key has begun on the line, its tokens are put in before it. -/
def takeValue (layout : Layout) : Option Layout := do
  match layout.keys with
  | some start :: keys =>
    let layout := { layout with
      keys := none :: keys
      tokens := layout.tokens.insertIdxIfInBounds start.tokens .key }
    return ((layout.openAt start.position.column start.tokens .openFields).allowKey false).take 1
      .value
  | _ =>
    if !layout.inFlow && !layout.keyAllowed then none
    return ((layout.openHere .openFields).allowKey (!layout.inFlow)).take 1 .value

/-- Takes what was read at a place where a key may begin. -/
def takeScanned (token : Token) (rest : Text) (layout : Layout) : Option Layout := do
  let layout ← layout.saveKey
  return ((layout.allowKey false).advanceTo rest).push token

def takeScalar (style : Style) (keyAllowed : Bool) (scanned : Scanned Text) (layout : Layout) :
    Layout :=
  { layout with position := scanned.position, rest := scanned.rest, keyAllowed }.push
    (.scalar style scanned.value)

/-- Takes a mark at the beginning of a line that belongs to no document. -/
def takeOutside (token : Token) (rest : Text) (layout : Layout) : Option Layout := do
  let layout ← layout.closeAll.dropKey
  return ((layout.allowKey false).advanceTo rest).push token

/-- Whether a scalar without quotes can begin with `c` before some text. -/
def beginsPlain (inFlow : Bool) (c : Char) (rest : Text) : Bool :=
  if c = '-' then !rest.head?.any isPad
  else if c = '?' || c = ':' then !inFlow && !endsWord rest
  else !isPad c && !(",[]\x7b\x7d#&*!|>'\"%@\x60".toList.contains c)

/-- Takes the token at some text that is not blank. -/
def takeToken (c : Char) (rest : Text) (layout : Layout) : Option Layout := do
  let atStart : Bool := layout.position.column = 0
  let inFlow := layout.inFlow
  if atStart && c = '%' then
    let (token, rest) ← readDirective rest
    layout.takeOutside token rest
  else if atStart && beginsDocumentMark (c :: rest) then
    layout.takeOutside (if c = '-' then .documentStart else .documentEnd) (rest.drop 2)
  else if c = '[' then layout.takeOpening .openBracket
  else if c = '{' then layout.takeOpening .openBrace
  else if c = ']' then layout.takeClosing .closeBracket
  else if c = '}' then layout.takeClosing .closeBrace
  else if c = ',' then do
    let layout ← layout.dropKey
    return (layout.allowKey true).take 1 .comma
  else if c = '-' && endsWord rest then layout.takeMark .openItems .item true
  else if c = '?' && (inFlow || endsWord rest) then layout.takeMark .openFields .key false
  else if c = ':' && (inFlow || endsWord rest) then layout.takeValue
  else if c = '*' then
    let (name, rest) ← readName rest
    layout.takeScanned (.alias name) rest
  else if c = '&' then
    let (name, rest) ← readName rest
    layout.takeScanned (.anchor name) rest
  else if c = '!' then
    let (handle, suffix, rest) ← readTag inFlow (c :: rest)
    layout.takeScanned (.tag handle suffix) rest
  else if (c = '|' || c = '>') && !inFlow then
    let layout ← layout.dropKey
    let scanned ← readBlockScalar (c = '>') layout.indents.head? (layout.position.next c) rest
    return layout.takeScalar (if c = '|' then .literal else .other) true scanned
  else if c = '\'' then
    let layout ← layout.saveKey
    let scanned ← readSingle .none (layout.position.next c) rest
    return layout.takeScalar .other false scanned
  else if c = '"' then
    let layout ← layout.saveKey
    let scanned ← readDouble 0 .none (layout.position.next c) rest
    return layout.takeScalar .other false scanned
  else if beginsPlain inFlow c rest then
    let layout ← layout.saveKey
    let scanned ← readPlain inFlow layout.innerColumn .none layout.position (c :: rest)
    return layout.takeScalar .plain scanned.value.2 (scanned.map Prod.fst)
  else none

/-- Takes tokens to the end. Each takes at least one character, so that a number of steps above the
length of the text is enough for the tokens and for what stands between them. -/
def takeAll : (fuel : Nat) → Layout → Option (Array Token)
  | 0, _ => none
  | fuel + 1, layout => do
    let layout ← (layout.skipSpace (fuel + 1)).dropStale
    let column := layout.position.column
    match layout.rest with
    | [] => return (← layout.closeAll.dropKey).tokens
    | c :: rest =>
      let layout ← (layout.closeWhile (column < ·)).takeToken c rest
      takeAll fuel layout

end Layout

/-! ## Documents -/

def isDocumentChar (c : Char) : Bool :=
  c = '\t' || c = '\n' || c = '\r' || c = '\x85' || ('\x20' ≤ c && c ≤ '\x7e') ||
    ('\u00a0' ≤ c && c != '\ufffe' && c != '\uffff')

/-- Text with its line breaks as single line feeds. -/
def normalizeBreaks : Text → Text
  | '\r' :: '\n' :: rest => '\n' :: normalizeBreaks rest
  | '\r' :: rest => '\n' :: normalizeBreaks rest
  | '\x85' :: rest => '\n' :: normalizeBreaks rest
  | c :: rest => c :: normalizeBreaks rest
  | [] => []

def tokens? (text : Text) : Option (Array Token) :=
  if text.all isDocumentChar then
    let text := normalizeBreaks text
    (Layout.ofText text).takeAll (text.length + 1)
  else none

end SafeMarkup.Value.Yaml
