import SafeMarkup.Html.Reference

/-!
Contract: markup cut into tags, comments and text.

One token is read at a time, since the element a tag opens decides how the text behind it is read.
Line ends are single line feeds before anything is read. Text comes in one token or several.
-/

namespace SafeMarkup.Html

/-- A start tag. -/
structure StartTag where
  name : String
  attributes : List (String × Text)
  selfClosing : Bool
deriving DecidableEq, Repr

/-- A piece of markup. -/
inductive Token where
  | start (tag : StartTag)
  | stop (name : String)
  | comment
  | characters (content : Text)
  /-- The null character. -/
  | null
  /-- Something malformed that stands for nothing. -/
  | malformed
deriving DecidableEq, Repr

/-- How text is read. -/
inductive Reading where
  /-- Tags, comments and references. -/
  | markup
  /-- References, up to the end tag of a name. -/
  | escapable (name : String)
  /-- Nothing special, up to the end tag of a name. -/
  | raw (name : String)
  /-- A script, whose end tag does not count inside a comment that opened another script. -/
  | script
  /-- Nothing special up to the end. -/
  | plain
deriving DecidableEq, Repr

/-- Spaces between the parts of a tag. -/
def isSpace (c : Char) : Bool := c = '\t' || c = '\n' || c = '\x0c' || c = ' ' || c = '\r'

/-- The replacement character for the null character. -/
def withoutNull (text : Text) : Text := text.map fun c => if c = '\x00' then '\ufffd' else c

/-! ## Tags -/

/-- Names are in small letters. -/
def nameOf (text : Text) : String := String.ofList ((withoutNull text).map Char.toLower)

/-- Reads a value behind its equals sign: the value, and the text behind it. `none` if the text
ends first. -/
def readAttributeValue (text : Text) : Option (Text × Text) :=
  let quoted (quote : Char) (rest : Text) : Option (Text × Text) :=
    match rest.dropWhile (· != quote) with
    | [] => none
    | _ :: behind => some (rest.takeWhile (· != quote), behind)
  match text.dropWhile isSpace with
  | '"' :: rest => quoted '"' rest
  | '\'' :: rest => quoted '\'' rest
  | rest =>
    let ends (c : Char) : Bool := isSpace c || c = '>'
    some (rest.takeWhile fun c => !ends c, rest.dropWhile fun c => !ends c)

/-- Adds an attribute unless its key is there. -/
def addAttribute (key : String) (value : Text) (attributes : List (String × Text)) :
    List (String × Text) :=
  if attributes.any fun (name, _) => name = key then attributes else attributes ++ [(key, value)]

/-- Reads attributes up to the end of a tag: the attributes, whether the tag closes itself, and the
text behind it. Each step of the fuel reads a character. -/
def readAttributes : Nat → List (String × Text) → Text →
    Option (List (String × Text) × Bool × Text)
  | 0, _, _ => none
  | fuel + 1, attributes, text =>
    match text.dropWhile isSpace with
    | [] => none
    | '>' :: rest => some (attributes, false, rest)
    | '/' :: '>' :: rest => some (attributes, true, rest)
    | '/' :: rest => readAttributes fuel attributes rest
    | c :: rest =>
      let ends (c : Char) : Bool := isSpace c || c = '/' || c = '>' || c = '='
      let key := nameOf (c :: rest.takeWhile fun c => !ends c)
      let behind := rest.dropWhile fun c => !ends c
      match behind.dropWhile isSpace with
      | '=' :: rest =>
        match readAttributeValue rest with
        | none => none
        | some (value, rest) =>
          readAttributes fuel (addAttribute key (decode true (withoutNull value)) attributes) rest
      | rest => readAttributes fuel (addAttribute key [] attributes) rest

/-- Reads the rest of a tag from its name on. -/
def readTag (text : Text) : Option (StartTag × Text) :=
  let ends (c : Char) : Bool := isSpace c || c = '/' || c = '>'
  let name := nameOf (text.takeWhile fun c => !ends c)
  (readAttributes (text.length + 1) [] (text.dropWhile fun c => !ends c)).map
    fun (attributes, selfClosing, rest) => (⟨name, attributes, selfClosing⟩, rest)

/-! ## Comments and declarations -/

/-- The text behind a comment, from a place inside it. -/
def afterComment : Text → Text
  | '-' :: '-' :: '>' :: rest => rest
  | '-' :: '-' :: '!' :: '>' :: rest => rest
  | _ :: rest => afterComment rest
  | [] => []

/-- The text behind a comment, from its beginning. -/
def skipComment : Text → Text
  | '>' :: rest => rest
  | '-' :: '>' :: rest => rest
  | rest => afterComment rest

/-- The text behind the next closing bracket. -/
def skipBracket (text : Text) : Text := (text.dropWhile (· != '>')).drop 1

/-- The text before and behind the end of a section of character data. -/
def splitSection : Text → Text × Text
  | ']' :: ']' :: '>' :: rest => ([], rest)
  | c :: rest =>
    let (content, behind) := splitSection rest
    (c :: content, behind)
  | [] => ([], [])

/-- Reads what follows an exclamation mark; `foreign` where sections of character data are. -/
def readDeclaration (foreign : Bool) (text : Text) : List Token × Text :=
  match Text.after? "--" text with
  | some rest => ([.comment], skipComment rest)
  | none =>
    match Text.after? "doctype" ((text.take 7).map Char.toLower) with
    | some _ => ([.malformed], skipBracket text)
    | none =>
      match (if foreign then Text.after? "[CDATA[" text else none) with
      | some rest =>
        let (content, behind) := splitSection rest
        (sectionTokens content, behind)
      | none => ([.malformed, .comment], skipBracket text)
where
  /-- Character data with its null characters apart. -/
  sectionTokens : Text → List Token
    | [] => []
    | c :: rest => (if c = '\x00' then .null else .characters [c]) :: sectionTokens rest

/-! ## Text -/

/-- Whether a tag of a name begins here, with some text before the name. -/
def isTagOf (lead name text : Text) : Bool :=
  let written := (text.take (lead.length + name.length + 1)).map Char.toLower
  match Text.after? (lead ++ name) written with
  | some (c :: _) => isSpace c || c = '/' || c = '>'
  | _ => false

/-- Whether an end tag of a name begins here. -/
def isEndTagOf (name : String) (text : Text) : Bool := isTagOf "</" name text

/-- The text before the end tag of a name, and that tag with the rest. -/
def splitRaw (name : String) : Text → Text × Text
  | [] => ([], [])
  | c :: rest =>
    if isEndTagOf name (c :: rest) then ([], c :: rest)
    else
      let (content, behind) := splitRaw name rest
      (c :: content, behind)

/-- Where a place in a script is. -/
inductive ScriptState where
  | open
  /-- Inside a comment, behind some hyphens. -/
  | comment (hyphens : Nat)
  /-- Inside a script inside a comment, behind some hyphens. -/
  | inner (hyphens : Nat)
deriving DecidableEq, Repr

/-- The state behind the next character of a script. -/
def ScriptState.next (c : Char) (rest : Text) : ScriptState → ScriptState
  | .open => if "<!--".toList.isPrefixOf (c :: rest) then .comment 0 else .open
  | .comment hyphens =>
    if c = '-' then .comment (hyphens + 1)
    else if c = '>' ∧ 2 ≤ hyphens then .open
    else if isTagOf ['<'] "script" (c :: rest) then .inner 0
    else .comment 0
  | .inner hyphens =>
    if c = '-' then .inner (hyphens + 1)
    else if c = '>' ∧ 2 ≤ hyphens then .open
    else if isTagOf "</" "script" (c :: rest) then .comment 0
    else .inner 0

/-- The text of a script before its end tag, and that tag with the rest. -/
def splitScript (state : ScriptState) : Text → Text × Text
  | [] => ([], [])
  | c :: rest =>
    let ended : Bool := match state with
      | .inner _ => false
      | _ => isEndTagOf "script" (c :: rest)
    if ended then ([], c :: rest)
    else
      let (content, behind) := splitScript (state.next c rest) rest
      (c :: content, behind)

/-- The tokens of a text with references. -/
def textTokens (text : Text) : List Token :=
  (if beginsUnterminated text then [.malformed] else []) ++ (pieces text).map .characters

/-- Reads a piece of markup. `foreign` tells whether sections of character data are read. -/
def readMarkup (foreign : Bool) : Text → List Token × Text
  | [] => ([], [])
  | '\x00' :: rest => ([.malformed, .null], rest)
  | '<' :: '!' :: rest => readDeclaration foreign rest
  | '<' :: '?' :: rest => ([.malformed, .comment], skipBracket rest)
  | '<' :: '/' :: '>' :: rest => ([.malformed], rest)
  | '<' :: '/' :: [] => ([.characters ['<'], .characters ['/']], [])
  | '<' :: '/' :: c :: rest =>
    if c.isAlpha then
      match readTag (c :: rest) with
      | some (tag, behind) => ([.stop tag.name], behind)
      | none => ([], [])
    else ([.malformed, .comment], skipBracket (c :: rest))
  | '<' :: [] => ([.characters ['<']], [])
  | '<' :: c :: rest =>
    if c.isAlpha then
      match readTag (c :: rest) with
      | some (tag, behind) => ([.start tag], behind)
      | none => ([], [])
    else if c = '<' ∨ c = '&' ∨ c = '\x00' then ([.malformed, .characters ['<']], c :: rest)
    else ([.malformed, .characters ['<'], .characters [c]], rest)
  | c :: rest =>
    let ends (c : Char) : Bool := c = '<' || c = '\x00'
    (textTokens (c :: rest.takeWhile fun c => !ends c), rest.dropWhile fun c => !ends c)

/-- The tokens of a text that may be empty. -/
def contentTokens (decoded : Bool) (text : Text) : List Token :=
  if text.isEmpty then []
  else if decoded then textTokens (withoutNull text)
  else [.characters (withoutNull text)]

/-- Reads a piece of markup in the way the last tag asks for. Behind text up to an end tag, markup
is read again. -/
def read (reading : Reading) (foreign : Bool) (text : Text) : List Token × Text :=
  match reading with
  | .markup => readMarkup foreign text
  | .escapable name =>
    let (content, behind) := splitRaw name text
    (contentTokens true content, behind)
  | .raw name =>
    let (content, behind) := splitRaw name text
    (contentTokens false content, behind)
  | .script =>
    let (content, behind) := splitScript .open text
    (contentTokens false content, behind)
  | .plain => (contentTokens false text, [])

/-- Text with its line ends as single line feeds, and without a mark of its byte order. -/
def normalizeLines : Text → Text
  | '\r' :: '\n' :: rest => '\n' :: normalizeLines rest
  | '\r' :: rest => '\n' :: normalizeLines rest
  | c :: rest => c :: normalizeLines rest
  | [] => []

def source (markup : Text) : Text :=
  normalizeLines (match markup with
    | '\ufeff' :: rest => rest
    | rest => rest)

end SafeMarkup.Html
