import SafeMarkup.Dictionary
import SafeMarkup.Value.Yaml.Layout

/-!
Contract: the nodes of a YAML document and how they nest.

Owns: the nesting of tokens, the full names of tags, the node that an alias names.
Does not own: what a scalar spells, and what a node is read as.

A text holds at most one document. Keys are nodes like all others, and a repeated key is kept. An
alias stays an alias, for a node may hold an alias of itself.
-/

namespace SafeMarkup.Value.Yaml

/-- A node of a document, with its tag if it has one. -/
inductive Node where
  /-- The node with the anchor of some number. -/
  | alias (index : Nat)
  | scalar (tag : Option Text) (style : Style) (text : Text)
  | list (tag : Option Text) (items : List Node)
  | record (tag : Option Text) (entries : List (Node × Node))
deriving Inhabited

namespace Node

def absent (tag : Option Text) : Node := .scalar tag .plain []

/-- Whether a node is a scalar of nothing at all, as one that is left out. -/
def isAbsent : Node → Bool
  | .scalar _ style text => style = .plain && text.isEmpty
  | _ => false

end Node

/-- A document as it was written. -/
structure Document where
  root : Node
  /-- Its scalars and aliases, and twice its collections: they begin and end. -/
  size : Nat
  /-- The numbers of anchors with the places where their nodes begin, the latest first. -/
  anchors : List (Nat × Nat)
  /-- The nodes with anchors, by the places where they begin. -/
  anchored : List (Nat × Node)

/-- The node with the anchor of some number. -/
def Document.node? (index : Nat) (document : Document) : Option Node := do
  let place ← document.anchors.lookup index
  document.anchored.lookup place

/-! ## Reading -/

/-- A document that is read in part. -/
structure Reader where
  tokens : List Token
  handles : Dictionary Text
  /-- The names of anchors with their numbers. -/
  names : Dictionary Nat
  size : Nat
  anchors : List (Nat × Nat)
  anchored : List (Nat × Node)

/-- Reading that may fail. -/
abbrev Read (α : Type) : Type := StateT Reader Option α

namespace Read

def peek : Read (Option Token) := do return (← get).tokens.head?

def skip : Read Unit := modify fun reader => { reader with tokens := reader.tokens.drop 1 }

/-- Whether the next token is a certain one, and moves behind it if so. -/
def accept (token : Token) : Read Bool := do
  if (← peek) = some token then
    skip
    return true
  else return false

/-- Moves behind a token that has to come. -/
def expect (token : Token) : Read Unit := do
  if !(← accept token) then failure

/-- Counts a scalar, an alias, or an end of a collection. -/
def count : Read Unit := modify fun reader => { reader with size := reader.size + 1 }

/-- Reads what stands inside a collection, and counts its two ends. -/
def inside {α : Type} (read : Read α) : Read α := do
  count
  let content ← read
  count
  return content

def absent (tag : Option Text) : Read Node := do
  count
  return .absent tag

/-! ## Properties -/

def tagName (handle suffix : Text) : Read Text := do
  if handle.isEmpty then return suffix
  match Dictionary.get? handle (← get).handles with
  | some lead => return lead ++ suffix
  | none => failure

/-- Reads an anchor, if there is one. -/
def anchor : Read (Option Text) := do
  match ← peek with
  | some (.anchor name) => do
    skip
    return some name
  | _ => return none

/-- Reads a tag, if there is one. -/
def tag : Read (Option Text) := do
  match ← peek with
  | some (.tag handle suffix) => do
    skip
    return some (← tagName handle suffix)
  | _ => return none

/-- Reads the anchor and the tag of a node in either order. -/
def properties : Read (Option Text × Option Text) := do
  match ← anchor with
  | some name => return (some name, ← tag)
  | none => do
    let written ← tag
    return (← anchor, written)

/-- Gives an anchor its number: that of the names before it. A name that comes again thus shares
its number with the next new one, and the later of their nodes counts. -/
def nameAnchor (name : Text) (reader : Reader) : Reader :=
  let index := reader.names.length
  { reader with
    names := Dictionary.insert name index reader.names
    anchors := (index, reader.size) :: reader.anchors }

/-- Reads a node that may have an anchor. The anchor is known inside of the node already. -/
def anchoredAs (name : Option Text) (read : Read Node) : Read Node := do
  match name with
  | none => read
  | some name => do
    let place := (← get).size
    modify (nameAnchor name)
    let node ← read
    modify fun reader => { reader with anchored := (place, node) :: reader.anchored }
    return node

/-! ## Nodes -/

/-- Whether a node is left out before a token, among the parts of a collection. -/
def leavesOut (enders : List Token) (token : Option Token) : Bool :=
  token.all fun token => enders.contains token

mutual
/-- Reads a node; `block` where it may be indented, `bare` where items may come without being
indented. -/
def node : (fuel : Nat) → (block bare : Bool) → Read Node
  | 0, _, _ => failure
  | fuel + 1, block, bare => do
    match ← peek with
    | some (.alias name) => do
      skip
      count
      match Dictionary.get? name (← get).names with
      | some index => return .alias index
      | none => failure
    | _ => do
      let (name, tag) ← properties
      anchoredAs name (content fuel block bare tag (name.isSome || tag.isSome))

/-- Reads a node behind its properties. With properties it may be absent. -/
def content : (fuel : Nat) → (block bare : Bool) → (tag : Option Text) →
    (hasProperties : Bool) → Read Node
  | 0, _, _, _, _ => failure
  | fuel + 1, block, bare, tag, hasProperties => do
    match ← peek with
    | some (.scalar style text) => do
      skip
      count
      return .scalar tag style text
    | some .item =>
      if bare then return .list tag (← inside (bareItems fuel))
      else if hasProperties then absent tag
      else failure
    | some .openBracket => do
      skip
      return .list tag (← inside (flowItems fuel true))
    | some .openBrace => do
      skip
      return .record tag (← inside (flowEntries fuel true))
    | some .openItems =>
      if block then do
        skip
        return .list tag (← inside (blockItems fuel))
      else if hasProperties then absent tag
      else failure
    | some .openFields =>
      if block then do
        skip
        return .record tag (← inside (blockEntries fuel))
      else if hasProperties then absent tag
      else failure
    | _ => if hasProperties then absent tag else failure

/-- Reads a node that may be left out before some tokens. -/
def optionalNode : (fuel : Nat) → (block bare : Bool) → (enders : List Token) → Read Node
  | 0, _, _, _ => failure
  | fuel + 1, block, bare, enders => do
    if leavesOut enders (← peek) then absent none else node fuel block bare

/-- Reads items up to the end of their indentation. -/
def blockItems : (fuel : Nat) → Read (List Node)
  | 0 => failure
  | fuel + 1 => do
    if ← accept .close then return []
    expect .item
    let first ← optionalNode fuel true false [.item, .close]
    return first :: (← blockItems fuel)

/-- Reads items that are not indented by themselves. -/
def bareItems : (fuel : Nat) → Read (List Node)
  | 0 => failure
  | fuel + 1 => do
    if ← accept .item then
      let first ← optionalNode fuel true false [.item, .key, .value, .close]
      return first :: (← bareItems fuel)
    else return []

/-- Reads entries up to the end of their indentation. -/
def blockEntries : (fuel : Nat) → Read (List (Node × Node))
  | 0 => failure
  | fuel + 1 => do
    if ← accept .close then return []
    expect .key
    let enders := [Token.key, .value, .close]
    let key ← optionalNode fuel true true enders
    let value ← if ← accept .value then optionalNode fuel true true enders else absent none
    return (key, value) :: (← blockEntries fuel)

/-- Reads items up to the closing bracket. -/
def flowItems : (fuel : Nat) → (first : Bool) → Read (List Node)
  | 0, _ => failure
  | fuel + 1, first => do
    if ← accept .closeBracket then return []
    if !first then expect .comma
    match ← peek with
    | some .closeBracket => do
      skip
      return []
    | some .key => do
      skip
      let entry ← inside (flowPair fuel)
      return .record none [entry] :: (← flowItems fuel false)
    | _ => do
      let item ← node fuel false false
      return item :: (← flowItems fuel false)

/-- Reads an entry that stands for a record of its own, behind the mark of its key. A key that is
left out takes the token behind its mark away. -/
def flowPair : (fuel : Nat) → Read (Node × Node)
  | 0 => failure
  | fuel + 1 => do
    let enders := [Token.comma, .closeBracket]
    let key ← if leavesOut (.value :: enders) (← peek) then do
        skip
        absent none
      else node fuel false false
    let value ← if ← accept .value then optionalNode fuel false false enders else absent none
    return (key, value)

/-- Reads entries up to the closing brace. -/
def flowEntries : (fuel : Nat) → (first : Bool) → Read (List (Node × Node))
  | 0, _ => failure
  | fuel + 1, first => do
    if ← accept .closeBrace then return []
    if !first then expect .comma
    match ← peek with
    | some .closeBrace => do
      skip
      return []
    | some .key => do
      skip
      let enders := [Token.comma, .closeBrace]
      let key ← optionalNode fuel false false (.value :: enders)
      let value ← if ← accept .value then optionalNode fuel false false enders else absent none
      return (key, value) :: (← flowEntries fuel false)
    | _ => do
      let key ← node fuel false false
      let value ← absent none
      return (key, value) :: (← flowEntries fuel false)
end

/-! ## Documents -/

/-- Reads directives. Each may come once for what it is about. -/
def directives : (fuel : Nat) → (versioned : Bool) → Read Unit
  | 0, _ => failure
  | fuel + 1, versioned => do
    match ← peek with
    | some (.version major minor) => do
      skip
      if versioned || Text.toNat? major != some 1 ||
          !((Text.toNat? minor).any fun minor => minor = 1 || minor = 2) then failure
      directives fuel true
    | some (.tagDirective handle lead) => do
      skip
      if Dictionary.has handle (← get).handles then failure
      modify fun reader => { reader with handles := Dictionary.insert handle lead reader.handles }
      directives fuel versioned
    | _ => pure ()

/-- The handles of tags that need no directive. -/
def usualHandles : Dictionary Text := [("!", ['!']), ("!!", "tag:yaml.org,2002:")]

/-- Reads the content of a document, which may be absent. -/
def documentNode (fuel : Nat) : Read Node := do
  match ← peek with
  | none => absent none
  | some .documentStart => absent none
  | some .documentEnd => absent none
  | some (.version _ _) => absent none
  | some (.tagDirective _ _) => absent none
  | _ => node fuel true false

/-- Moves behind the marks at the end of a document. -/
def documentEnds : (fuel : Nat) → Read Unit
  | 0 => pure ()
  | fuel + 1 => do
    if ← accept .documentEnd then documentEnds fuel

/-- Reads a text with at most one document. -/
def document (fuel : Nat) : Read Node := do
  let begun ← peek
  directives fuel false
  modify fun reader =>
    { reader with handles := reader.handles ++ usualHandles }
  let explicit ← accept .documentStart
  let root ← if explicit then documentNode fuel
    else match begun with
      | none => absent none
      | some (.version _ _) => failure
      | some (.tagDirective _ _) => failure
      | _ => node fuel true false
  documentEnds fuel
  if (← peek).isSome then failure
  return root

end Read

/-- The document of a text, if it is well formed. -/
def Document.ofText? (text : Text) : Option Document := do
  let tokens := (← tokens? text).toList
  let start : Reader := ⟨tokens, [], [], 0, [], []⟩
  let (root, reader) ← (Read.document (4 * tokens.length + 8)).run start
  return ⟨root, reader.size, reader.anchors, reader.anchored⟩

end SafeMarkup.Value.Yaml
