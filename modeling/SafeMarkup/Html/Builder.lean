import SafeMarkup.Html.Element

/-!
Contract: the state of tree construction and the operations its rules are written in.

The stack of open elements is a list with the current element first and the root last. Formatting
elements are remembered so that they can be opened again where misnested tags have closed them.
-/

namespace SafeMarkup.Html

/-- Which rules apply to a token. -/
inductive Mode where
  | body
  | text
  | table
  | tableText
  | caption
  | columnGroup
  | tableBody
  | row
  | cell
  | select
  | selectInTable
  | template
deriving DecidableEq, Repr

/-- An entry of the list of formatting elements. -/
inductive Formatting where
  | marker
  | element (node : Nat) (tag : StartTag)
deriving DecidableEq, Repr

/-- The state of tree construction. -/
structure Builder where
  tree : Tree
  /-- Open elements, the current one first. -/
  stack : List Nat
  /-- Formatting elements, the last one first. -/
  formatting : List Formatting
  mode : Mode
  /-- The mode to go back to. -/
  returnMode : Mode
  templateModes : List Mode
  /-- Text in a table that is not yet placed, the last first. -/
  pending : List Text
  form : Option Nat
  /-- Content that may not stand in a table is moved in front of it. -/
  fostering : Bool
  /-- The next line feed is dropped. -/
  dropLineFeed : Bool
  /-- How the text behind the token is read. -/
  reading : Reading
  /-- How often content was moved in front of a table. -/
  fostered : Nat

/-- A step of tree construction. -/
abbrev Build := StateM Builder

namespace Builder

/-- The state before the first token: an open root. -/
def initial : Builder :=
  let (root, tree) := Tree.addElement #[] ⟨.html, "html"⟩ []
  ⟨tree, [root], [], .body, .body, [], [], none, false, false, .markup, 0⟩

def root : Nat := 0

def nameOf (builder : Builder) (node : Nat) : ElementName :=
  (builder.tree.nameOf? node).getD ⟨.html, ""⟩

def current (builder : Builder) : Nat := builder.stack.head?.getD root

def currentName (builder : Builder) : ElementName := builder.nameOf builder.current

/-- The name of the element that tokens are seen from: at the root, the body around the markup. -/
def adjustedName (builder : Builder) : ElementName :=
  if builder.stack.length ≤ 1 then ⟨.html, "body"⟩ else builder.currentName

/-- Whether an element of the main vocabulary with a name is open. -/
def hasOpen (builder : Builder) (name : String) : Bool :=
  builder.stack.any fun node => builder.nameOf node == ⟨.html, name⟩

/-- Whether an open element is found before one that ends the scope. -/
def inScopeFrom (builder : Builder) (ends : ElementName → Bool) (wanted : Nat → Bool) :
    List Nat → Bool
  | [] => false
  | node :: rest =>
    if wanted node then true
    else if ends (builder.nameOf node) then false
    else inScopeFrom builder ends wanted rest

/-- Whether an element with a name is in scope. -/
def inScope (builder : Builder) (ends : ElementName → Bool) (name : String) : Bool :=
  builder.inScopeFrom ends (fun node => builder.nameOf node == ⟨.html, name⟩) builder.stack

/-- The mode of a selection below some open elements. -/
def selectMode (builder : Builder) : List Nat → Mode
  | [] => .select
  | node :: rest =>
    let name := builder.nameOf node
    if name == ⟨.html, "template"⟩ then .select
    else if name == ⟨.html, "table"⟩ then .selectInTable
    else selectMode builder rest

/-- The mode that fits the innermost of some open elements that has one. -/
def fittingModeFrom (builder : Builder) : List Nat → Mode
  | [] => .body
  | [_] => .body
  | node :: rest =>
    let name := builder.nameOf node
    if name.vocabulary != .html then fittingModeFrom builder rest
    else match name.name with
      | "select" => builder.selectMode rest
      | "td" => .cell
      | "th" => .cell
      | "tr" => .row
      | "tbody" => .tableBody
      | "thead" => .tableBody
      | "tfoot" => .tableBody
      | "caption" => .caption
      | "colgroup" => .columnGroup
      | "table" => .table
      | "template" => builder.templateModes.head?.getD .body
      | "body" => .body
      | _ => fittingModeFrom builder rest

/-- The mode that fits the open elements. -/
def fittingMode (builder : Builder) : Mode := builder.fittingModeFrom builder.stack

/-- The formatting elements behind the last marker, the last first. -/
def recentFormatting (builder : Builder) : List (Nat × StartTag) :=
  (builder.formatting.takeWhile (· != .marker)).filterMap fun
    | .element node tag => some (node, tag)
    | .marker => none

/-- Whether a formatting element is in the list. -/
def isFormatting (builder : Builder) (node : Nat) : Bool :=
  builder.formatting.any fun
    | .element other _ => other = node
    | .marker => false

/-- Where a node goes. -/
inductive Place where
  | within (parent : Nat)
  /-- In front of a table if that is in the tree, or else in the element below it. -/
  | before (table below : Nat)

/-- The node that new children of an element go to. -/
def contentsOf (builder : Builder) (node : Nat) : Nat :=
  (builder.tree[node]?.bind Entry.contents).getD node

/-- The place in front of the innermost table. -/
def fosterPlace (builder : Builder) : List Nat → Place
  | node :: below :: rest =>
    let name := builder.nameOf node
    if name == ⟨.html, "template"⟩ then .within (builder.contentsOf node)
    else if name == ⟨.html, "table"⟩ then .before node below
    else fosterPlace builder (below :: rest)
  | _ => .within root

/-- The place for content of an element. -/
def placeFor (builder : Builder) (target : Nat) : Place :=
  if builder.fostering && (builder.nameOf target).fostersContent then
    builder.fosterPlace builder.stack
  else .within (builder.contentsOf target)

end Builder

/-! ## Operations -/

namespace Build

def ask {α : Type} (question : Builder → α) : Build α := return question (← get)

def modifyTree (change : Tree → Tree) : Build Unit :=
  modify fun builder => { builder with tree := change builder.tree }

def setMode (mode : Mode) : Build Unit := modify fun builder => { builder with mode }

def modifyStack (change : List Nat → List Nat) : Build Unit :=
  modify fun builder => { builder with stack := change builder.stack }

def modifyFormatting (change : List Formatting → List Formatting) : Build Unit :=
  modify fun builder => { builder with formatting := change builder.formatting }

def pop : Build Unit := modifyStack (List.drop 1)

def close (node : Nat) : Build Unit := modifyStack fun stack => stack.erase node

/-- Closes elements while something holds of their names. -/
def popWhile (holds : ElementName → Bool) : Build Unit :=
  modify fun builder =>
    { builder with stack := builder.stack.dropWhile fun node => holds (builder.nameOf node) }

/-- Closes elements up to and with one of which something holds. -/
def popThrough (holds : ElementName → Bool) : Build Unit := do
  popWhile fun name => !holds name
  pop

/-- Closes elements up to and with one of a name. -/
def popThroughNamed (name : String) : Build Unit := popThrough (· == ⟨.html, name⟩)

/-- Closes elements whose end tags may be left out. -/
def closeImplied : Build Unit := popWhile ElementName.hasImpliedEnd

/-- The same but for elements of a name. -/
def closeImpliedBut (name : String) : Build Unit :=
  popWhile fun element => element.hasImpliedEnd && element != ⟨.html, name⟩

def putNode (place : Builder.Place) (node : Nat) : Build Unit :=
  modifyTree fun tree => match place with
    | .within parent => tree.append parent node
    | .before table below =>
      match tree.parentOf? table with
      | some parent => tree.insertBefore parent table node
      | none => tree.append below node

/-- Puts a text at the place for content of the current element. -/
def insertText (text : Text) : Build Unit := do
  let place ← ask fun builder => builder.placeFor builder.current
  modifyTree fun tree => match place with
    | .within parent => tree.appendText parent text
    | .before table below =>
      match tree.parentOf? table with
      | some parent => tree.insertTextBefore parent table text
      | none => tree.appendText below text

/-- Makes an element that is nowhere in the tree yet. -/
def makeElement (name : ElementName) (attributes : List (String × Text)) : Build Nat :=
  modifyGet fun builder =>
    let (node, tree) := builder.tree.addElement name attributes
    (node, { builder with tree })

/-- Puts a new element at its place without opening it. -/
def insertClosed (name : ElementName) (attributes : List (String × Text)) : Build Nat := do
  let place ← ask fun builder => builder.placeFor builder.current
  let node ← makeElement name attributes
  putNode place node
  return node

/-- Puts a new element at its place and opens it. -/
def insertOpen (name : ElementName) (attributes : List (String × Text)) : Build Nat := do
  let node ← insertClosed name attributes
  modifyStack fun stack => node :: stack
  return node

def openTag (tag : StartTag) : Build Unit := do
  let _ ← insertOpen ⟨.html, tag.name⟩ tag.attributes

/-- Inserts the element of a tag that has no content. -/
def insertVoid (tag : StartTag) : Build Unit := do
  let _ ← insertClosed ⟨.html, tag.name⟩ tag.attributes

/-- Opens an element that no tag asked for. -/
def openImplied (name : String) : Build Unit := do
  let _ ← insertOpen ⟨.html, name⟩ []

def insertComment : Build Unit := do
  let place ← ask fun builder => builder.placeFor builder.current
  let node ← modifyGet fun builder =>
    let (node, tree) := builder.tree.add .comment
    (node, { builder with tree })
  putNode place node

/-- Opens the element of a tag whose text is read in another way. -/
def openRaw (tag : StartTag) (reading : Reading) : Build Unit := do
  openTag tag
  modify fun builder => { builder with returnMode := builder.mode, mode := .text, reading }

def closeParagraph : Build Unit := do
  closeImpliedBut "p"
  popThroughNamed "p"

/-- Closes a paragraph if one is in scope of buttons. -/
def closeOpenParagraph : Build Unit := do
  if ← ask fun builder => builder.inScope ElementName.endsButtonScope "p" then closeParagraph

/-! ## Formatting elements -/

/-- Puts a marker behind the formatting elements. -/
def mark : Build Unit := modifyFormatting fun entries => .marker :: entries

/-- Forgets the formatting elements behind the last marker, and the marker. -/
def forgetToMarker : Build Unit :=
  modifyFormatting fun entries => (entries.dropWhile (· != .marker)).drop 1

def forget (node : Nat) : Build Unit :=
  modifyFormatting fun entries => entries.eraseP fun
    | .element other _ => other = node
    | .marker => false

/-- Puts another entry in the place of a formatting element. -/
def replaceFormatting (node : Nat) (entry : Formatting) : Build Unit :=
  modifyFormatting fun entries => entries.map fun old =>
    match old with
    | .element other _ => if other = node then entry else old
    | .marker => old

/-- Opens the elements of some entries anew, the first of them last. Entries are given the last
first, as they are in the list. -/
def reopen : List Formatting → Build (List Formatting)
  | [] => return []
  | entry :: rest => do
    let rest ← reopen rest
    match entry with
    | .marker => return .marker :: rest
    | .element _ tag => do
      let node ← insertOpen ⟨.html, tag.name⟩ tag.attributes
      return .element node tag :: rest

/-- Opens the formatting elements again that were closed since the last marker. -/
def reopenFormatting : Build Unit := do
  let builder ← get
  let isClosed : Formatting → Bool
    | .marker => false
    | .element node _ => !builder.stack.contains node
  let closed := builder.formatting.takeWhile isClosed
  let others := builder.formatting.dropWhile isClosed
  let opened ← reopen closed
  modifyFormatting fun _ => opened ++ others

/-- Whether two tags have the same name and the same attributes in any order. -/
def sameTag (left right : StartTag) : Bool :=
  left.name = right.name && left.attributes.length = right.attributes.length &&
    left.attributes.all right.attributes.contains

/-- Opens the formatting element of a tag. Of three that are the same, the first is forgotten. -/
def openFormatting (tag : StartTag) : Build Unit := do
  let same ← ask fun builder => builder.recentFormatting.filter fun (_, other) => sameTag tag other
  if 3 ≤ same.length then
    match same.getLast? with
    | some (node, _) => forget node
    | none => pure ()
  let node ← insertOpen ⟨.html, tag.name⟩ tag.attributes
  modifyFormatting fun entries => .element node tag :: entries

/-! ## End tags in general -/

/-- The open elements below the innermost one of a name, unless a special element comes first. -/
def belowNamed (builder : Builder) (name : String) : List Nat → Option (List Nat)
  | [] => none
  | node :: rest =>
    if builder.nameOf node == ⟨.html, name⟩ then some rest
    else if (builder.nameOf node).isSpecial then none
    else belowNamed builder name rest

/-- Closes the innermost element of a name and those in it, unless a special element is among
them. -/
def closeNamed (name : String) : Build Unit := do
  match ← ask fun builder => belowNamed builder name builder.stack with
  | none => pure ()
  | some rest => modifyStack fun _ => rest

/-- Where the copy of a formatting element goes in the list. -/
inductive Bookmark where
  | inPlaceOf (node : Nat)
  | behind (node : Nat)

/-- Moves `last` into copies of the formatting elements between a block and the formatting element
that is closed. `above` are the elements of the stack below the block, innermost first, and
`checked` those already passed; the result is the stack with the copies, the node moved last and
the bookmark. -/
def moveOut (formatted block : Nat) :
    List Nat → (counter : Nat) → (last : Nat) → Bookmark → (checked : List Nat) →
    Build (List Nat × Nat × Bookmark)
  | [], _, last, bookmark, checked => return (checked.reverse, last, bookmark)
  | node :: rest, counter, last, bookmark, checked => do
    if node = formatted then return (checked.reverse ++ node :: rest, last, bookmark)
    else if 3 < counter then
      forget node
      moveOut formatted block rest (counter + 1) last bookmark checked
    else
      match ← ask fun builder => builder.formatting.findSome? fun
          | .element other tag => if other = node then some tag else none
          | .marker => none with
      | none => moveOut formatted block rest (counter + 1) last bookmark checked
      | some tag =>
        let copy ← makeElement ⟨.html, tag.name⟩ tag.attributes
        replaceFormatting node (.element copy tag)
        let bookmark := if last = block then .behind copy else bookmark
        modifyTree fun tree => (tree.detach last).append copy last
        moveOut formatted block rest (counter + 1) copy bookmark (copy :: checked)

/-- Puts the copy of a formatting element into the list, and the old one out of it. The list has its
last element first, so behind a node means before it here. -/
def placeCopy (formatted : Nat) (entry : Formatting) : Bookmark → Build Unit
  | .inPlaceOf node => replaceFormatting node entry
  | .behind node => do
    modifyFormatting fun entries => entries.flatMap fun old =>
      match old with
      | .element other _ => if other = node then [entry, old] else [old]
      | .marker => [old]
    forget formatted

/-- Closes the formatting element of a name once. Blocks in it are moved out, into copies of the
formatting. Whether there may be more to close. -/
def adoptOnce (name : String) : Build Bool := do
  let builder ← get
  match builder.recentFormatting.find? fun (_, tag) => tag.name = name with
  | none =>
    closeNamed name
    return false
  | some (formatted, tag) =>
    if !builder.stack.contains formatted then
      forget formatted
      return false
    else if !builder.inScopeFrom ElementName.endsScope (· == formatted) builder.stack then
      return false
    else
      let inside := builder.stack.takeWhile (· != formatted)
      let below := builder.stack.dropWhile (· != formatted)
      match inside.reverse.find? fun node => (builder.nameOf node).isSpecial with
      | none =>
        modifyStack fun _ => below.drop 1
        forget formatted
        return false
      | some block =>
        let inner := inside.takeWhile (· != block)
        let between := (inside.dropWhile (· != block)).drop 1
        let ancestor := (below.drop 1).head?.getD Builder.root
        let (outer, last, bookmark) ←
          moveOut formatted block (between ++ below) 1 block (.inPlaceOf formatted) []
        modifyTree fun tree => tree.detach last
        let place ← ask fun builder =>
          { builder with stack := inner ++ block :: outer }.placeFor ancestor
        putNode place last
        let copy ← makeElement ⟨.html, tag.name⟩ tag.attributes
        modifyTree fun tree => (tree.moveChildren block copy).append block copy
        placeCopy formatted (.element copy tag) bookmark
        modifyStack fun _ => inner ++ copy :: block :: outer.erase formatted
        return true

/-- Closes the formatting element of a name, some times over. -/
def adoptTimes (name : String) : Nat → Build Unit
  | 0 => pure ()
  | times + 1 => do
    if ← adoptOnce name then adoptTimes name times

/-- Closes the formatting element of a name. -/
def adopt (name : String) : Build Unit := do
  if ← ask fun builder =>
      builder.currentName == ⟨.html, name⟩ && !builder.isFormatting builder.current then pop
  else adoptTimes name 8

end Build
end SafeMarkup.Html
