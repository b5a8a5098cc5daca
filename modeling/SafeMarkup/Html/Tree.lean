import SafeMarkup.Html.Token
import SafeMarkup.Markup.Node

/-!
Contract: the tree under construction.

Nodes have numbers, since construction moves elements about and refers to them from lists of its
own. A text that is put beside a text becomes part of it.
-/

namespace SafeMarkup.Html

/-- The vocabulary an element belongs to. -/
inductive Vocabulary where
  | html
  | svg
  | mathml
deriving DecidableEq, Repr

/-- The name of an element in its vocabulary. -/
structure ElementName where
  vocabulary : Vocabulary
  name : String
deriving DecidableEq, Repr

/-- What a node is. -/
inductive Content where
  | element (name : ElementName) (attributes : List (String × Text))
  | text (content : Text)
  | comment
  /-- The contents of a template, which are not its children. -/
  | fragment
deriving Repr

/-- A node of the tree. -/
structure Entry where
  content : Content
  parent : Option Nat
  children : List Nat
  /-- The fragment with the contents of a template. -/
  contents : Option Nat
deriving Repr

/-- A tree by the numbers of its nodes. -/
abbrev Tree := Array Entry

namespace Tree

/-- The name of a node that is an element. -/
def nameOf? (tree : Tree) (node : Nat) : Option ElementName :=
  match tree[node]? with
  | some ⟨.element name _, _, _, _⟩ => some name
  | _ => none

def attributesOf (tree : Tree) (node : Nat) : List (String × Text) :=
  match tree[node]? with
  | some ⟨.element _ attributes, _, _, _⟩ => attributes
  | _ => []

def childrenOf (tree : Tree) (node : Nat) : List Nat :=
  (tree[node]?.map Entry.children).getD []

def parentOf? (tree : Tree) (node : Nat) : Option Nat := (tree[node]?.bind Entry.parent)

/-- Adds a node that is nowhere in the tree yet. -/
def add (tree : Tree) (content : Content) : Nat × Tree :=
  (tree.size, tree.push ⟨content, none, [], none⟩)

/-- Adds an element. A template gets a fragment for its contents. -/
def addElement (tree : Tree) (name : ElementName) (attributes : List (String × Text)) :
    Nat × Tree :=
  let (node, tree) := tree.add (.element name attributes)
  if name = ⟨.html, "template"⟩ then
    let (contents, tree) := tree.add .fragment
    (node, tree.modify node fun entry => { entry with contents := some contents })
  else (node, tree)

/-- Takes a node away from its parent. -/
def detach (tree : Tree) (node : Nat) : Tree :=
  match tree.parentOf? node with
  | none => tree
  | some parent =>
    (tree.modify parent fun entry => { entry with children := entry.children.erase node }).modify
      node fun entry => { entry with parent := none }

/-- Puts a node behind the last child of another. -/
def append (tree : Tree) (parent node : Nat) : Tree :=
  (tree.modify parent fun entry => { entry with children := entry.children ++ [node] }).modify
    node fun entry => { entry with parent := some parent }

/-- Adds to the text of a node, if it is one. -/
def extendText? (tree : Tree) (node : Nat) (text : Text) : Option Tree :=
  match tree[node]? with
  | some ⟨.text _, _, _, _⟩ => some (tree.modify node fun entry =>
      match entry.content with
      | .text content => { entry with content := .text (content ++ text) }
      | _ => entry)
  | _ => none

/-- Puts a text behind the last child of a node. -/
def appendText (tree : Tree) (parent : Nat) (text : Text) : Tree :=
  match (tree.childrenOf parent).getLast?.bind fun last => tree.extendText? last text with
  | some tree => tree
  | none =>
    let (node, tree) := tree.add (.text text)
    tree.append parent node

/-- A list with a node before another. -/
def insertedBefore (sibling node : Nat) : List Nat → List Nat
  | [] => [node]
  | child :: children =>
    if child = sibling then node :: child :: children
    else child :: insertedBefore sibling node children

def childBefore? (sibling : Nat) : List Nat → Option Nat
  | first :: second :: children =>
    if second = sibling then some first else childBefore? sibling (second :: children)
  | _ => none

/-- Puts a node before one of the children of another. -/
def insertBefore (tree : Tree) (parent sibling node : Nat) : Tree :=
  (tree.modify parent fun entry =>
    { entry with children := insertedBefore sibling node entry.children }).modify
    node fun entry => { entry with parent := some parent }

/-- Puts a text before one of the children of a node. -/
def insertTextBefore (tree : Tree) (parent sibling : Nat) (text : Text) : Tree :=
  match (childBefore? sibling (tree.childrenOf parent)).bind fun before =>
      tree.extendText? before text with
  | some tree => tree
  | none =>
    let (node, tree) := tree.add (.text text)
    tree.insertBefore parent sibling node

/-- Moves all children of a node behind those of another. -/
def moveChildren (tree : Tree) (source target : Nat) : Tree :=
  (tree.childrenOf source).foldl (fun tree child => (tree.detach child).append target child) tree

/-! ## Reading off -/

/-- A key as it is written. A declaration of a namespace without a name has an empty lead. -/
def writtenKey (vocabulary : Vocabulary) (key : String) : Text :=
  if vocabulary ≠ .html ∧ key = "xmlns" then ":xmlns" else key

/-- The nodes of a number, and the names of elements that are nested too deeply. Each level takes
one unit of fuel. -/
def fragmentOf (tree : Tree) : (fuel depth : Nat) → (node : Nat) → Fragment
  | 0, _, _ => ⟨[], [], 0⟩
  | fuel + 1, depth, node =>
    match tree[node]? with
    | some ⟨.text content, _, _, _⟩ => ⟨[.text content], [], 0⟩
    | some ⟨.element name attributes, _, children, _⟩ =>
      if Fragment.maxDepth ≤ depth then ⟨[], [name.name.toList], 0⟩
      else
        let inner := children.map (fragmentOf tree fuel (depth + 1))
        let written := attributes.map fun (key, value) =>
          (writtenKey name.vocabulary key, value)
        ⟨[.element ⟨name.name, written⟩ (inner.flatMap Fragment.nodes)],
          inner.flatMap Fragment.dropped, 0⟩
    | _ => ⟨[], [], 0⟩

/-- The children of a node as a fragment. -/
def childrenFragment (tree : Tree) (node : Nat) : Fragment :=
  let parts := (tree.childrenOf node).map (fragmentOf tree (Fragment.maxDepth + 2) 0)
  ⟨parts.flatMap Fragment.nodes, parts.flatMap Fragment.dropped, 0⟩

end Tree
end SafeMarkup.Html
