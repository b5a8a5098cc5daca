import SafeMarkup.Dictionary
import SafeMarkup.Report

/-!
Contract: trees of elements and text, their written form and their plain text.

An element has a tag, which is its name with attributes in document order. Keys may come twice in a
tag built by hand or by a rewrite; the first one counts.

Texts in a tree are written as they are, so they have to be escaped before the tree is; only the
no-break space gets its name back. Attribute values are escaped when they are written.
-/

namespace SafeMarkup

/-- An element name with its attributes. -/
structure Tag where
  name : Text
  attributes : List (Text × Text)
deriving DecidableEq, Repr

namespace Tag

/-- The value of the first attribute with a key. -/
def get? (tag : Tag) (key : Text) : Option Text := Dictionary.get? key tag.attributes

/-- Whether some attribute has this key and this value. -/
def hasPair (tag : Tag) (key value : Text) : Bool :=
  tag.attributes.any fun (name, written) => name = key && written = value

end Tag

/-- An element with its children, or a text. -/
inductive Node where
  | element (tag : Tag) (children : List Node)
  | text (content : Text)
deriving Repr

/-- Elements that never have content and have no end tag. -/
def voidElements : List Text :=
  ["area", "base", "br", "col", "embed", "hr", "img", "input", "link", "meta", "param", "source",
   "track", "wbr"]

def isVoidElement (name : Text) : Bool := voidElements.contains name

/-! ## Escaping -/

/-- A character of text by the name of an entity, if it has to be. -/
def escapeChar (c : Char) : Text :=
  if c = '&' then "&amp;"
  else if c = '"' then "&quot;"
  else if c = '\'' then "&apos;"
  else if c = '<' then "&lt;"
  else if c = '>' then "&gt;"
  else [c]

def escapeText (text : Text) : Text := text.flatMap escapeChar

/-- Text with escaped characters back as themselves. -/
def unescapeText : Text → Text
  | '&' :: 'a' :: 'm' :: 'p' :: ';' :: rest => '&' :: unescapeText rest
  | '&' :: 'q' :: 'u' :: 'o' :: 't' :: ';' :: rest => '"' :: unescapeText rest
  | '&' :: 'a' :: 'p' :: 'o' :: 's' :: ';' :: rest => '\'' :: unescapeText rest
  | '&' :: 'l' :: 't' :: ';' :: rest => '<' :: unescapeText rest
  | '&' :: 'g' :: 't' :: ';' :: rest => '>' :: unescapeText rest
  | c :: rest => c :: unescapeText rest
  | [] => []

/-- A character of an attribute value in double quotes. -/
def escapeAttributeChar (c : Char) : Text :=
  if c = '&' then "&amp;"
  else if c = '"' then "&quot;"
  else if c = '<' then "&lt;"
  else if c = '>' then "&gt;"
  else [c]

/-- An attribute value for writing in double quotes. -/
def escapeAttribute (value : Text) : Text := value.flatMap escapeAttributeChar

/-! ## Writing -/

/-- Text with its no-break spaces by name. -/
def nameNbsp (text : Text) : Text := text.flatMap fun c => if c = Text.nbsp then "&nbsp;" else [c]

/-- An attribute with the space before it. -/
def renderAttribute (pair : Text × Text) : Text :=
  ' ' :: (pair.1 ++ "=\"" ++ escapeAttribute pair.2 ++ ['"'])

def renderTag (tag : Tag) : Text := '<' :: (tag.name ++ tag.attributes.flatMap renderAttribute)

namespace Node

mutual
/-- A node as markup; with `entities`, no-break spaces are written by name. -/
def render (entities : Bool) : Node → Text
  | .text content => if entities then nameNbsp content else content
  | .element tag children =>
    if isVoidElement tag.name then renderTag tag ++ " />"
    else renderTag tag ++ '>' :: (renderAll entities children ++ "</" ++ tag.name ++ ['>'])
termination_by structural node => node

def renderAll (entities : Bool) : List Node → Text
  | [] => []
  | node :: nodes => render entities node ++ renderAll entities nodes
termination_by structural nodes => nodes
end

def toMarkup (nodes : List Node) : Text := renderAll true nodes

mutual
def plainText : Node → Text
  | .text content => unescapeText content
  | .element _ children => plainTextAll children
termination_by structural node => node

def plainTextAll : List Node → Text
  | [] => []
  | node :: nodes => plainText node ++ plainTextAll nodes
termination_by structural nodes => nodes
end

mutual
/-- A measure that falls when an element becomes text, when a node goes and when texts join. -/
def weight : Node → Nat
  | .text _ => 1
  | .element _ children => 2 + weightAll children
termination_by structural node => node

def weightAll : List Node → Nat
  | [] => 0
  | node :: nodes => weight node + weightAll nodes
termination_by structural nodes => nodes
end

end Node

/-- What a parser makes of markup: nodes, the names of elements it left out because they were nested
too deeply, and how often it moved content in front of a table. -/
structure Fragment where
  nodes : List Node
  dropped : List Text
  fostered : Nat
deriving Repr

namespace Fragment

/-- The deepest nesting that is kept. -/
def maxDepth : Nat := 256

/-- The warning about an element that was left out. -/
def droppedLine (name : Text) : Text :=
  "Dropping <" ++ name ++ "> nested deeper than " ++ Text.ofNat maxDepth ++ " levels."

/-- The warning about content that was moved in front of a table. -/
def fosteredLine : Text := "foster parenting not implemented"

/-- The nodes, with a warning for each piece of content that was moved or left out. -/
def report (fragment : Fragment) : Reported (List Node) :=
  ⟨fragment.nodes, List.replicate fragment.fostered (.warning .parsing fosteredLine) ++
    fragment.dropped.map fun name => .warning .markup (droppedLine name)⟩

end Fragment
end SafeMarkup
