import SafeMarkup.Value.Yaml.Node
import SafeMarkup.Value.Yaml.Spelling

/-!
Contract: the value of a document, by what is wanted in its places.

Owns: what each kind of place takes, how deep values nest, how often aliases may be followed.
Does not own: which entries have to be there, and which may come twice.

A scalar means text, a Boolean or nothing at all by the place where it stands. Where anything may
stand, it means what it spells or what its tag asks for.
-/

namespace SafeMarkup.Value.Yaml

/-- What is wanted in some place. -/
inductive Schema where
  | anything
  | text
  | flag
  /-- Null, or what is wanted else. -/
  | optional (content : Schema)
  | list (item : Schema)
  /-- A record with any names. -/
  | dictionary (entry : Schema)
  /-- A record with known names. Other entries are left out unless something is wanted there. -/
  | fields (known : List (Text × Schema)) (others : Option Schema)

namespace Schema

/-- What is wanted in the entry of a name. -/
def entry? (name : Text) (known : List (Text × Schema)) (others : Option Schema) :
    Option Schema :=
  (known.lookup name).or others

end Schema

/-! ## Following aliases -/

/-- Reading the value of a node: the number of aliases followed so far, and a failure where nothing
can be read. -/
abbrev Resolve (α : Type) : Type := StateT Nat Option α

namespace Resolve

/-- The node itself, or the one that an alias stands for. In a document of some size aliases are
followed at most a hundred times as often. -/
def follow (document : Document) : Node → Resolve Node
  | .alias index => do
    modify (· + 1)
    if 100 * document.size < (← get) then failure
    document.node? index
  | node => pure node

/-! ## Scalars -/

/-- The text of a scalar, whatever its tag. -/
def text? : Node → Option Value
  | .scalar _ _ text => some (.string text)
  | _ => none

/-- The Boolean of a scalar without quotes, or of a block that a tag makes one. -/
def flag? : Node → Option Value
  | .scalar tag style text =>
    if style = .plain || (style = .literal && tag = some boolTag) then
      (boolWord? text).map .bool
    else none
  | _ => none

/-- Whether a node is null where null may stand; none for a tag of null on something else. -/
def isNull? : Node → Option Bool
  | .scalar none .plain text => some (text.isEmpty || isNullWord text)
  | .scalar (some tag) .plain text =>
    if tag = nullTag then if isNullWord text then some true else none else some false
  | _ => some false

/-- The tag of a node that is no alias. -/
def tag? : Node → Option Text
  | .scalar tag _ _ => tag
  | .list tag _ => tag
  | .record tag _ => tag
  | .alias _ => none

/-- Whether a tag names a kind of its own, so that the node is nothing that is known. -/
def isForeign (tag : Option Text) : Bool := tag.any fun tag => tag.head? = some '!'

/-! ## Collections -/

/-- The entries of a record under their names. A number is no name, and its entry is left out. With
any other key nothing in the record has a name. -/
def named (entries : List (Value × Value)) : List (Text × Value) :=
  let each := entries.mapM fun (key, value) =>
    match key with
    | .string name => some [(name, value)]
    | .number literal => if (Text.toNat? literal).isSome then some [] else none
    | _ => none
  (each.getD []).flatten

/-- How the nodes inside a collection are read; `none` where no collection may begin. -/
abbrev Inner : Type := Option (Schema → Node → Resolve Value)

def items (inner : Inner) (item : Schema) : Node → Resolve (List Value)
  | .list _ nodes => do
    let read ← inner
    nodes.mapM (read item)
  | node => if node.isAbsent then pure [] else failure

/-- The entries of a record, by what is wanted for their names. -/
def entries (inner : Inner) (wanted : Text → Option Schema) :
    Node → Resolve (List (Text × Value))
  | .record _ nodes => do
    let read ← inner
    let entries ← nodes.mapM fun (key, node) => do
      match ← read .text key with
      | .string name =>
        match wanted name with
        | some schema => return [(name, ← read schema node)]
        | none => return []
      | _ => failure
    return entries.flatten
  | node => if node.isAbsent then pure [] else failure

def anything (inner : Inner) (node : Node) : Resolve Value := do
  if isForeign (tag? node) then failure
  match node with
  | .scalar tag style text => scalarValue? tag style text
  | .list _ nodes => do
    let read ← inner
    return .list (← nodes.mapM (read .anything))
  | .record _ nodes => do
    let read ← inner
    let entries ← nodes.mapM fun (key, node) =>
      return (← read .anything key, ← read .anything node)
    return .record (named entries)
  | .alias _ => failure

/-! ## Values -/

/-- The value of a node that is no alias. -/
def settled (inner : Inner) : Schema → Node → Resolve Value
  | .anything, node => anything inner node
  | .text, node => text? node
  | .flag, node => flag? node
  | .optional content, node => do
    if ← isNull? node then return .null else settled inner content node
  | .list item, node => return .list (← items inner item node)
  | .dictionary entry, node => return .record (← entries inner (fun _ => some entry) node)
  | .fields known others, node =>
    return .record (← entries inner (Schema.entry? · known others) node)

/-- The value of a node, with at most `depth` collections one inside the other. -/
def value (document : Document) : (depth : Nat) → Schema → Node → Resolve Value
  | 0, schema, node => do settled none schema (← follow document node)
  | depth + 1, schema, node => do
    settled (some (value document depth)) schema (← follow document node)

end Resolve

/-- The value of a document, if it is what is wanted. -/
def Document.value? (depth : Nat) (schema : Schema) (document : Document) : Option Value := do
  let (value, _) ← (Resolve.value document depth schema document.root).run 0
  return value

end SafeMarkup.Value.Yaml
