import SafeMarkup.Policy.Rewrite
import SafeMarkup.Sanitizer.Normalize

/-!
Contract: the passes of the sanitizer over a tree.

`clear` drops every element the policy does not accept and escapes all text; `collapse` removes
elements that show nothing and joins neighbouring texts; `collapseRoot` drops blank text at the
top; `wrap` puts what is left over at the top into blocks.
-/

namespace SafeMarkup.Policy

/-! ## Clearing -/

/-- Checks a tag: whether its element is kept, and what is left of the tag. -/
def judge (policy : Policy) (site : Site) (tag : Tag) : Reported (Bool × Tag) :=
  match policy.chainFor? tag.name with
  | none => do
    Reported.noteIf policy.verbose (.trace ("!<" ++ tag.name ++ "> is not whitelisted"))
    return (false, tag)
  | some chain => do
    let (verdict, tag) ← Chain.check policy.equivalents false ⟨site, policy.verbose⟩
      (Validator.checkChain chain) tag
    return (verdict == .accepted, tag)

mutual
/-- A node after clearing: itself with what the policy leaves of it, or nothing. -/
def clearNode (policy : Policy) (site : Site) : Node → Reported (List Node)
  | .text content => pure [.text (escapeText (collapseSpaces content))]
  | .element tag children => do
    let rewritten ← policy.rewrite tag
    let (kept, tag) ← policy.judge site rewritten
    if kept then return [.element tag (← clear policy site children)] else return []
termination_by structural node => node

/-- Drops what the policy does not accept, and escapes text. -/
def clear (policy : Policy) (site : Site) : List Node → Reported (List Node)
  | [] => pure []
  | node :: nodes => do
    let first ← clearNode policy site node
    let others ← clear policy site nodes
    return first ++ others
termination_by structural nodes => nodes
end

/-! ## Collapsing -/

/-- Joins neighbouring texts, the text before `nodes` first. Also whether any were joined. -/
def joinFrom : Option Text → List Node → List Node × Bool
  | none, [] => ([], false)
  | some text, [] => ([.text text], false)
  | none, .text content :: rest => joinFrom (some content) rest
  | some text, .text content :: rest =>
    ((joinFrom (some (normalize (text ++ content))) rest).1, true)
  | before, .element tag children :: rest =>
    let (joined, changed) := joinFrom none rest
    ((before.map Node.text).toList ++ .element tag children :: joined, changed)

/-- Joins neighbouring texts. Also whether any were joined. -/
def join (nodes : List Node) : List Node × Bool := joinFrom none nodes

/-- The text an element collapses into if it shows nothing. -/
def collapsed? (policy : Policy) (tag : Tag) (children : List Node) : Option Text :=
  if policy.voidElements.contains tag.name || policy.keepEmpty.contains tag.name then none
  else
    let inner := normalize (Node.renderAll false children)
    if inner = [] ∨ inner = [' '] ∨
      (inner = [Text.nbsp] ∧ policy.keepNbsp.contains tag.name = false) then some inner
    else none

/-- One round over the nodes of a level, with `collapse` for the levels below. Also whether
anything collapsed. -/
def collapseRound (policy : Policy) (collapse : List Node → List Node) :
    List Node → List Node × Bool
  | [] => ([], false)
  | .text content :: rest =>
    let (others, changed) := collapseRound policy collapse rest
    (.text content :: others, changed)
  | .element tag children :: rest =>
    let (others, changed) := collapseRound policy collapse rest
    let children := collapse children
    match policy.collapsed? tag children with
    | none => (.element tag children :: others, changed)
    | some [] => (others, true)
    | some text => (.text text :: others, true)

/-- Rounds at a level until nothing collapses or joins. Each round lowers the weight of the level,
so the weight is fuel enough. -/
def collapseWithin (policy : Policy) : Nat → List Node → List Node
  | 0, nodes => nodes
  | fuel + 1, nodes =>
    let (swept, changed) := collapseRound policy (collapseWithin policy fuel) nodes
    if changed then collapseWithin policy fuel swept
    else
      let (joined, merged) := join swept
      if merged then collapseWithin policy fuel joined else joined

/-- Removes elements that show nothing and joins neighbouring texts, at every level. -/
def collapse (policy : Policy) (nodes : List Node) : List Node :=
  collapseWithin policy (Node.weightAll nodes + 1) nodes

/-! ## The top level -/

def isBlankText (text : Text) : Bool := text = [] || text = [' '] || text = [Text.nbsp]

/-- Drops texts at the top that show nothing. -/
def collapseRoot (nodes : List Node) : List Node :=
  nodes.filter fun
    | .text content => !isBlankText (normalize content)
    | .element .. => true

/-- Whether a node at the top has to stand in a block. Text that shows nothing does only inside a
run that is wrapped already. -/
def needsWrap (policy : Policy) (continuing : Bool) : Node → Bool
  | .element tag _ => !policy.blockElements.contains tag.name
  | .text content => continuing || !isBlankText content

/-- The block around a run, if there is anything in it. -/
def closeRun (policy : Policy) (run : List Node) : List Node :=
  if run.isEmpty then [] else [.element ⟨policy.defaultBlock, []⟩ run]

/-- Wraps from a place with a run before it. -/
def wrapFrom (policy : Policy) : (run : List Node) → List Node → List Node
  | run, [] => policy.closeRun run
  | run, node :: rest =>
    if policy.needsWrap (!run.isEmpty) node then wrapFrom policy (run ++ [node]) rest
    else policy.closeRun run ++ node :: wrapFrom policy [] rest

/-- Puts each run of nodes that may not stand at the top into a block. -/
def wrap (policy : Policy) (nodes : List Node) : List Node := wrapFrom policy [] nodes

end SafeMarkup.Policy
