import SafeMarkup.Sanitizer.Forest

/-!
Contract: what holds of all nodes of a forest, and what the passes do to it.

Owns: the tags and texts of a forest at every depth; induction over forests; and one law for each
pass that says which tags and texts it leaves.

Does not own: what a policy accepts, and what is true of single texts.
-/

namespace SafeMarkup

namespace Node

/-! ## Tags and texts at every depth -/

mutual
/-- The tags of a node, at every depth. -/
def tags : Node → List Tag
  | .text _ => []
  | .element tag children => tag :: tagsAll children
termination_by structural node => node

/-- The tags of nodes, at every depth. -/
def tagsAll : List Node → List Tag
  | [] => []
  | node :: nodes => tags node ++ tagsAll nodes
termination_by structural nodes => nodes
end

mutual
/-- The texts of a node, at every depth. -/
def texts : Node → List Text
  | .text content => [content]
  | .element _ children => textsAll children
termination_by structural node => node

/-- The texts of nodes, at every depth. -/
def textsAll : List Node → List Text
  | [] => []
  | node :: nodes => texts node ++ textsAll nodes
termination_by structural nodes => nodes
end

@[simp] theorem tagsAll_append (left right : List Node) :
    tagsAll (left ++ right) = tagsAll left ++ tagsAll right := by
  induction left with
  | nil => rfl
  | cons node nodes inductionHypothesis =>
      rw [List.cons_append, tagsAll, tagsAll, inductionHypothesis, List.append_assoc]

@[simp] theorem textsAll_append (left right : List Node) :
    textsAll (left ++ right) = textsAll left ++ textsAll right := by
  induction left with
  | nil => rfl
  | cons node nodes inductionHypothesis =>
      rw [List.cons_append, textsAll, textsAll, inductionHypothesis, List.append_assoc]

/-- Induction over a forest: over the nodes of a level, and over the children of each element. -/
theorem forest_induction {motive : List Node → Prop} (nil : motive [])
    (text : ∀ content rest, motive rest → motive (.text content :: rest))
    (element : ∀ tag children rest, motive children → motive rest →
      motive (.element tag children :: rest)) :
    ∀ nodes, motive nodes
  | [] => nil
  | .text content :: rest => text content rest (forest_induction nil text element rest)
  | .element tag children :: rest =>
      element tag children rest (forest_induction nil text element children)
        (forest_induction nil text element rest)

/-- A property of every tag and one of every text of a forest. -/
def Every (onTag : Tag → Prop) (onText : Text → Prop) (nodes : List Node) : Prop :=
  (∀ tag ∈ tagsAll nodes, onTag tag) ∧ ∀ text ∈ textsAll nodes, onText text

section Every

variable {onTag : Tag → Prop} {onText : Text → Prop}

@[simp] theorem every_nil : Every onTag onText [] := by
  simp [Every, tagsAll, textsAll]

@[simp] theorem every_cons_text {content : Text} {rest : List Node} :
    Every onTag onText (.text content :: rest) ↔ onText content ∧ Every onTag onText rest := by
  simp only [Every, tagsAll, tags, textsAll, texts, List.nil_append, List.singleton_append,
    List.forall_mem_cons]
  exact and_left_comm

@[simp] theorem every_cons_element {tag : Tag} {children rest : List Node} :
    Every onTag onText (.element tag children :: rest) ↔
      onTag tag ∧ Every onTag onText children ∧ Every onTag onText rest := by
  simp only [Every, tagsAll, tags, textsAll, texts, List.cons_append, List.forall_mem_cons,
    List.forall_mem_append]
  constructor
  · rintro ⟨⟨here, childTags, restTags⟩, childTexts, restTexts⟩
    exact ⟨here, ⟨childTags, childTexts⟩, restTags, restTexts⟩
  · rintro ⟨here, ⟨childTags, childTexts⟩, restTags, restTexts⟩
    exact ⟨⟨here, childTags, restTags⟩, childTexts, restTexts⟩

@[simp] theorem every_append {left right : List Node} :
    Every onTag onText (left ++ right) ↔ Every onTag onText left ∧ Every onTag onText right := by
  simp only [Every, tagsAll_append, textsAll_append, List.forall_mem_append]
  exact and_and_and_comm

end Every
end Node

namespace Policy

open Node

variable (policy : Policy) {onTag : Tag → Prop} {onText : Text → Prop}

/-! ## Clearing -/

/-- What clearing leaves of a text. -/
@[simp] theorem value_clear_cons_text (site : Site) (content : Text) (rest : List Node) :
    (policy.clear site (.text content :: rest)).value =
      .text (escapeText (collapseSpaces content)) :: (policy.clear site rest).value := rfl

/-- What clearing leaves of an element: nothing, or the element with its cleared children. -/
theorem value_clear_cons_element (site : Site) (tag : Tag) (children rest : List Node) :
    (policy.clear site (.element tag children :: rest)).value =
      if (policy.judge site (policy.rewrite tag).value).value.1 then
        .element (policy.judge site (policy.rewrite tag).value).value.2
          (policy.clear site children).value :: (policy.clear site rest).value
      else (policy.clear site rest).value := by
  rw [clear, clearNode]
  simp only [Reported.value_bind]
  generalize (policy.judge site (policy.rewrite tag).value).value = judged
  obtain ⟨kept, left⟩ := judged
  cases kept with
  | true => rfl
  | false => rfl

/-- What clearing leaves is what the policy accepts of the tags, and escaped text. -/
theorem every_clear (site : Site) (nodes : List Node)
    (accepted : ∀ tag ∈ tagsAll nodes, ∀ left,
      (policy.judge site (policy.rewrite tag).value).value = (true, left) → onTag left)
    (escaped : ∀ raw, onText (escapeText raw)) :
    Every onTag onText (policy.clear site nodes).value := by
  induction nodes using forest_induction with
  | nil => exact every_nil
  | text content rest inductionHypothesis =>
      rw [value_clear_cons_text, every_cons_text]
      exact ⟨escaped _, inductionHypothesis accepted⟩
  | element tag children rest childrenHypothesis restHypothesis =>
      simp only [tagsAll, tags, List.cons_append, List.forall_mem_cons,
        List.forall_mem_append] at accepted
      obtain ⟨here, below, behind⟩ := accepted
      rw [value_clear_cons_element]
      generalize judged : (policy.judge site (policy.rewrite tag).value).value = result at here ⊢
      obtain ⟨kept, left⟩ := result
      cases kept with
      | true =>
          rw [if_pos rfl, every_cons_element]
          exact ⟨here left rfl, childrenHypothesis below, restHypothesis behind⟩
      | false =>
          rw [if_neg Bool.false_ne_true]
          exact restHypothesis behind

/-! ## Collapsing -/

/-- A property of texts that holds of what elements collapse into and of what texts join to. -/
structure TextInvariant (onText : Text → Prop) : Prop where
  empty : onText []
  space : onText [' ']
  nbsp : onText [Text.nbsp]
  join : ∀ left right, onText left → onText right → onText (normalize (left ++ right))

/-- An element collapses into nothing or a single space of either kind. -/
theorem collapsed?_eq_some {tag : Tag} {children : List Node} {text : Text}
    (collapsed : policy.collapsed? tag children = some text) :
    text = [] ∨ text = [' '] ∨ text = [Text.nbsp] := by
  unfold collapsed? at collapsed
  split at collapsed
  · exact absurd collapsed nofun
  · simp only at collapsed
    split at collapsed
    · rename_i blank
      obtain rfl := Option.some.inj collapsed
      exact blank.imp_right (Or.imp_right And.left)
    · exact absurd collapsed nofun

theorem TextInvariant.of_collapsed? (invariant : TextInvariant onText) {tag : Tag}
    {children : List Node} {text : Text} (collapsed : policy.collapsed? tag children = some text) :
    onText text := by
  rcases policy.collapsed?_eq_some collapsed with rfl | rfl | rfl
  · exact invariant.empty
  · exact invariant.space
  · exact invariant.nbsp

/-- Joining keeps tags, and what is true of texts if joining two of them keeps it. -/
theorem every_joinFrom (invariant : TextInvariant onText) (before : Option Text)
    (nodes : List Node) (first : ∀ text ∈ before, onText text)
    (every : Every onTag onText nodes) : Every onTag onText (joinFrom before nodes).1 := by
  induction nodes generalizing before with
  | nil =>
      cases before with
      | none => exact every_nil
      | some text => exact every_cons_text.mpr ⟨first text rfl, every_nil⟩
  | cons node rest inductionHypothesis =>
      cases node with
      | text content =>
          obtain ⟨here, behind⟩ := every_cons_text.mp every
          cases before with
          | none => exact inductionHypothesis (some content) (by simpa using here) behind
          | some text =>
              have joined := invariant.join text content (first text rfl) here
              exact inductionHypothesis (some _) (by simpa using joined) behind
      | element tag children =>
          obtain ⟨here, below, behind⟩ := every_cons_element.mp every
          have others : Every onTag onText (joinFrom none rest).1 :=
            inductionHypothesis none (by simp) behind
          cases before with
          | none => exact every_cons_element.mpr ⟨here, below, others⟩
          | some text =>
              exact every_cons_text.mpr
                ⟨first text rfl, every_cons_element.mpr ⟨here, below, others⟩⟩

/-- A round at a level keeps what the levels below keep. -/
theorem every_collapseRound (invariant : TextInvariant onText) {collapse : List Node → List Node}
    (keeps : ∀ nodes, Every onTag onText nodes → Every onTag onText (collapse nodes))
    (nodes : List Node) (every : Every onTag onText nodes) :
    Every onTag onText (policy.collapseRound collapse nodes).1 := by
  induction nodes with
  | nil => exact every_nil
  | cons node rest inductionHypothesis =>
      cases node with
      | text content =>
          obtain ⟨here, behind⟩ := every_cons_text.mp every
          exact every_cons_text.mpr ⟨here, inductionHypothesis behind⟩
      | element tag children =>
          obtain ⟨here, below, behind⟩ := every_cons_element.mp every
          have others := inductionHypothesis behind
          simp only [collapseRound]
          split
          case h_1 => exact every_cons_element.mpr ⟨here, keeps children below, others⟩
          case h_2 => exact others
          case h_3 text collapsed =>
            exact every_cons_text.mpr ⟨invariant.of_collapsed? policy collapsed, others⟩

/-- Rounds keep tags, and what is true of texts if collapsing and joining keep it. -/
theorem every_collapseWithin (invariant : TextInvariant onText) (fuel : Nat) (nodes : List Node)
    (every : Every onTag onText nodes) :
    Every onTag onText (policy.collapseWithin fuel nodes) := by
  induction fuel generalizing nodes with
  | zero => exact every
  | succ fuel inductionHypothesis =>
      have swept := policy.every_collapseRound invariant inductionHypothesis nodes every
      have joined := every_joinFrom invariant none _ (by simp) swept
      simp only [collapseWithin]
      split
      · exact inductionHypothesis _ swept
      · split
        · exact inductionHypothesis _ joined
        · exact joined

theorem every_collapse (invariant : TextInvariant onText) {nodes : List Node}
    (every : Every onTag onText nodes) : Every onTag onText (policy.collapse nodes) :=
  policy.every_collapseWithin invariant _ nodes every

/-! ## The top level -/

theorem collapseRoot_cons_text (content : Text) (rest : List Node) :
    collapseRoot (.text content :: rest) =
      if isBlankText (normalize content) then collapseRoot rest
      else .text content :: collapseRoot rest := by
  by_cases blank : isBlankText (normalize content)
  · simp [collapseRoot, blank]
  · simp [collapseRoot, blank]

@[simp] theorem collapseRoot_cons_element (tag : Tag) (children rest : List Node) :
    collapseRoot (.element tag children :: rest) = .element tag children :: collapseRoot rest :=
  List.filter_cons_of_pos rfl

/-- Dropping blank texts at the top keeps what is true of all others. -/
theorem every_collapseRoot {nodes : List Node} (every : Every onTag onText nodes) :
    Every onTag onText (collapseRoot nodes) := by
  induction nodes with
  | nil => exact every_nil
  | cons node rest inductionHypothesis =>
      cases node with
      | text content =>
          obtain ⟨here, behind⟩ := every_cons_text.mp every
          rw [collapseRoot_cons_text]
          split
          · exact inductionHypothesis behind
          · exact every_cons_text.mpr ⟨here, inductionHypothesis behind⟩
      | element tag children =>
          obtain ⟨here, below, behind⟩ := every_cons_element.mp every
          rw [collapseRoot_cons_element]
          exact every_cons_element.mpr ⟨here, below, inductionHypothesis behind⟩

/-- A piece of the top level: a node that stands there by itself, or a run that is wrapped. -/
inductive Piece where
  | single (node : Node)
  | run (nodes : List Node)

namespace Piece

/-- The nodes of a piece before they are wrapped. -/
def nodes : Piece → List Node
  | single node => [node]
  | run nodes => nodes

/-- The node that a piece becomes. -/
def node (defaultBlock : Text) : Piece → Node
  | single node => node
  | run nodes => .element ⟨defaultBlock, []⟩ nodes

end Piece

/-- The piece of a run, if there is anything in it. -/
def runPiece (run : List Node) : List Piece := if run.isEmpty then [] else [.run run]

/-- The pieces of the top level from a place with a run before it. -/
def piecesFrom : (run : List Node) → List Node → List Piece
  | run, [] => runPiece run
  | run, node :: rest =>
    if policy.needsWrap (!run.isEmpty) node then piecesFrom (run ++ [node]) rest
    else runPiece run ++ .single node :: piecesFrom [] rest

/-- The pieces that wrapping makes of the top level. -/
def pieces (nodes : List Node) : List Piece := piecesFrom policy [] nodes

theorem nodes_runPiece (run : List Node) : (runPiece run).flatMap Piece.nodes = run := by
  cases run with
  | nil => rfl
  | cons node run => exact List.append_nil _

theorem map_node_runPiece (run : List Node) :
    (runPiece run).map (Piece.node policy.defaultBlock) = policy.closeRun run := by
  cases run with
  | nil => rfl
  | cons node run => rfl

theorem nodes_piecesFrom (run nodes : List Node) :
    (policy.piecesFrom run nodes).flatMap Piece.nodes = run ++ nodes := by
  induction nodes generalizing run with
  | nil => rw [piecesFrom, nodes_runPiece, List.append_nil]
  | cons node rest inductionHypothesis =>
      rw [piecesFrom]
      split
      · rw [inductionHypothesis, List.append_assoc, List.singleton_append]
      · rw [List.flatMap_append, List.flatMap_cons, nodes_runPiece, inductionHypothesis]
        rfl

theorem map_node_piecesFrom (run nodes : List Node) :
    (policy.piecesFrom run nodes).map (Piece.node policy.defaultBlock) =
      policy.wrapFrom run nodes := by
  induction nodes generalizing run with
  | nil => rw [piecesFrom, wrapFrom, map_node_runPiece]
  | cons node rest inductionHypothesis =>
      rw [piecesFrom, wrapFrom]
      split
      · exact inductionHypothesis _
      · rw [List.map_append, List.map_cons, map_node_runPiece, inductionHypothesis]
        rfl

/-- Wrapping cuts the top level into pieces, keeps their order and loses nothing. -/
theorem nodes_pieces (nodes : List Node) : (policy.pieces nodes).flatMap Piece.nodes = nodes :=
  policy.nodes_piecesFrom [] nodes

/-- Wrapping puts each run among the pieces into a block. -/
theorem wrap_eq_map_node (nodes : List Node) :
    policy.wrap nodes = (policy.pieces nodes).map (Piece.node policy.defaultBlock) :=
  (policy.map_node_piecesFrom [] nodes).symm

/-- Wrapping adds blocks and nothing else. -/
theorem every_wrap {nodes : List Node} (every : Every onTag onText nodes)
    (block : onTag ⟨policy.defaultBlock, []⟩) : Every onTag onText (policy.wrap nodes) := by
  rw [wrap_eq_map_node]
  rw [← policy.nodes_pieces nodes] at every
  generalize policy.pieces nodes = pieces at every ⊢
  induction pieces with
  | nil => exact every_nil
  | cons piece rest inductionHypothesis =>
      rw [List.flatMap_cons, every_append] at every
      cases piece with
      | single node =>
          change Every onTag onText ([node] ++ rest.map (Piece.node policy.defaultBlock))
          exact every_append.mpr ⟨every.1, inductionHypothesis every.2⟩
      | run nodes => exact every_cons_element.mpr ⟨block, every.1, inductionHypothesis every.2⟩

end Policy
end SafeMarkup
