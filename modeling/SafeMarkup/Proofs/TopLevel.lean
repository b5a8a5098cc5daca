import SafeMarkup.Proofs.Collapse

/-!
Contract: the top level of a forest after all passes over it.

Owns: blank texts, as the passes at the top see them; which pieces wrapping makes of a level without
blank texts; and that a wrapped forest is in its final form, the blocks around its runs included.

Does not own: what stands inside of elements, which wrapping keeps as it is.
-/

namespace SafeMarkup

namespace Policy

open Node

variable (policy : Policy)

/-! ## Blank texts -/

/-- A blank text is in its normal form. -/
theorem normalize_of_isBlankText {text : Text} (blank : isBlankText text) :
    normalize text = text := by
  simp only [isBlankText, Bool.or_eq_true, decide_eq_true_eq] at blank
  rcases blank with (rfl | rfl) | rfl
  · rfl
  · rfl
  · rfl

/-- A level whose texts all show something, also in their normal form. -/
def Shows (level : List Node) : Prop :=
  ∀ content, .text content ∈ level → isBlankText (normalize content) = false

theorem shows_collapseRoot (level : List Node) : Shows (collapseRoot level) := by
  intro content member
  simpa using (List.mem_filter.mp member).2

theorem collapseRoot_eq_self {level : List Node} (noText : ∀ node ∈ level, node.isText = false) :
    collapseRoot level = level := by
  refine List.filter_eq_self.mpr fun node member => ?_
  cases node with
  | text content => exact absurd (noText _ member) Bool.noConfusion
  | element tag children => rfl

theorem needsWrap_text {content : Text} (shown : isBlankText (normalize content) = false)
    (continuing : Bool) : policy.needsWrap continuing (.text content) := by
  have plain : isBlankText content = false := by
    by_contra blank
    rw [Bool.not_eq_false] at blank
    rw [normalize_of_isBlankText blank, blank] at shown
    exact absurd shown (by decide)
  simp [needsWrap, plain]

/-- Dropping blank texts brings no texts together: their neighbours are elements. -/
theorem textsApart_collapseRoot {level : List Node} (apart : TextsApart level) :
    TextsApart (collapseRoot level) := by
  induction level with
  | nil => exact apart
  | cons node rest inductionHypothesis =>
      cases node with
      | text content =>
          obtain ⟨first, restApart⟩ := textsApart_cons_text.mp apart
          have behind := inductionHypothesis restApart
          rw [collapseRoot_cons_text]
          split
          · exact behind
          · refine textsApart_cons_text.mpr ⟨?_, behind⟩
            obtain rfl | ⟨tag, children, others, rfl⟩ := eq_nil_or_cons_element first
            · exact fun _ member => absurd member (by simp [collapseRoot])
            · rw [collapseRoot_cons_element]
              rintro node ⟨⟩
              rfl
      | element tag children =>
          rw [collapseRoot_cons_element, textsApart_cons_element]
          exact inductionHypothesis (textsApart_cons_element.mp apart)

/-! ## Pieces -/

namespace Piece

def isRun : Piece → Bool
  | single _ => false
  | run _ => true

/-- A piece as it may stand at the top: a block by itself, or a run that has something in it and no
block. -/
def Fits (policy : Policy) : Piece → Prop
  | single node => ∃ tag children, node = .element tag children ∧
      policy.blockElements.contains tag.name
  | run nodes => nodes ≠ [] ∧ ∀ tag children, .element tag children ∈ nodes →
      policy.blockElements.contains tag.name = false

end Piece

/-- No two neighbours are both runs. -/
def RunsApart (pieces : List Piece) : Prop :=
  pieces.IsChain fun left right => ¬(left.isRun ∧ right.isRun)

theorem runsApart_piecesFrom (run nodes : List Node) :
    RunsApart (policy.piecesFrom run nodes) := by
  induction nodes generalizing run with
  | nil =>
      rw [piecesFrom, runPiece]
      split
      · exact List.IsChain.nil
      · exact List.IsChain.singleton _
  | cons node rest inductionHypothesis =>
      rw [piecesFrom]
      split
      · exact inductionHypothesis _
      · have single : RunsApart (.single node :: policy.piecesFrom [] rest) :=
          (inductionHypothesis []).cons fun _ _ both => absurd both.1 Bool.noConfusion
        rw [runPiece]
        split
        · exact single
        · refine single.cons ?_
          rintro _ ⟨⟩ both
          exact absurd both.2 Bool.noConfusion

/-- Where all texts show something, each piece fits, a run before the place included. -/
theorem fits_of_mem_piecesFrom (run nodes : List Node) (shows : Shows nodes)
    (inline : ∀ tag children, .element tag children ∈ run →
      policy.blockElements.contains tag.name = false) :
    ∀ piece ∈ policy.piecesFrom run nodes, piece.Fits policy := by
  have ofRun : ∀ {run : List Node}, (∀ tag children, .element tag children ∈ run →
      policy.blockElements.contains tag.name = false) →
        ∀ piece ∈ runPiece run, piece.Fits policy := by
    intro run inline piece member
    rw [runPiece] at member
    split at member
    · exact absurd member List.not_mem_nil
    · rename_i nonempty
      obtain rfl := List.mem_singleton.mp member
      exact ⟨by simpa using nonempty, inline⟩
  induction nodes generalizing run with
  | nil => exact ofRun inline
  | cons node rest inductionHypothesis =>
      have behind : Shows rest := fun content member =>
        shows content (List.mem_cons_of_mem _ member)
      intro piece member
      rw [piecesFrom] at member
      split at member
      case isTrue needed =>
        refine inductionHypothesis (run ++ [node]) behind ?_ piece member
        intro tag children inside
        rcases List.mem_append.mp inside with inside | here
        · exact inline tag children inside
        · obtain rfl := List.mem_singleton.mp here
          simpa [needsWrap] using needed
      case isFalse single =>
        rcases List.mem_append.mp member with inRun | member
        · exact ofRun inline piece inRun
        · rcases List.mem_cons.mp member with rfl | member
          · cases node with
            | text content =>
                exact absurd (policy.needsWrap_text (shows content List.mem_cons_self) _) single
            | element tag children =>
                exact ⟨tag, children, rfl, by simpa [needsWrap] using single⟩
          · exact inductionHypothesis [] behind (fun _ _ inside => absurd inside List.not_mem_nil)
              piece member

/-! ## Blocks around runs -/

variable {policy}

theorem collapsed?_run {tag : Tag} {run : List Node} (nonempty : run ≠ []) (apart : TextsApart run)
    (shows : Shows run) : policy.collapsed? tag run = none := by
  by_contra collapses
  obtain ⟨text, collapsed⟩ := Option.ne_none_iff_exists'.mp collapses
  have onlyTexts := outlineAll_of_collapsed? collapsed
  have normal := normalize_of_collapsed? collapsed
  cases run with
  | nil => exact nonempty rfl
  | cons node rest =>
      cases node with
      | element tag children => exact absurd onlyTexts (by simp)
      | text content =>
          -- with nothing but texts in it, and these apart, the run is this one text
          obtain ⟨first, _⟩ := textsApart_cons_text.mp apart
          obtain rfl | ⟨tag, children, others, rfl⟩ := eq_nil_or_cons_element first
          · have shown := shows content List.mem_cons_self
            have whole : renderAll false [.text content] = content := by
              simp [renderAll, render]
            rw [whole] at normal
            rw [normal, isBlankText_of_collapsed? collapsed] at shown
            exact absurd shown Bool.noConfusion
          · exact absurd onlyTexts (by simp)

variable (policy)

/-! ## Final forms -/

theorem settled_collapseRoot {nodes : List Node} (settled : policy.Settled nodes) :
    policy.Settled (collapseRoot nodes) := by
  obtain ⟨apart, each⟩ := policy.settled_iff.mp settled
  refine policy.settled_iff.mpr ⟨textsApart_collapseRoot apart, ?_⟩
  exact fun tag children member => each tag children (List.mem_of_mem_filter member)

/-- The nodes of a piece stand next to each other in the level it is cut from. -/
theorem infix_of_mem_pieces {nodes : List Node} {piece : Piece}
    (member : piece ∈ policy.pieces nodes) : piece.nodes <:+: nodes := by
  have cut := policy.nodes_pieces nodes
  rw [List.flatMap_def] at cut
  have inside := List.infix_of_mem_flatten (List.mem_map_of_mem (f := Piece.nodes) member)
  rwa [cut] at inside

/-- What a piece becomes is an element that does not collapse and is settled inside. -/
theorem settled_node {nodes : List Node} (settled : policy.Settled nodes) (shows : Shows nodes)
    {piece : Piece} (member : piece ∈ policy.pieces nodes) :
    ∃ tag children, piece.node policy.defaultBlock = .element tag children ∧
      policy.collapsed? tag children = none ∧ policy.Settled children := by
  obtain ⟨apart, each⟩ := policy.settled_iff.mp settled
  have fits := policy.fits_of_mem_piecesFrom [] nodes shows
    (fun _ _ inside => absurd inside List.not_mem_nil) piece member
  have inside := policy.infix_of_mem_pieces member
  cases piece with
  | single node =>
      obtain ⟨tag, children, rfl, _⟩ := fits
      exact ⟨tag, children, rfl, each tag children (inside.subset List.mem_cons_self)⟩
  | run run =>
      have runApart : TextsApart run := List.IsChain.infix apart inside
      have runShows : Shows run := fun content member => shows content (inside.subset member)
      have runEach : policy.EachSettled run := fun tag children member =>
        each tag children (inside.subset member)
      exact ⟨⟨policy.defaultBlock, []⟩, run, rfl, collapsed?_run fits.1 runApart runShows,
        policy.settled_iff.mpr ⟨runApart, runEach⟩⟩

/-- The top level after wrapping holds elements that do not collapse and are settled inside. -/
theorem wrapped_cases {nodes : List Node} (settled : policy.Settled nodes) (shows : Shows nodes)
    {node : Node} (member : node ∈ policy.wrap nodes) :
    ∃ tag children, node = .element tag children ∧
      policy.collapsed? tag children = none ∧ policy.Settled children := by
  rw [wrap_eq_map_node] at member
  obtain ⟨piece, inside, rfl⟩ := List.mem_map.mp member
  exact policy.settled_node settled shows inside

theorem settled_wrap {nodes : List Node} (settled : policy.Settled nodes) (shows : Shows nodes) :
    policy.Settled (policy.wrap nodes) := by
  refine policy.settled_iff.mpr ⟨?_, ?_⟩
  · refine List.Pairwise.isChain (List.pairwise_of_forall_mem_list ?_)
    intro left leftMember right _ both
    obtain ⟨tag, children, rfl, _⟩ := policy.wrapped_cases settled shows leftMember
    exact absurd both.1 Bool.noConfusion
  · intro tag children member
    obtain ⟨_, _, same, stands, inside⟩ := policy.wrapped_cases settled shows member
    obtain ⟨rfl, rfl⟩ := Node.element.inj same
    exact ⟨stands, inside⟩

/-- What wrapping makes of the top level of a forest, piece by piece. -/
structure TopLevel (kept wrapped : List Node) (pieces : List Piece) : Prop where
  wraps : wrapped = pieces.map (Piece.node policy.defaultBlock)
  unwraps : pieces.flatMap Piece.nodes = kept
  fits : ∀ piece ∈ pieces, piece.Fits policy
  apart : RunsApart pieces
  noText : ∀ node ∈ wrapped, node.isText = false
  settled : policy.Settled wrapped
  collapse_eq : policy.collapse wrapped = wrapped
  collapseRoot_eq : collapseRoot wrapped = wrapped

/-- After all passes over a forest the top level is cut into blocks that stand by themselves and
runs of other content, each run in a block that the wrapping adds. No run is empty, holds a block or
has another one beside it; without the added blocks the level is what it was before; and collapsing
and dropping blank texts, the added blocks included, changes nothing any more. -/
theorem wrap_topLevel (nodes : List Node) :
    ∃ pieces, policy.TopLevel (collapseRoot (policy.collapse nodes))
      (policy.wrap (collapseRoot (policy.collapse nodes))) pieces := by
  have shows := shows_collapseRoot (policy.collapse nodes)
  have keptSettled := policy.settled_collapseRoot (policy.settled_collapse nodes)
  have settled := policy.settled_wrap keptSettled shows
  have noText : ∀ node ∈ policy.wrap (collapseRoot (policy.collapse nodes)),
      node.isText = false := by
    intro node member
    obtain ⟨tag, children, rfl, _⟩ := policy.wrapped_cases keptSettled shows member
    rfl
  refine ⟨policy.pieces (collapseRoot (policy.collapse nodes)), ?_⟩
  exact {
    wraps := policy.wrap_eq_map_node _
    unwraps := policy.nodes_pieces _
    fits := policy.fits_of_mem_piecesFrom [] _ shows fun _ _ inside =>
      absurd inside List.not_mem_nil
    apart := policy.runsApart_piecesFrom [] _
    noText
    settled
    collapse_eq := policy.collapse_eq_self settled
    collapseRoot_eq := collapseRoot_eq_self noText }

end Policy
end SafeMarkup
