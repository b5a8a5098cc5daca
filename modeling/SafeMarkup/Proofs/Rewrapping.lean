import SafeMarkup.Html.Parser
import SafeMarkup.Proofs.TopLevel
import SafeMarkup.Proofs.Whitelist
import Mathlib.Logic.Function.Iterate

/-!
Contract: wrapping what is wrapped already.

Owns: which levels wrapping leaves alone; that a second wrapping leaves the blocks of the first one
alone if the default block of the policy is one of its block elements; and that otherwise every
further wrapping adds blocks again, so that no number of them comes to an end.

Does not own: which of the two a policy is. A policy compiles with any default block that is
whitelisted.
-/

namespace SafeMarkup

namespace Policy

open Node

variable (policy : Policy)

/-! ## Levels that wrapping leaves alone -/

/-- A node that may stand at the top inside of a run may do so outside of one. -/
theorem needsWrap_false {continuing : Bool} {node : Node}
    (stands : policy.needsWrap continuing node = false) : policy.needsWrap false node = false := by
  cases node with
  | element tag children => exact stands
  | text content =>
      rw [needsWrap, Bool.or_eq_false_iff] at stands
      rw [needsWrap, stands.2, Bool.false_or]

theorem wrap_eq_self {nodes : List Node}
    (stand : ∀ node ∈ nodes, policy.needsWrap false node = false) : policy.wrap nodes = nodes := by
  rw [wrap]
  induction nodes with
  | nil => rfl
  | cons node rest inductionHypothesis =>
      obtain ⟨here, behind⟩ := List.forall_mem_cons.mp stand
      have closed : policy.needsWrap (!([] : List Node).isEmpty) node = false := here
      rw [wrapFrom, closed, if_neg Bool.false_ne_true, inductionHypothesis behind]
      rfl

/-- A node that is a piece by itself may stand at the top. -/
theorem stands_of_single {run nodes : List Node} {node : Node}
    (member : .single node ∈ policy.piecesFrom run nodes) :
    policy.needsWrap false node = false := by
  have notRun {run : List Node} : .single node ∉ runPiece run := by
    rw [runPiece]
    split <;> simp
  induction nodes generalizing run with
  | nil => exact absurd member notRun
  | cons first rest inductionHypothesis =>
      rw [piecesFrom] at member
      split at member
      case isTrue => exact inductionHypothesis member
      case isFalse stands =>
        rcases List.mem_append.mp member with inRun | member
        · exact absurd inRun notRun
        · rcases List.mem_cons.mp member with same | behind
          · obtain rfl := Piece.single.inj same
            exact policy.needsWrap_false (Bool.not_eq_true _ ▸ stands)
          · exact inductionHypothesis behind

theorem weightAll_append (left right : List Node) :
    weightAll (left ++ right) = weightAll left + weightAll right := by
  induction left with
  | nil => simp [weightAll]
  | cons node nodes inductionHypothesis =>
      rw [List.cons_append, weightAll, weightAll, inductionHypothesis, Nat.add_assoc]

/-- Each run that is wrapped adds the weight of a block. -/
theorem weightAll_wrap (nodes : List Node) :
    weightAll (policy.wrap nodes) =
      weightAll nodes + 2 * (policy.pieces nodes).countP Piece.isRun := by
  have kept := policy.nodes_pieces nodes
  rw [wrap_eq_map_node]
  generalize policy.pieces nodes = pieces at kept ⊢
  subst kept
  induction pieces with
  | nil => rfl
  | cons piece rest inductionHypothesis =>
      rw [List.map_cons, weightAll, inductionHypothesis, List.flatMap_cons, weightAll_append,
        List.countP_cons]
      cases piece with
      | single node =>
          simp [Piece.node, Piece.nodes, Piece.isRun, weightAll]
          omega
      | run nodes =>
          simp [Piece.node, Piece.nodes, Piece.isRun, weight]
          omega

/-- Wrapping leaves a level alone if each of its nodes may stand at the top, and only then. -/
theorem wrap_eq_self_iff {nodes : List Node} :
    policy.wrap nodes = nodes ↔ ∀ node ∈ nodes, policy.needsWrap false node = false := by
  refine ⟨fun same => ?_, policy.wrap_eq_self⟩
  have weighed := policy.weightAll_wrap nodes
  rw [same] at weighed
  have noRun : (policy.pieces nodes).countP Piece.isRun = 0 := by omega
  intro node member
  rw [← policy.nodes_pieces nodes] at member
  obtain ⟨piece, inside, member⟩ := List.mem_flatMap.mp member
  cases piece with
  | single other =>
      obtain rfl := List.mem_singleton.mp member
      exact policy.stands_of_single inside
  | run run => exact absurd rfl (List.countP_eq_zero.mp noRun _ inside)

/-! ## Wrapping again -/

/-- Wrapping a second time changes nothing if the added blocks may stand at the top, or if there
are none. -/
theorem wrap_wrap_iff (nodes : List Node) :
    policy.wrap (policy.wrap nodes) = policy.wrap nodes ↔
      policy.defaultBlock ∈ policy.blockElements ∨ policy.wrap nodes = nodes := by
  have block (run : List Node) :
      policy.needsWrap false (.element ⟨policy.defaultBlock, []⟩ run) = false ↔
        policy.defaultBlock ∈ policy.blockElements := by
    simp [needsWrap]
  constructor
  · intro same
    have stand := policy.wrap_eq_self_iff.mp same
    refine or_iff_not_imp_left.mpr fun unblocked => policy.wrap_eq_self fun node member => ?_
    rw [← policy.nodes_pieces nodes] at member
    obtain ⟨piece, inside, member⟩ := List.mem_flatMap.mp member
    cases piece with
    | single other =>
        obtain rfl := List.mem_singleton.mp member
        exact policy.stands_of_single inside
    | run run =>
        have added : .element ⟨policy.defaultBlock, []⟩ run ∈ policy.wrap nodes := by
          rw [wrap_eq_map_node]
          exact List.mem_map.mpr ⟨_, inside, rfl⟩
        exact absurd ((block run).mp (stand _ added)) unblocked
  · rintro (blocked | same)
    · refine policy.wrap_eq_self fun node member => ?_
      rw [wrap_eq_map_node] at member
      obtain ⟨piece, inside, rfl⟩ := List.mem_map.mp member
      cases piece with
      | single node => exact policy.stands_of_single inside
      | run run => exact (block run).mpr blocked
    · rw [same, same]

/-- Blocks that may not stand at the top are wrapped again and again. -/
theorem iterate_wrap_ne (unblocked : policy.defaultBlock ∉ policy.blockElements) {nodes : List Node}
    (changed : policy.wrap nodes ≠ nodes) (rounds : Nat) :
    policy.wrap^[rounds + 1] nodes ≠ policy.wrap^[rounds] nodes := by
  induction rounds with
  | zero => exact changed
  | succ rounds inductionHypothesis =>
      rw [Function.iterate_succ_apply', Function.iterate_succ_apply' policy.wrap rounds]
      intro same
      rcases (policy.wrap_wrap_iff _).mp same with blocked | settled
      · exact unblocked blocked
      · rw [← Function.iterate_succ_apply' policy.wrap] at settled
        exact inductionHypothesis settled

end Policy

namespace PolicySpec

/-- For every policy that compiles, wrapping what is wrapped changes nothing if the default block is
one of the block elements, and if there was nothing to wrap. Otherwise wrapping does not come to an
end: no number of rounds gives what one round more gives. -/
theorem wrap_settles_iff {spec : PolicySpec} {policy : Policy}
    (compiles : spec.compile.value = .ok policy) (nodes : List Node) :
    (policy.wrap (policy.wrap nodes) = policy.wrap nodes ↔
      spec.effectiveDefaultBlock ∈ spec.effectiveBlockElements ∨ policy.wrap nodes = nodes) ∧
    (spec.effectiveDefaultBlock ∉ spec.effectiveBlockElements → policy.wrap nodes ≠ nodes →
      ∀ rounds, policy.wrap^[rounds + 1] nodes ≠ policy.wrap^[rounds] nodes) := by
  obtain ⟨rfl, -⟩ := compile_eq_ok compiles
  have blocks : spec.compiled.defaultBlock ∈ spec.compiled.blockElements ↔
      spec.effectiveDefaultBlock ∈ spec.effectiveBlockElements := List.mem_eraseDups
  refine ⟨?_, fun unblocked => spec.compiled.iterate_wrap_ne (blocks.not.mpr unblocked)⟩
  rw [spec.compiled.wrap_wrap_iff, blocks]

/-- Paragraphs around stray content, which are block elements. -/
def paragraphs : PolicySpec := { empty with elements := [("p", [])] }

/-- Bold face around stray content, which is no block element. -/
def emboldened : PolicySpec :=
  { empty with defaultBlock := some "b", elements := [("b", [])] }

theorem wrap_settles_iff_paragraphs :
    paragraphs.compile.value = .ok paragraphs.compiled ∧
    emboldened.compile.value = .ok emboldened.compiled ∧
    paragraphs.compiled.wrap (paragraphs.compiled.wrap [.text "x"]) =
      paragraphs.compiled.wrap [.text "x"] ∧
    ∀ rounds, emboldened.compiled.wrap^[rounds + 1] [.text "x"] ≠
      emboldened.compiled.wrap^[rounds] [.text "x"] := by
  have compiles : paragraphs.compile.value = .ok paragraphs.compiled := rfl
  have otherCompiles : emboldened.compile.value = .ok emboldened.compiled := rfl
  have changed : emboldened.compiled.wrap [.text "x"] ≠ [.text "x"] := by
    intro same
    exact absurd (congrArg Node.toMarkup same) (by decide)
  obtain ⟨settles, -⟩ := wrap_settles_iff compiles [.text "x"]
  obtain ⟨-, unsettled⟩ := wrap_settles_iff otherCompiles [.text "x"]
  exact ⟨compiles, otherCompiles, settles.mpr (.inl (by decide)), unsettled (by decide) changed⟩

/-- A default block that is no block element is wrapped again, and text in it never converges. -/
theorem wrap_unsettled :
    emboldened.compile.value = .ok emboldened.compiled ∧
    emboldened.compiled.wrap (emboldened.compiled.wrap [.text "x"]) ≠
      emboldened.compiled.wrap [.text "x"] ∧
    ((Sanitizer.ofPolicy Html.parseFragment emboldened.compiled).sanitize "x").value =
      .error ⟨.filtering, 3⟩ := by
  refine ⟨rfl, ?_, by decide +kernel⟩
  intro same
  exact absurd (congrArg Node.toMarkup same) (by decide)

end PolicySpec
end SafeMarkup
