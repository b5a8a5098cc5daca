import SafeMarkup.Markup.Node
import Mathlib.Data.List.Chain

/-!
Contract: the levels of a forest.

Owns: the levels themselves, at every depth; levels without neighbouring texts; the outline of a
forest, which is what it is without its texts; and how weights add up.

Does not own: what the passes do to a level.
-/

namespace SafeMarkup

namespace Node

/-! ## Levels -/

mutual
/-- The levels below a node: the children of each element in it. -/
def levelsBelow : Node → List (List Node)
  | .text _ => []
  | .element _ children => children :: levelsBelowAll children
termination_by structural node => node

/-- The levels below nodes. -/
def levelsBelowAll : List Node → List (List Node)
  | [] => []
  | node :: nodes => levelsBelow node ++ levelsBelowAll nodes
termination_by structural nodes => nodes
end

/-- The levels of a forest, at every depth. -/
def levels (nodes : List Node) : List (List Node) := nodes :: levelsBelowAll nodes

theorem mem_levelsBelowAll {level nodes : List Node} :
    level ∈ levelsBelowAll nodes ↔
      ∃ tag children, .element tag children ∈ nodes ∧ level ∈ levels children := by
  induction nodes with
  | nil => simp [levelsBelowAll]
  | cons node rest inductionHypothesis =>
      rw [levelsBelowAll, List.mem_append, inductionHypothesis]
      cases node with
      | text content => simp [levelsBelow]
      | element tag children =>
          constructor
          · rintro (below | ⟨otherTag, others, member, below⟩)
            · exact ⟨tag, children, List.mem_cons_self, below⟩
            · exact ⟨otherTag, others, List.mem_cons_of_mem _ member, below⟩
          · rintro ⟨otherTag, others, member, below⟩
            rcases List.mem_cons.mp member with same | member
            · obtain ⟨rfl, rfl⟩ := Node.element.inj same
              exact .inl below
            · exact .inr ⟨otherTag, others, member, below⟩

/-- What holds of all levels holds of the top level and of all levels below its elements. -/
theorem forall_levels_iff {onLevel : List Node → Prop} {nodes : List Node} :
    (∀ level ∈ levels nodes, onLevel level) ↔
      onLevel nodes ∧ ∀ tag children, .element tag children ∈ nodes →
        ∀ level ∈ levels children, onLevel level := by
  rw [levels, List.forall_mem_cons]
  refine and_congr_right fun _ => ?_
  constructor
  · intro below tag children member level inside
    exact below level (mem_levelsBelowAll.mpr ⟨tag, children, member, inside⟩)
  · intro below level inside
    obtain ⟨tag, children, member, inner⟩ := mem_levelsBelowAll.mp inside
    exact below tag children member level inner

/-! ## Neighbours -/

def isText : Node → Bool
  | .text _ => true
  | .element .. => false

/-- No two neighbours of a level are both texts. -/
def TextsApart (level : List Node) : Prop :=
  level.IsChain fun left right => ¬(left.isText ∧ right.isText)

theorem textsApart_cons_text {content : Text} {rest : List Node} :
    TextsApart (.text content :: rest) ↔
      (∀ node ∈ rest.head?, node.isText = false) ∧ TextsApart rest := by
  unfold TextsApart
  rw [List.isChain_cons]
  simp [isText]

@[simp] theorem textsApart_cons_element {tag : Tag} {children rest : List Node} :
    TextsApart (.element tag children :: rest) ↔ TextsApart rest := by
  unfold TextsApart
  rw [List.isChain_cons]
  simp [isText]

/-- What does not begin with a text begins with an element, if with anything. -/
theorem eq_nil_or_cons_element {level : List Node}
    (first : ∀ node ∈ level.head?, node.isText = false) :
    level = [] ∨ ∃ tag children rest, level = .element tag children :: rest := by
  cases level with
  | nil => exact .inl rfl
  | cons node rest =>
      cases node with
      | text content => exact absurd (first _ rfl) Bool.noConfusion
      | element tag children => exact .inr ⟨tag, children, rest, rfl⟩

/-! ## Outlines and weights -/

mutual
/-- A node without texts. -/
def outline : Node → List Node
  | .text _ => []
  | .element tag children => [.element tag (outlineAll children)]
termination_by structural node => node

/-- Nodes without texts, at every depth. -/
def outlineAll : List Node → List Node
  | [] => []
  | node :: nodes => outline node ++ outlineAll nodes
termination_by structural nodes => nodes
end

@[simp] theorem outlineAll_cons_text (content : Text) (rest : List Node) :
    outlineAll (.text content :: rest) = outlineAll rest := rfl

@[simp] theorem outlineAll_cons_element (tag : Tag) (children rest : List Node) :
    outlineAll (.element tag children :: rest) =
      .element tag (outlineAll children) :: outlineAll rest := rfl

@[simp] theorem weightAll_cons_text (content : Text) (rest : List Node) :
    weightAll (.text content :: rest) = 1 + weightAll rest := rfl

@[simp] theorem weightAll_cons_element (tag : Tag) (children rest : List Node) :
    weightAll (.element tag children :: rest) = 2 + weightAll children + weightAll rest := rfl

/-- An element weighs more than its children, and its level more than both. -/
theorem weightAll_lt_of_mem {tag : Tag} {children level : List Node}
    (member : .element tag children ∈ level) : weightAll children < weightAll level := by
  induction level with
  | nil => exact absurd member List.not_mem_nil
  | cons node rest inductionHypothesis =>
      rw [weightAll]
      rcases List.mem_cons.mp member with rfl | member
      · rw [weight]
        omega
      · have behind := inductionHypothesis member
        omega

end Node

end SafeMarkup
