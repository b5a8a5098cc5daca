import SafeMarkup.Proofs.Join
import SafeMarkup.Proofs.Preparation

/-!
Contract: collapsing a forest, as a loop that ends and as one pass from the leaves up.

Owns: the runs of the loop without a bound on its rounds; the pass that each run comes to; the form
of what it leaves; and which elements are left.

Does not own: what collapsing does to the texts of a forest.
-/

namespace SafeMarkup

namespace Node

/-! ## Outlines -/

theorem mem_renderAll (entities : Bool) {nodes : List Node} (elements : outlineAll nodes ≠ []) :
    '<' ∈ renderAll entities nodes := by
  induction nodes with
  | nil => exact absurd rfl elements
  | cons node rest inductionHypothesis =>
      rw [renderAll, List.mem_append]
      cases node with
      | text content => exact .inr (inductionHypothesis elements)
      | element tag children =>
          refine .inl ?_
          rw [render]
          split <;> exact List.mem_append_left _ List.mem_cons_self

/-- A forest without texts whose elements are some of those of another one: each has its tag and its
place, and one that is missing had nothing in it that is left. -/
inductive Pruned : List Node → List Node → Prop where
  | nil : Pruned [] []
  | kept {children inner rest left : List Node} (tag : Tag) (below : Pruned children inner)
      (behind : Pruned rest left) :
      Pruned (.element tag children :: rest) (.element tag inner :: left)
  | gone {children rest left : List Node} (tag : Tag) (below : Pruned children [])
      (behind : Pruned rest left) : Pruned (.element tag children :: rest) left

end Node

namespace Policy

open Node

variable (policy : Policy)

/-! ## The loop and the pass -/

/-- A run of the loop over a level, from what it begins with to what it ends with. A round finds the
children of each element as the loop over them leaves them. -/
inductive Collapses : List Node → List Node → Prop where
  | changed {level swept result : List Node} (below : List Node → List Node)
      (inner : ∀ tag children, .element tag children ∈ level → Collapses children (below children))
      (round : policy.collapseRound below level = (swept, true))
      (others : Collapses swept result) : Collapses level result
  | merged {level swept joined result : List Node} (below : List Node → List Node)
      (inner : ∀ tag children, .element tag children ∈ level → Collapses children (below children))
      (round : policy.collapseRound below level = (swept, false))
      (joins : join swept = (joined, true))
      (others : Collapses joined result) : Collapses level result
  | done {level swept joined : List Node} (below : List Node → List Node)
      (inner : ∀ tag children, .element tag children ∈ level → Collapses children (below children))
      (round : policy.collapseRound below level = (swept, false))
      (joins : join swept = (joined, false)) : Collapses level joined

/-- What an element comes to: itself, nothing, or the text it collapses into. -/
def remnant (tag : Tag) (children : List Node) : List Node :=
  match policy.collapsed? tag children with
  | none => [.element tag children]
  | some [] => []
  | some space => [.text space]

mutual
/-- What a node comes to once its children are settled. -/
def settleNode : Node → List Node
  | .text content => [.text content]
  | .element tag children => policy.remnant tag (join (settleEach children)).1
termination_by structural node => node

/-- What the nodes of a level come to, before they are joined. -/
def settleEach : List Node → List Node
  | [] => []
  | node :: nodes => settleNode node ++ settleEach nodes
termination_by structural nodes => nodes
end

/-- Settles the children of each element, replaces or removes each element that collapses then, and
joins neighbouring texts once. -/
def settle (level : List Node) : List Node := (join (policy.settleEach level)).1

@[simp] theorem settleEach_cons_text (content : Text) (rest : List Node) :
    policy.settleEach (.text content :: rest) = .text content :: policy.settleEach rest := rfl

@[simp] theorem settleEach_cons_element (tag : Tag) (children rest : List Node) :
    policy.settleEach (.element tag children :: rest) =
      policy.remnant tag (policy.settle children) ++ policy.settleEach rest := rfl

/-- A level in its final form. -/
structure SettledLevel (level : List Node) : Prop where
  apart : TextsApart level
  stands : ∀ tag children, .element tag children ∈ level → policy.collapsed? tag children = none

/-- A forest in its final form, at every depth. -/
def Settled (nodes : List Node) : Prop := ∀ level ∈ levels nodes, policy.SettledLevel level

/-- A level of elements that do not collapse and are settled inside. -/
def EachSettled (level : List Node) : Prop :=
  ∀ tag children, .element tag children ∈ level →
    policy.collapsed? tag children = none ∧ policy.Settled children

theorem settled_iff {nodes : List Node} :
    policy.Settled nodes ↔ TextsApart nodes ∧ policy.EachSettled nodes := by
  unfold Settled
  rw [forall_levels_iff]
  constructor
  · rintro ⟨top, below⟩
    exact ⟨top.apart, fun tag children member =>
      ⟨top.stands tag children member, below tag children member⟩⟩
  · rintro ⟨apart, each⟩
    exact ⟨⟨apart, fun tag children member => (each tag children member).1⟩,
      fun tag children member => (each tag children member).2⟩

/-! ## What collapses -/

section Remnant

variable {policy} {tag : Tag} {children : List Node}

theorem remnant_of_none (stands : policy.collapsed? tag children = none) :
    policy.remnant tag children = [.element tag children] := by
  rw [remnant, stands]

theorem remnant_of_some {text : Text} (collapsed : policy.collapsed? tag children = some text) :
    policy.remnant tag children = if text = [] then [] else [.text text] := by
  rw [remnant, collapsed]
  cases text <;> rfl

/-- An element collapses into its own content in its normal form. -/
theorem normalize_of_collapsed? {text : Text}
    (collapsed : policy.collapsed? tag children = some text) :
    normalize (renderAll false children) = text := by
  unfold collapsed? at collapsed
  split at collapsed
  · exact absurd collapsed nofun
  · simp only at collapsed
    split at collapsed
    · exact Option.some.inj collapsed
    · exact absurd collapsed nofun

theorem isBlankText_of_collapsed? {text : Text}
    (collapsed : policy.collapsed? tag children = some text) : isBlankText text := by
  rcases policy.collapsed?_eq_some collapsed with rfl | rfl | rfl
  · rfl
  · rfl
  · rfl

theorem outlineAll_of_collapsed? {text : Text}
    (collapsed : policy.collapsed? tag children = some text) : outlineAll children = [] := by
  -- the tag of an element would show in the text
  by_contra elements
  have shown : '<' ∈ text := by
    rw [← normalize_of_collapsed? collapsed]
    exact mem_normalize (by decide) (by decide) (mem_renderAll false elements)
  rcases policy.collapsed?_eq_some collapsed with rfl | rfl | rfl
  · exact absurd shown List.not_mem_nil
  · exact absurd shown (by decide)
  · exact absurd shown (by decide)

end Remnant

/-! ## The pass -/

theorem settleEach_eq_self {level : List Node} (each : policy.EachSettled level) :
    policy.settleEach level = level := by
  induction level using forest_induction with
  | nil => rfl
  | text content rest inductionHypothesis =>
      have behind : policy.EachSettled rest := fun tag children member =>
        each tag children (List.mem_cons_of_mem _ member)
      rw [settleEach_cons_text, inductionHypothesis behind]
  | element tag children rest childrenHypothesis restHypothesis =>
      have behind : policy.EachSettled rest := fun tag children member =>
        each tag children (List.mem_cons_of_mem _ member)
      obtain ⟨stands, inside⟩ := each tag children List.mem_cons_self
      obtain ⟨apart, childrenSettled⟩ := policy.settled_iff.mp inside
      rw [settleEach_cons_element, settle, childrenHypothesis childrenSettled, join_eq_self apart,
        remnant_of_none stands, restHypothesis behind]
      rfl

/-- The elements that the pass leaves do not collapse and are settled inside. -/
theorem eachSettled_settleEach (level : List Node) :
    policy.EachSettled (policy.settleEach level) := by
  induction level using forest_induction with
  | nil => exact fun _ _ member => absurd member List.not_mem_nil
  | text content rest inductionHypothesis =>
      intro tag children member
      rw [settleEach_cons_text, List.mem_cons] at member
      exact inductionHypothesis tag children (member.resolve_left Node.noConfusion)
  | element tag children rest childrenHypothesis restHypothesis =>
      intro otherTag others member
      rw [settleEach_cons_element, List.mem_append] at member
      rcases member with here | behind
      · cases collapsed : policy.collapsed? tag (policy.settle children) with
        | some text =>
            rw [remnant_of_some collapsed] at here
            split at here <;> simp at here
        | none =>
            rw [remnant_of_none collapsed, List.mem_singleton] at here
            obtain ⟨rfl, rfl⟩ := Node.element.inj here
            refine ⟨collapsed, policy.settled_iff.mpr ⟨textsApart_joinFrom none _, ?_⟩⟩
            intro tag children member
            exact childrenHypothesis tag children ((element_mem_joinFrom none).mp member)
      · exact restHypothesis otherTag others behind

theorem settled_settle (level : List Node) : policy.Settled (policy.settle level) := by
  refine policy.settled_iff.mpr ⟨textsApart_joinFrom none _, ?_⟩
  intro tag children member
  exact policy.eachSettled_settleEach level tag children ((element_mem_joinFrom none).mp member)

theorem settle_eq_self {level : List Node} (settled : policy.Settled level) :
    policy.settle level = level := by
  obtain ⟨apart, each⟩ := policy.settled_iff.mp settled
  rw [settle, policy.settleEach_eq_self each, join_eq_self apart]

/-- Elements that the pass leaves have their tags and places, and those it removes had nothing left
in them. -/
theorem pruned_settleEach (level : List Node) :
    Pruned (outlineAll level) (outlineAll (policy.settleEach level)) := by
  induction level using forest_induction with
  | nil => exact .nil
  | text content rest inductionHypothesis => exact inductionHypothesis
  | element tag children rest childrenHypothesis restHypothesis =>
      rw [← outlineAll_joinFrom none (policy.settleEach children)] at childrenHypothesis
      rw [outlineAll_cons_element, settleEach_cons_element]
      cases collapsed : policy.collapsed? tag (policy.settle children) with
      | none =>
          rw [remnant_of_none collapsed]
          exact .kept tag childrenHypothesis restHypothesis
      | some text =>
          have nothing : outlineAll (policy.settle children) = [] :=
            outlineAll_of_collapsed? collapsed
          have gone : outlineAll (policy.remnant tag (policy.settle children) ++
              policy.settleEach rest) = outlineAll (policy.settleEach rest) := by
            rw [remnant_of_some collapsed]
            split <;> rfl
          rw [gone]
          exact .gone tag (nothing ▸ childrenHypothesis) restHypothesis

/-! ## Rounds -/

theorem collapseRound_cons_text (collapse : List Node → List Node) (content : Text)
    (rest : List Node) :
    policy.collapseRound collapse (.text content :: rest) =
      (.text content :: (policy.collapseRound collapse rest).1,
        (policy.collapseRound collapse rest).2) := rfl

theorem collapseRound_cons_element (collapse : List Node → List Node) (tag : Tag)
    (children rest : List Node) :
    policy.collapseRound collapse (.element tag children :: rest) =
      (policy.remnant tag (collapse children) ++ (policy.collapseRound collapse rest).1,
        (policy.collapsed? tag (collapse children)).isSome ||
          (policy.collapseRound collapse rest).2) := by
  simp only [collapseRound, remnant]
  rcases policy.collapsed? tag (collapse children) with _ | _ | _ <;> rfl

theorem collapseRound_congr {left right : List Node → List Node} {level : List Node}
    (same : ∀ tag children, .element tag children ∈ level → left children = right children) :
    policy.collapseRound left level = policy.collapseRound right level := by
  induction level with
  | nil => rfl
  | cons node rest inductionHypothesis =>
      have behind := inductionHypothesis fun tag children member =>
        same tag children (List.mem_cons_of_mem _ member)
      cases node with
      | text content => rw [collapseRound_cons_text, collapseRound_cons_text, behind]
      | element tag children =>
          rw [collapseRound_cons_element, collapseRound_cons_element, behind,
            same tag children List.mem_cons_self]

theorem collapseRound_settle (level : List Node) :
    (policy.collapseRound policy.settle level).1 = policy.settleEach level := by
  induction level with
  | nil => rfl
  | cons node rest inductionHypothesis =>
      cases node with
      | text content => rw [collapseRound_cons_text, settleEach_cons_text, inductionHypothesis]
      | element tag children =>
          rw [collapseRound_cons_element, settleEach_cons_element, inductionHypothesis]

theorem weightAll_collapseRound {collapse : List Node → List Node}
    (light : ∀ children, weightAll (collapse children) ≤ weightAll children) (level : List Node) :
    weightAll (policy.collapseRound collapse level).1 +
      (policy.collapseRound collapse level).2.toNat ≤ weightAll level := by
  induction level with
  | nil => exact le_rfl
  | cons node rest inductionHypothesis =>
      cases node with
      | text content =>
          simp only [collapseRound_cons_text, weightAll_cons_text]
          omega
      | element tag children =>
          have inside := light children
          simp only [collapseRound_cons_element, weightAll_cons_element]
          cases collapsed : policy.collapsed? tag (collapse children) with
          | none =>
              simp only [remnant_of_none collapsed, List.singleton_append, weightAll_cons_element,
                Option.isSome_none, Bool.false_or]
              omega
          | some text =>
              simp only [remnant_of_some collapsed, Option.isSome_some, Bool.true_or,
                Bool.toNat_true]
              split
              · rw [List.nil_append]
                omega
              · rw [List.singleton_append, weightAll_cons_text]
                omega

/-! ## Runs of the loop -/

theorem swept_eq_settleEach {below : List Node → List Node} {level swept : List Node}
    {changed : Bool}
    (inner : ∀ tag children, .element tag children ∈ level →
      below children = policy.settle children)
    (round : policy.collapseRound below level = (swept, changed)) :
    swept = policy.settleEach level := by
  rw [← policy.collapseRound_settle, ← policy.collapseRound_congr inner, round]

variable {policy}

theorem Collapses.eq_settle {level result : List Node} (run : policy.Collapses level result) :
    result = policy.settle level := by
  induction run with
  | changed below _ round _ inner others =>
      -- what the round left stands, so the rounds behind it only join
      obtain rfl := policy.swept_eq_settleEach inner round
      rw [others, settle, policy.settleEach_eq_self (policy.eachSettled_settleEach _)]
      rfl
  | merged below _ round joins _ inner others =>
      obtain rfl := policy.swept_eq_settleEach inner round
      -- joining touches no element, so the rounds behind it find nothing to do
      obtain rfl : policy.settle _ = _ := congrArg Prod.fst joins
      rw [others]
      exact policy.settle_eq_self (policy.settled_settle _)
  | done below _ round joins inner =>
      obtain rfl := policy.swept_eq_settleEach inner round
      exact (congrArg Prod.fst joins).symm

variable (policy)

theorem weightAll_collapseWithin (fuel : Nat) (level : List Node) :
    weightAll (policy.collapseWithin fuel level) ≤ weightAll level := by
  induction fuel generalizing level with
  | zero => exact le_rfl
  | succ fuel inductionHypothesis =>
      have swept := policy.weightAll_collapseRound inductionHypothesis level
      have joined := weightAll_join (policy.collapseRound (policy.collapseWithin fuel) level).1
      simp only [collapseWithin]
      split
      · exact (inductionHypothesis _).trans (by omega)
      · split
        · exact (inductionHypothesis _).trans (by omega)
        · omega

/-- With a bound above the weight of a level, the loop runs to its end. -/
theorem collapses_collapseWithin (fuel : Nat) (level : List Node)
    (enough : weightAll level < fuel) :
    policy.Collapses level (policy.collapseWithin fuel level) := by
  induction fuel generalizing level with
  | zero => exact absurd enough (Nat.not_lt_zero _)
  | succ fuel inductionHypothesis =>
      -- the levels below and the rounds that follow both weigh less, so one bound serves both
      have light := policy.weightAll_collapseWithin fuel
      have inner : ∀ tag children, .element tag children ∈ level →
          policy.Collapses children (policy.collapseWithin fuel children) := by
        intro tag children member
        have smaller := weightAll_lt_of_mem member
        exact inductionHypothesis children (by omega)
      have sweptLight := policy.weightAll_collapseRound light level
      have joinedLight := weightAll_join (policy.collapseRound (policy.collapseWithin fuel) level).1
      rw [collapseWithin]
      cases round : policy.collapseRound (policy.collapseWithin fuel) level with
      | mk swept changed =>
          cases joins : join swept with
          | mk joined merged =>
              simp only [round, joins] at sweptLight joinedLight ⊢
              cases changed with
              | true =>
                  rw [Bool.toNat_true] at sweptLight
                  exact .changed _ inner round (inductionHypothesis swept (by omega))
              | false =>
                  cases merged with
                  | true =>
                      rw [Bool.toNat_true] at joinedLight
                      exact .merged _ inner round joins (inductionHypothesis joined (by omega))
                  | false => exact .done _ inner round joins

/-- The loop ends from every forest, and ends with nothing but what collapsing gives. -/
theorem collapses_iff {level result : List Node} :
    policy.Collapses level result ↔ result = policy.collapse level := by
  have run : policy.Collapses level (policy.collapse level) :=
    policy.collapses_collapseWithin _ level (Nat.lt_succ_self _)
  constructor
  · intro other
    rw [other.eq_settle, run.eq_settle]
  · rintro rfl
    exact run

theorem collapse_eq_settle (nodes : List Node) : policy.collapse nodes = policy.settle nodes :=
  (policy.collapses_iff.mpr rfl).eq_settle

theorem settled_collapse (nodes : List Node) : policy.Settled (policy.collapse nodes) := by
  rw [collapse_eq_settle]
  exact policy.settled_settle nodes

theorem collapse_eq_self {nodes : List Node} (settled : policy.Settled nodes) :
    policy.collapse nodes = nodes := by
  rw [collapse_eq_settle, policy.settle_eq_self settled]

/-- Collapsing ends from every forest, and however its rounds go it comes to one pass from the
leaves up, which joins each level once. What it leaves is in its final form at every depth, so that
collapsing again changes nothing, and its elements have the tags, the nesting and the order that
they had. -/
theorem collapse_settles (nodes : List Node) :
    (∀ result, policy.Collapses nodes result ↔ result = policy.collapse nodes) ∧
      policy.collapse nodes = policy.settle nodes ∧
      policy.Settled (policy.collapse nodes) ∧
      policy.collapse (policy.collapse nodes) = policy.collapse nodes ∧
      Pruned (outlineAll nodes) (outlineAll (policy.collapse nodes)) := by
  have settled := policy.settled_collapse nodes
  refine ⟨fun result => policy.collapses_iff, policy.collapse_eq_settle nodes, settled,
    policy.collapse_eq_self settled, ?_⟩
  rw [collapse_eq_settle, settle, join, outlineAll_joinFrom]
  exact policy.pruned_settleEach nodes

end Policy
end SafeMarkup
