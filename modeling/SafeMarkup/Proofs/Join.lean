import SafeMarkup.Proofs.Forest
import SafeMarkup.Proofs.Level

/-!
Contract: joining the neighbouring texts of a level.

Owns: that joining leaves no neighbouring texts and leaves a level without them alone; that it does
not touch elements; and the weight that it takes off.

Does not own: what the joined texts say.
-/

namespace SafeMarkup

namespace Policy

open Node

/-! ## Joining -/

/-- The text before a place, as nodes. -/
def waiting (before : Option Text) : List Node := (before.map Node.text).toList

@[simp] theorem waiting_none : waiting none = [] := rfl

@[simp] theorem waiting_some (text : Text) : waiting (some text) = [.text text] := rfl

theorem joinFrom_cons_element (before : Option Text) (tag : Tag) (children rest : List Node) :
    joinFrom before (.element tag children :: rest) =
      (waiting before ++ .element tag children :: (joinFrom none rest).1,
        (joinFrom none rest).2) := by
  cases before <;> rfl

theorem joinFrom_nil (before : Option Text) : joinFrom before [] = (waiting before, false) := by
  cases before <;> rfl

theorem textsApart_joinFrom (before : Option Text) (level : List Node) :
    TextsApart (joinFrom before level).1 := by
  induction level generalizing before with
  | nil =>
      rw [joinFrom_nil]
      cases before with
      | none => exact List.IsChain.nil
      | some text => exact List.IsChain.singleton _
  | cons node rest inductionHypothesis =>
      cases node with
      | text content =>
          cases before with
          | none => exact inductionHypothesis (some content)
          | some text => exact inductionHypothesis _
      | element tag children =>
          have behind := inductionHypothesis none
          rw [joinFrom_cons_element]
          cases before with
          | none => exact textsApart_cons_element.mpr behind
          | some text =>
              refine textsApart_cons_text.mpr ⟨?_, textsApart_cons_element.mpr behind⟩
              rintro node ⟨⟩
              rfl

/-- Joining leaves a level without neighbouring texts alone, the text before it included. -/
theorem joinFrom_eq_self (before : Option Text) {level : List Node}
    (apart : TextsApart (waiting before ++ level)) :
    joinFrom before level = (waiting before ++ level, false) := by
  induction level generalizing before with
  | nil => rw [joinFrom_nil, List.append_nil]
  | cons node rest inductionHypothesis =>
      cases node with
      | text content =>
          cases before with
          | none => exact inductionHypothesis (some content) apart
          | some text =>
              have first := (textsApart_cons_text.mp apart).1 (.text content) rfl
              exact absurd first Bool.noConfusion
      | element tag children =>
          have behind : TextsApart rest :=
            textsApart_cons_element.mp (List.IsChain.right_of_append apart)
          rw [joinFrom_cons_element, inductionHypothesis none behind]
          rfl

theorem join_eq_self {level : List Node} (apart : TextsApart level) : join level = (level, false) :=
  joinFrom_eq_self none apart

theorem element_mem_joinFrom (before : Option Text) {tag : Tag} {children level : List Node} :
    .element tag children ∈ (joinFrom before level).1 ↔ .element tag children ∈ level := by
  have notWaiting (before : Option Text) : .element tag children ∉ waiting before := by
    cases before <;> simp [waiting]
  induction level generalizing before with
  | nil => simp [joinFrom_nil, notWaiting]
  | cons node rest inductionHypothesis =>
      cases node with
      | text content =>
          have behind : .element tag children ∈ Node.text content :: rest ↔
              .element tag children ∈ rest := by simp
          rw [behind]
          cases before with
          | none => exact inductionHypothesis (some content)
          | some text => exact inductionHypothesis _
      | element otherTag otherChildren =>
          have behind := inductionHypothesis none
          rw [joinFrom_cons_element, List.mem_append, or_iff_right (notWaiting before),
            List.mem_cons, List.mem_cons]
          exact or_congr_right behind

/-- Joining changes texts only. -/
theorem outlineAll_joinFrom (before : Option Text) (level : List Node) :
    outlineAll (joinFrom before level).1 = outlineAll level := by
  induction level generalizing before with
  | nil => cases before <;> rfl
  | cons node rest inductionHypothesis =>
      cases node with
      | text content =>
          cases before with
          | none => exact inductionHypothesis (some content)
          | some text => exact inductionHypothesis _
      | element tag children =>
          have behind := inductionHypothesis none
          cases before with
          | none => exact congrArg (Node.element tag (outlineAll children) :: ·) behind
          | some text => exact congrArg (Node.element tag (outlineAll children) :: ·) behind

/-- Joining two texts takes weight off a level. -/
theorem weightAll_joinFrom (before : Option Text) (level : List Node) :
    weightAll (joinFrom before level).1 + (joinFrom before level).2.toNat ≤
      weightAll (waiting before) + weightAll level := by
  induction level generalizing before with
  | nil => simp [joinFrom_nil, weightAll]
  | cons node rest inductionHypothesis =>
      cases node with
      | text content =>
          cases before with
          | none =>
              have behind := inductionHypothesis (some content)
              simp only [joinFrom, waiting_none, waiting_some, weightAll, weight] at behind ⊢
              omega
          | some text =>
              have behind := inductionHypothesis (some (normalize (text ++ content)))
              have bounded : (joinFrom (some (normalize (text ++ content))) rest).2.toNat ≤ 1 :=
                Bool.toNat_le _
              simp only [joinFrom, waiting_some, weightAll, weight, Bool.toNat_true] at behind ⊢
              omega
      | element tag children =>
          have behind := inductionHypothesis none
          cases before with
          | none =>
              simp only [joinFrom_cons_element, waiting_none, weightAll, weight, List.nil_append]
                at behind ⊢
              omega
          | some text =>
              simp only [joinFrom_cons_element, waiting_none, waiting_some, weightAll, weight,
                List.singleton_append] at behind ⊢
              omega

theorem weightAll_join (level : List Node) :
    weightAll (join level).1 + (join level).2.toNat ≤ weightAll level := by
  have bound := weightAll_joinFrom none level
  simp only [waiting_none, weightAll, Nat.zero_add] at bound
  exact bound

end Policy
end SafeMarkup
