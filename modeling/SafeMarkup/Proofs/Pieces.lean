import SafeMarkup.Text.Basic
import Mathlib.Data.List.Infix

/-!
Contract: texts taken apart at one character.

Owns: the pieces between the occurrences of a mark, and the two parts around the first one, each
with the way back to the text.

Does not own: delimiters of several characters.
-/

namespace SafeMarkup.Text

variable {mark : Char} {text : Text}

/-! ## Pieces -/

theorem splitOn_mark_cons (c : Char) (rest : Text) :
    splitOn [mark] (c :: rest) =
      if c = mark then [] :: splitOn [mark] rest else consHead c (splitOn [mark] rest) := by
  have first : [mark].isPrefixOf (c :: rest) = (mark == c) := by simp [List.isPrefixOf]
  simp only [splitOn, List.isEmpty_cons, Bool.false_eq_true, if_false, splitFrom, first,
    List.length_singleton, beq_iff_eq, Nat.sub_self]
  exact if_congr eq_comm rfl rfl

/-- The first piece ends at the first mark. -/
theorem splitOn_append_mark {piece : Text} (unmarked : mark ∉ piece) (rest : Text) :
    splitOn [mark] (piece ++ mark :: rest) = piece :: splitOn [mark] rest := by
  induction piece with
  | nil => rw [List.nil_append, splitOn_mark_cons, if_pos rfl]
  | cons c piece inductionHypothesis =>
      obtain ⟨other, unmarkedRest⟩ := not_or.mp (List.mem_cons.not.mp unmarked)
      rw [List.cons_append, splitOn_mark_cons, if_neg (Ne.symm other),
        inductionHypothesis unmarkedRest]
      rfl

theorem splitOn_nil : splitOn [mark] [] = [[]] := rfl

theorem splitOn_ne_nil (text : Text) : splitOn [mark] text ≠ [] := by
  cases text with
  | nil => exact List.cons_ne_nil _ _
  | cons c rest =>
      rw [splitOn_mark_cons]
      split_ifs
      · exact List.cons_ne_nil _ _
      · cases splitOn [mark] rest <;> exact List.cons_ne_nil _ _

/-- The first piece is where the text begins, and all are parts of it without a mark. -/
theorem splitOn_pieces (text : Text) :
    (∀ piece ∈ (splitOn [mark] text).head?, piece <+: text) ∧
      ∀ piece ∈ splitOn [mark] text, mark ∉ piece ∧ piece <:+: text := by
  induction text with
  | nil => simp [splitOn_nil]
  | cons c rest inductionHypothesis =>
      obtain ⟨begins, pieces⟩ := inductionHypothesis
      have within {piece : Text} (part : piece <:+: rest) : piece <:+: c :: rest :=
        part.trans (List.suffix_cons c rest).isInfix
      rw [splitOn_mark_cons]
      split_ifs with here
      · refine ⟨by simp, ?_⟩
        rintro piece member
        rcases List.mem_cons.mp member with rfl | member
        · exact ⟨List.not_mem_nil, List.nil_infix⟩
        · exact ⟨(pieces piece member).1, within (pieces piece member).2⟩
      · obtain ⟨piece, others, split⟩ := List.exists_cons_of_ne_nil (splitOn_ne_nil rest)
        rw [split] at begins pieces ⊢
        obtain ⟨first, behind⟩ := List.forall_mem_cons.mp pieces
        have begin : c :: piece <+: c :: rest :=
          List.cons_prefix_cons.mpr ⟨rfl, begins piece rfl⟩
        refine ⟨by simpa [consHead] using begin, ?_⟩
        rintro other member
        rcases List.mem_cons.mp member with rfl | member
        · refine ⟨?_, begin.isInfix⟩
          rintro inside
          rcases List.mem_cons.mp inside with same | inside
          · exact here same.symm
          · exact first.1 inside
        · exact ⟨(behind other member).1, within (behind other member).2⟩

theorem not_mem_of_mem_splitOn {piece : Text} (member : piece ∈ splitOn [mark] text) :
    mark ∉ piece :=
  ((splitOn_pieces text).2 piece member).1

theorem infix_of_mem_splitOn {piece : Text} (member : piece ∈ splitOn [mark] text) :
    piece <:+: text :=
  ((splitOn_pieces text).2 piece member).2

/-! ## Two parts -/

/-- A text is split once at the first mark in it. -/
theorem splitOnce_eq_some {before behind : Text} :
    splitOnce mark text = some (before, behind) ↔
      text = before ++ mark :: behind ∧ mark ∉ before := by
  induction text generalizing before with
  | nil => simp [splitOnce]
  | cons c rest inductionHypothesis =>
      rw [splitOnce]
      split_ifs with here
      · subst here
        cases before with
        | nil => simp
        | cons d before =>
            simp only [Option.some.injEq, Prod.mk.injEq, List.nil_eq, reduceCtorEq, false_and,
              List.cons_append, List.cons.injEq, List.mem_cons, not_or, false_iff]
            rintro ⟨⟨same, -⟩, other, -⟩
            exact other same
      · cases before with
        | nil => simp [here]
        | cons d before =>
            simp only [Option.map_eq_some_iff, Prod.exists, Prod.mk.injEq, List.cons.injEq,
              List.cons_append, List.mem_cons, not_or]
            constructor
            · rintro ⟨first, second, split, ⟨rfl, rfl⟩, rfl⟩
              obtain ⟨whole, unmarked⟩ := inductionHypothesis.mp split
              exact ⟨⟨rfl, whole⟩, fun same => here same.symm, unmarked⟩
            · rintro ⟨⟨rfl, whole⟩, -, unmarked⟩
              exact ⟨before, behind, inductionHypothesis.mpr ⟨whole, unmarked⟩, ⟨rfl, rfl⟩, rfl⟩

end SafeMarkup.Text
