import SafeMarkup.Markup.Node
import Mathlib.Data.List.Infix

/-!
Contract: escaped texts.

Owns: the shape of an escaped character, and the law that the well-escaped texts are exactly those
that escaping gives out.
-/

namespace SafeMarkup

/-! ## Single characters -/

/-- Whether a character stands in text by the name of an entity only. -/
def isSpecial (c : Char) : Bool := c = '&' || c = '"' || c = '\'' || c = '<' || c = '>'

/-- Whether a character can stand behind the ampersand of an entity. -/
def isNameChar (c : Char) : Bool := c.isLower || c = ';'

/-- The entities that special characters are written by. -/
def entities : List Text := ["&amp;", "&quot;", "&apos;", "&lt;", "&gt;"]

theorem isSpecial_iff {c : Char} :
    isSpecial c ↔ c = '&' ∨ c = '"' ∨ c = '\'' ∨ c = '<' ∨ c = '>' := by
  simp [isSpecial, or_assoc]

theorem escapeChar_of_not_isSpecial {c : Char} (plain : ¬isSpecial c) : escapeChar c = [c] := by
  rw [isSpecial_iff] at plain
  push Not at plain
  obtain ⟨notAmp, notQuot, notApos, notLess, notGreater⟩ := plain
  simp [escapeChar, notAmp, notQuot, notApos, notLess, notGreater]

theorem escapeChar_mem_entities {c : Char} (special : isSpecial c) :
    escapeChar c ∈ entities := by
  rcases isSpecial_iff.mp special with rfl | rfl | rfl | rfl | rfl <;> decide

theorem exists_escapeChar_of_mem_entities {entity : Text} (member : entity ∈ entities) :
    ∃ c, isSpecial c ∧ escapeChar c = entity := by
  simp only [entities, List.mem_cons, List.not_mem_nil, or_false] at member
  rcases member with rfl | rfl | rfl | rfl | rfl
  · exact ⟨'&', by decide, rfl⟩
  · exact ⟨'"', by decide, rfl⟩
  · exact ⟨'\'', by decide, rfl⟩
  · exact ⟨'<', by decide, rfl⟩
  · exact ⟨'>', by decide, rfl⟩

/-- A special character is written as an ampersand with a name behind it. -/
theorem escapeChar_of_isSpecial {c : Char} (special : isSpecial c) :
    ∃ name, escapeChar c = '&' :: name ∧ name ≠ [] ∧ ∀ d ∈ name, isNameChar d := by
  rcases isSpecial_iff.mp special with rfl | rfl | rfl | rfl | rfl
  · exact ⟨['a', 'm', 'p', ';'], rfl, by decide, List.all_eq_true.mp rfl⟩
  · exact ⟨['q', 'u', 'o', 't', ';'], rfl, by decide, List.all_eq_true.mp rfl⟩
  · exact ⟨['a', 'p', 'o', 's', ';'], rfl, by decide, List.all_eq_true.mp rfl⟩
  · exact ⟨['l', 't', ';'], rfl, by decide, List.all_eq_true.mp rfl⟩
  · exact ⟨['g', 't', ';'], rfl, by decide, List.all_eq_true.mp rfl⟩

theorem escapeChar_ne_nil (c : Char) : escapeChar c ≠ [] := by
  by_cases special : isSpecial c
  · obtain ⟨name, written, _, _⟩ := escapeChar_of_isSpecial special
    rw [written]
    exact List.cons_ne_nil _ _
  · rw [escapeChar_of_not_isSpecial special]
    exact List.cons_ne_nil _ _

/-- The characters of a special character in writing. -/
theorem mem_escapeChar_of_isSpecial {c d : Char} (special : isSpecial c)
    (member : d ∈ escapeChar c) : d = '&' ∨ isNameChar d := by
  obtain ⟨name, written, _, named⟩ := escapeChar_of_isSpecial special
  rw [written] at member
  exact (List.mem_cons.mp member).imp_right (named d)

theorem not_isSpecial_of_isNameChar {c : Char} (named : isNameChar c) : ¬isSpecial c := by
  intro special
  rcases isSpecial_iff.mp special with rfl | rfl | rfl | rfl | rfl <;>
    exact absurd named (by decide)

@[simp] theorem escapeText_nil : escapeText [] = [] := rfl

theorem escapeText_cons (c : Char) (rest : Text) :
    escapeText (c :: rest) = escapeChar c ++ escapeText rest := List.flatMap_cons

@[simp] theorem escapeText_append (left right : Text) :
    escapeText (left ++ right) = escapeText left ++ escapeText right := List.flatMap_append

/-! ## Well-escaped texts -/

/-- A text without raw special characters, every ampersand of which begins an entity. -/
structure WellEscaped (text : Text) : Prop where
  noneRaw : ∀ c ∈ text, c ≠ '<' ∧ c ≠ '>' ∧ c ≠ '"' ∧ c ≠ '\''
  named : ∀ rest, '&' :: rest <:+ text → ∃ entity ∈ entities, entity <+: '&' :: rest

namespace WellEscaped

theorem nil : WellEscaped [] :=
  ⟨fun _ member => absurd member List.not_mem_nil,
    fun _ suffix => absurd (List.suffix_nil.mp suffix) (List.cons_ne_nil _ _)⟩

theorem of_suffix {left text : Text} (escaped : WellEscaped text) (suffix : left <:+ text) :
    WellEscaped left :=
  ⟨fun c member => escaped.noneRaw c (suffix.subset member),
    fun rest behind => escaped.named rest (behind.trans suffix)⟩

theorem append {left right : Text} (leftEscaped : WellEscaped left)
    (rightEscaped : WellEscaped right) : WellEscaped (left ++ right) := by
  constructor
  · intro c member
    exact (List.mem_append.mp member).elim (leftEscaped.noneRaw c) (rightEscaped.noneRaw c)
  · rintro rest ⟨front, split⟩
    rcases List.append_eq_append_iff.mp split with ⟨middle, leftSplit, split⟩ | ⟨middle, _, split⟩
    · cases middle with
      | nil =>
          rw [List.nil_append] at split
          exact rightEscaped.named rest (split ▸ List.suffix_rfl)
      | cons c middle =>
          rw [List.cons_append, List.cons.injEq] at split
          obtain ⟨rfl, rfl⟩ := split
          obtain ⟨entity, member, begins⟩ := leftEscaped.named middle ⟨front, leftSplit.symm⟩
          exact ⟨entity, member, begins.trans (List.prefix_append ('&' :: middle) right)⟩
    · exact rightEscaped.named rest ⟨middle, split.symm⟩

theorem escapeChar (c : Char) : WellEscaped (escapeChar c) := by
  by_cases special : isSpecial c
  · have member := escapeChar_mem_entities special
    obtain ⟨name, written, _, named⟩ := escapeChar_of_isSpecial special
    rw [written] at member ⊢
    have others : ∀ d ∈ name, ¬isSpecial d := fun d inside =>
      not_isSpecial_of_isNameChar (named d inside)
    constructor
    · intro d inside
      rcases List.mem_cons.mp inside with rfl | inside
      · decide
      · have plain := others d inside
        rw [isSpecial_iff] at plain
        push Not at plain
        exact ⟨plain.2.2.2.1, plain.2.2.2.2, plain.2.1, plain.2.2.1⟩
    · intro rest suffix
      rcases List.suffix_cons_iff.mp suffix with whole | behind
      · exact ⟨_, member, whole ▸ List.prefix_rfl⟩
      · exact absurd (by decide) (others '&' (behind.subset List.mem_cons_self))
  · rw [escapeChar_of_not_isSpecial special]
    rw [isSpecial_iff] at special
    push Not at special
    obtain ⟨notAmp, notQuot, notApos, notLess, notGreater⟩ := special
    constructor
    · intro d inside
      rw [List.mem_singleton.mp inside]
      exact ⟨notLess, notGreater, notQuot, notApos⟩
    · intro rest suffix
      exact absurd (List.mem_singleton.mp (suffix.subset List.mem_cons_self)).symm notAmp

/-- Escaping gives out well-escaped texts. -/
theorem escapeText (raw : Text) : WellEscaped (escapeText raw) := by
  induction raw with
  | nil => exact nil
  | cons c rest inductionHypothesis =>
      rw [escapeText_cons]
      exact (escapeChar c).append inductionHypothesis

/-- A well-escaped text begins with an escaped character. -/
theorem exists_head {c : Char} {rest : Text} (escaped : WellEscaped (c :: rest)) :
    ∃ d behind, c :: rest = SafeMarkup.escapeChar d ++ behind := by
  by_cases ampersand : c = '&'
  · subst ampersand
    obtain ⟨entity, member, behind, split⟩ := escaped.named rest List.suffix_rfl
    obtain ⟨d, _, rfl⟩ := exists_escapeChar_of_mem_entities member
    exact ⟨d, behind, split.symm⟩
  · have raw := escaped.noneRaw c List.mem_cons_self
    have plain : ¬isSpecial c := by
      rw [isSpecial_iff]
      push Not
      exact ⟨ampersand, raw.2.2.1, raw.2.2.2, raw.1, raw.2.1⟩
    exact ⟨c, rest, by rw [escapeChar_of_not_isSpecial plain]; rfl⟩

end WellEscaped

/-- The well-escaped texts are those that escaping gives out. -/
theorem wellEscaped_iff {text : Text} : WellEscaped text ↔ ∃ raw, text = escapeText raw := by
  constructor
  · intro escaped
    induction size : text.length using Nat.strong_induction_on generalizing text with
    | _ size inductionHypothesis =>
        subst size
        cases text with
        | nil => exact ⟨[], rfl⟩
        | cons c rest =>
            obtain ⟨d, behind, split⟩ := escaped.exists_head
            have shorter : behind.length < (c :: rest).length := by
              have positive := List.length_pos_of_ne_nil (escapeChar_ne_nil d)
              rw [split, List.length_append]
              omega
            have behindEscaped : WellEscaped behind :=
              escaped.of_suffix (split ▸ List.suffix_append _ _)
            obtain ⟨raw, rfl⟩ := inductionHypothesis _ shorter behindEscaped rfl
            exact ⟨d :: raw, by rw [split, escapeText_cons]⟩
  · rintro ⟨raw, rfl⟩
    exact WellEscaped.escapeText raw

/-! ## Unescaping -/

theorem unescapeText_cons {c : Char} (notAmp : c ≠ '&') (rest : Text) :
    unescapeText (c :: rest) = c :: unescapeText rest := by
  rw [unescapeText] <;> simp [notAmp]

theorem unescapeText_escapeChar_append (c : Char) (rest : Text) :
    unescapeText (escapeChar c ++ rest) = c :: unescapeText rest := by
  by_cases special : isSpecial c
  · rcases isSpecial_iff.mp special with rfl | rfl | rfl | rfl | rfl <;> rfl
  · have notAmp : c ≠ '&' := by
      rintro rfl
      exact special (by decide)
    rw [escapeChar_of_not_isSpecial special]
    exact unescapeText_cons notAmp rest

/-- Unescaping reads back what escaping wrote, whatever stands behind it. -/
theorem unescapeText_escapeText_append (raw rest : Text) :
    unescapeText (escapeText raw ++ rest) = raw ++ unescapeText rest := by
  induction raw with
  | nil => rfl
  | cons c raw inductionHypothesis =>
      rw [escapeText_cons, List.append_assoc, unescapeText_escapeChar_append, inductionHypothesis]
      rfl

theorem unescapeText_escapeText (raw : Text) : unescapeText (escapeText raw) = raw := by
  have read := unescapeText_escapeText_append raw []
  rwa [List.append_nil, show unescapeText [] = [] from rfl, List.append_nil] at read

/-- No entity reaches over the end of a well-escaped text. -/
theorem WellEscaped.unescapeText_append {left : Text} (escaped : WellEscaped left) (right : Text) :
    unescapeText (left ++ right) = unescapeText left ++ unescapeText right := by
  obtain ⟨raw, rfl⟩ := wellEscaped_iff.mp escaped
  rw [unescapeText_escapeText_append, unescapeText_escapeText]

end SafeMarkup
