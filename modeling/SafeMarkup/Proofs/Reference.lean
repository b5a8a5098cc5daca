import SafeMarkup.Proofs.Escaping
import SafeMarkup.Proofs.Spacing
import Mathlib.Data.List.Infix
import Mathlib.Data.List.TakeWhile

/-!
Contract: what decoding numeric character references does to a text.

Owns: the shape of a reference; decoding as a relation that follows the references of a text; and
the law that decoding keeps what shows of a text only where there is no reference to decode.
-/

namespace SafeMarkup

/-! ## Characters of references -/

theorem isInk_of_bounds {c : Char} (low : 33 ≤ c.toNat) (high : c.toNat < 160) : isInk c := by
  have notNbsp : c ≠ Text.nbsp := by
    rintro rfl
    exact absurd high (by decide)
  simp [isInk, notNbsp]
  omega

theorem isInk_of_isSpecial {c : Char} (special : isSpecial c) : isInk c := by
  rcases isSpecial_iff.mp special with rfl | rfl | rfl | rfl | rfl <;> decide

theorem isDigit_bounds {c : Char} (digit : c.isDigit) : 48 ≤ c.toNat ∧ c.toNat ≤ 57 := by
  simp only [Char.isDigit, Bool.and_eq_true, decide_eq_true_eq, UInt32.le_iff_toNat_le] at digit
  exact digit

theorem isHexDigit_bounds {c : Char} (digit : isHexDigit c) : 48 ≤ c.toNat ∧ c.toNat ≤ 102 := by
  unfold isHexDigit Text.hexValue? at digit
  by_cases decimal : c.isDigit
  · have bounds := isDigit_bounds decimal
    omega
  · rw [if_neg decimal] at digit
    by_cases small : 'a' ≤ c ∧ c ≤ 'f'
    · have low : 97 ≤ c.toNat := small.1
      have high : c.toNat ≤ 102 := small.2
      omega
    · rw [if_neg small] at digit
      by_cases capital : 'A' ≤ c ∧ c ≤ 'F'
      · have low : 65 ≤ c.toNat := capital.1
        have high : c.toNat ≤ 70 := capital.2
        omega
      · rw [if_neg capital] at digit
        exact absurd digit (by decide)

theorem not_isSpecial_of_isDigit {c : Char} (digit : c.isDigit) : ¬isSpecial c := by
  intro special
  rcases isSpecial_iff.mp special with rfl | rfl | rfl | rfl | rfl <;>
    exact absurd digit (by decide)

theorem not_isSpecial_of_isHexDigit {c : Char} (digit : isHexDigit c) : ¬isSpecial c := by
  intro special
  rcases isSpecial_iff.mp special with rfl | rfl | rfl | rfl | rfl <;>
    exact absurd digit (by decide)

/-! ## The shape of a reference -/

/-- The digits of a reference and the semicolon behind them are a piece of the text. -/
private theorem digits_split (isOne : Char → Bool) (text : Text) :
    ∃ body rest, text = body ++ rest ∧
      body.length = (text.takeWhile isOne).length +
        semicolonLength (text.drop (text.takeWhile isOne).length) ∧
      ∀ c ∈ body, isOne c ∨ c = ';' := by
  have split : text = text.takeWhile isOne ++ text.drop (text.takeWhile isOne).length :=
    (List.prefix_iff_eq_append.mp (List.takeWhile_prefix isOne)).symm
  have digits : ∀ c ∈ text.takeWhile isOne, isOne c := fun c => List.mem_takeWhile_imp
  generalize text.takeWhile isOne = front at split digits ⊢
  generalize text.drop front.length = behind at split ⊢
  rcases behind with _ | ⟨c, rest⟩
  · exact ⟨front, [], split, rfl, fun c member => .inl (digits c member)⟩
  · by_cases mark : c = ';'
    · subst mark
      refine ⟨front ++ [';'], rest, by simpa using split, by simp [semicolonLength], ?_⟩
      intro c member
      rcases List.mem_append.mp member with digit | mark
      · exact .inl (digits c digit)
      · exact .inr (List.mem_singleton.mp mark)
    · refine ⟨front, c :: rest, split, ?_, fun c member => .inl (digits c member)⟩
      simp [semicolonLength, mark]

/-- A reference is a number sign with characters that show behind it, none of them special, and
decodes to a code. -/
theorem reference?_eq_some {text replacement : Text} {length : Nat}
    (found : reference? text = some (replacement, length)) :
    ∃ body rest code, text = '#' :: (body ++ rest) ∧ length = body.length + 1 ∧
      (∀ c ∈ body, isInk c ∧ ¬isSpecial c) ∧ replacement = decodedCode code := by
  have semicolon : isInk ';' ∧ ¬isSpecial ';' := by decide
  unfold reference? at found
  split at found
  case h_2 => exact absurd found nofun
  case h_1 text =>
    split at found
    case h_2 =>
      obtain ⟨body, rest, split, bodyLength, digits⟩ := digits_split Char.isDigit text
      obtain ⟨rfl, rfl⟩ := Prod.mk.inj (Option.some.inj found)
      refine ⟨body, rest, _, by rw [split], by omega, ?_, rfl⟩
      intro c member
      rcases digits c member with digit | rfl
      · have bounds := isDigit_bounds digit
        exact ⟨isInk_of_bounds (by omega) (by omega), not_isSpecial_of_isDigit digit⟩
      · exact semicolon
    case h_1 =>
      split at found
      case h_2 => exact absurd found nofun
      case h_1 mark text _ =>
        obtain ⟨body, rest, split, bodyLength, digits⟩ := digits_split isHexDigit text
        by_cases marked : mark = 'x' ∨ mark = 'X'
        · rw [if_pos marked] at found
          split at found
          case h_1 => exact absurd found nofun
          case h_2 =>
            obtain ⟨rfl, rfl⟩ := Prod.mk.inj (Option.some.inj found)
            refine ⟨mark :: body, rest, _, by rw [split]; rfl, ?_, ?_, rfl⟩
            · rw [List.length_cons]
              omega
            · intro c member
              rcases List.mem_cons.mp member with rfl | member
              · rcases marked with rfl | rfl
                · decide
                · decide
              · rcases digits c member with digit | rfl
                · have bounds := isHexDigit_bounds digit
                  exact ⟨isInk_of_bounds (by omega) (by omega), not_isSpecial_of_isHexDigit digit⟩
                · exact semicolon
        · rw [if_neg marked] at found
          exact absurd found nofun

/-- A number sign with a decimal digit begins a reference. -/
theorem reference?_ne_none_of_isDigit {digit : Char} (decimal : digit.isDigit) (rest : Text) :
    reference? ('#' :: digit :: rest) ≠ none := by
  unfold reference?
  simp [decimal]

/-- A number sign with an `x` and a hexadecimal digit begins a reference. -/
theorem reference?_ne_none_of_isHexDigit {mark digit : Char} (marked : mark = 'x' ∨ mark = 'X')
    (hexadecimal : isHexDigit digit) (rest : Text) :
    reference? ('#' :: mark :: digit :: rest) ≠ none := by
  have notDigit : mark.isDigit = false := by
    rcases marked with rfl | rfl
    · rfl
    · rfl
  unfold reference?
  simp [notDigit, marked, hexadecimal]

/-- A text that begins in neither of the two ways begins no reference. -/
theorem reference?_eq_none {text : Text}
    (noDecimal : ∀ digit rest, digit.isDigit → text ≠ '#' :: digit :: rest)
    (noHexadecimal : ∀ mark digit rest, mark = 'x' ∨ mark = 'X' → isHexDigit digit →
      text ≠ '#' :: mark :: digit :: rest) :
    reference? text = none := by
  unfold reference?
  split
  case h_2 => rfl
  case h_1 text =>
    rcases text with _ | ⟨mark, text⟩
    · rfl
    · have notDigit : ¬mark.isDigit := fun digit => noDecimal mark text digit rfl
      rw [List.takeWhile_cons_of_neg notDigit]
      by_cases marked : mark = 'x' ∨ mark = 'X'
      · rcases text with _ | ⟨digit, text⟩
        · simp
        · have notHexDigit : ¬isHexDigit digit :=
            fun hexadecimal => noHexadecimal mark digit text marked hexadecimal rfl
          simp [List.takeWhile_cons_of_neg notHexDigit]
      · simp [marked]

/-! ## Decoding as a relation -/

/-- A text with its references, and the text it decodes to. -/
inductive Decoding : Text → Text → Prop where
  | nil : Decoding [] []
  | literal {c : Char} {rest decoded : Text} (plain : c = '&' → reference? rest = none)
      (others : Decoding rest decoded) : Decoding (c :: rest) (c :: decoded)
  | reference {body rest decoded : Text} (code : Nat) (shows : ∀ c ∈ body, isInk c)
      (others : Decoding rest decoded) :
      Decoding ('&' :: '#' :: (body ++ rest)) (decodedCode code ++ decoded)

private theorem decodeReferencesFrom_eq_drop (skip : Nat) (text : Text) :
    decodeReferencesFrom skip text = decodeReferencesFrom 0 (text.drop skip) := by
  induction text generalizing skip with
  | nil => cases skip <;> rfl
  | cons c rest inductionHypothesis =>
      cases skip with
      | zero => rfl
      | succ skip =>
          rw [decodeReferencesFrom, inductionHypothesis, List.drop_succ_cons]

/-- Decoding follows the references of a text. -/
theorem decoding_decodeReferences (text : Text) : Decoding text (decodeReferences text) := by
  induction size : text.length using Nat.strong_induction_on generalizing text with
  | _ size inductionHypothesis =>
      subst size
      have shorter (rest : Text) (less : rest.length < text.length) :
          Decoding rest (decodeReferencesFrom 0 rest) :=
        inductionHypothesis rest.length less rest rfl
      cases text with
      | nil => exact .nil
      | cons c rest =>
          unfold decodeReferences
          rw [decodeReferencesFrom]
          by_cases ampersand : c = '&'
          · rw [if_pos ampersand]
            subst ampersand
            cases found : reference? rest with
            | none => exact .literal (fun _ => found) (shorter rest (by simp))
            | some reference =>
                obtain ⟨replacement, length⟩ := reference
                obtain ⟨body, behind, code, rfl, rfl, shows, rfl⟩ := reference?_eq_some found
                change Decoding _ (decodedCode code ++ decodeReferencesFrom _ _)
                rw [decodeReferencesFrom_eq_drop, List.drop_succ_cons, List.drop_left]
                exact .reference code (fun d member => (shows d member).1)
                  (shorter behind (by simp; omega))
          · rw [if_neg ampersand]
            exact .literal (fun here => absurd here ampersand) (shorter rest (by simp))

/-- No ampersand of a text begins a numeric reference. -/
def NoReference (text : Text) : Prop := ∀ rest, '&' :: rest <:+ text → reference? rest = none

theorem NoReference.of_cons {c : Char} {rest : Text} (none : NoReference (c :: rest)) :
    NoReference rest :=
  fun behind suffix => none behind (suffix.trans (List.suffix_cons c rest))

/-- A text without references decodes to itself. -/
theorem decodeReferences_eq_self {text : Text} (none : NoReference text) :
    decodeReferences text = text := by
  induction text with
  | nil => rfl
  | cons c rest inductionHypothesis =>
      have others : decodeReferencesFrom 0 rest = rest := inductionHypothesis none.of_cons
      unfold decodeReferences
      rw [decodeReferencesFrom]
      by_cases ampersand : c = '&'
      · subst ampersand
        rw [if_pos rfl, none rest List.suffix_rfl, others]
      · rw [if_neg ampersand, others]

/-- Decoding keeps a special character that begins no reference: references have none inside. -/
theorem mem_decodeReferencesFrom {c : Char} (special : isSpecial c) (notAmp : c ≠ '&')
    (skip : Nat) {text : Text} (member : c ∈ text.drop skip) :
    c ∈ decodeReferencesFrom skip text := by
  induction text generalizing skip with
  | nil => simp at member
  | cons first rest inductionHypothesis =>
      cases skip with
      | succ skip => exact inductionHypothesis skip member
      | zero =>
          rw [decodeReferencesFrom]
          by_cases ampersand : first = '&'
          · have behind : c ∈ rest := by
              rcases List.mem_cons.mp member with rfl | behind
              · exact absurd ampersand notAmp
              · exact behind
            rw [if_pos ampersand]
            cases found : reference? rest with
            | none => exact List.mem_cons_of_mem _ (inductionHypothesis 0 behind)
            | some reference =>
                obtain ⟨replacement, length⟩ := reference
                obtain ⟨body, others, code, rfl, rfl, plain, rfl⟩ := reference?_eq_some found
                have outside : c ∈ others := by
                  rcases List.mem_cons.mp behind with rfl | behind
                  · exact absurd special (by decide)
                  · rcases List.mem_append.mp behind with inside | outside
                    · exact absurd special (plain c inside).2
                    · exact outside
                refine List.mem_append_right _ (inductionHypothesis _ ?_)
                rwa [List.drop_succ_cons, List.drop_left]
          · rw [if_neg ampersand]
            rcases List.mem_cons.mp member with rfl | behind
            · exact List.mem_cons_self
            · exact List.mem_cons_of_mem _ (inductionHypothesis 0 behind)

/-! ## What decoding shows -/

/-- A code stands for nothing or for an escaped character other than the null character. -/
theorem decodedCode_eq (code : Nat) :
    decodedCode code = [] ∨ ∃ c, c ≠ '\x00' ∧ decodedCode code = escapeChar c := by
  unfold decodedCode
  by_cases valid : code ≠ 0 ∧ code.isValidChar
  · rw [if_pos valid]
    refine .inr ⟨Char.ofNat code, ?_, rfl⟩
    intro null
    have codeBack : (Char.ofNat code).toNat = code := by
      unfold Char.ofNat
      rw [dif_pos valid.2]
      rfl
    rw [null] at codeBack
    exact valid.1 codeBack.symm
  · rw [if_neg valid]
    exact .inl rfl

theorem isNameChar_bounds {c : Char} (named : isNameChar c) : 59 ≤ c.toNat ∧ c.toNat ≤ 122 := by
  simp only [isNameChar, Bool.or_eq_true, decide_eq_true_eq] at named
  rcases named with small | rfl
  · unfold Char.isLower at small
    rw [Bool.and_eq_true, decide_eq_true_eq, decide_eq_true_eq] at small
    have low : 97 ≤ c.toNat := UInt32.le_iff_toNat_le.mp small.1
    have high : c.toNat ≤ 122 := UInt32.le_iff_toNat_le.mp small.2
    omega
  · decide

/-- What shows of a decoded reference never begins like a reference, and has no ampersand behind its
first character. -/
theorem ink_decodedCode (code : Nat) :
    ink (decodedCode code) = [] ∨ (∃ c, c ≠ '&' ∧ ink (decodedCode code) = [c]) ∨
      ∃ name, name ≠ [] ∧ (∀ d ∈ name, isNameChar d) ∧ ink (decodedCode code) = '&' :: name := by
  rcases decodedCode_eq code with nothing | ⟨c, _, written⟩
  · exact .inl (by rw [nothing]; rfl)
  · rw [written]
    by_cases special : isSpecial c
    · obtain ⟨name, spelled, nonempty, named⟩ := escapeChar_of_isSpecial special
      refine .inr (.inr ⟨name, nonempty, named, ?_⟩)
      rw [spelled, ink_cons, if_pos (by decide), ink_eq_self]
      intro d member
      have bounds := isNameChar_bounds (named d member)
      exact isInk_of_bounds (by omega) (by omega)
    · rw [escapeChar_of_not_isSpecial special, ink_cons]
      by_cases shows : isInk c
      · refine .inr (.inl ⟨c, ?_, by rw [if_pos shows]; rfl⟩)
        rintro rfl
        exact special (by decide)
      · exact .inl (by rw [if_neg shows]; rfl)

theorem ink_reference {body : Text} (shows : ∀ c ∈ body, isInk c) (rest : Text) :
    ink ('&' :: '#' :: (body ++ rest)) = '&' :: '#' :: (body ++ ink rest) := by
  rw [ink_cons, if_pos (by decide), ink_cons, if_pos (by decide), ink_append, ink_eq_self shows]

namespace Decoding

/-- Decoding shows nothing in front of all that the text shows. An entity that decoding writes may
be longer than its reference, but it never reaches over the place where the reference stood: there
is no ampersand inside it. -/
theorem ink_ne_append {text decoded : Text} (decoding : Decoding text decoded) :
    ∀ {front : Text}, front ≠ [] → ink decoded ≠ front ++ ink text := by
  induction decoding with
  | nil =>
      intro front nonempty same
      exact nonempty (List.append_eq_nil_iff.mp same.symm).1
  | @literal c rest decoded plain others inductionHypothesis =>
      intro front nonempty same
      rw [ink_cons, ink_cons] at same
      by_cases shows : isInk c
      · rw [if_pos shows, if_pos shows] at same
        cases front with
        | nil => exact nonempty rfl
        | cons first front =>
            rw [List.cons_append, List.cons.injEq] at same
            have shifted : ink decoded = (front ++ [c]) ++ ink rest := by
              rw [same.2, List.append_assoc]
              rfl
            exact inductionHypothesis (by simp) shifted
      · rw [if_neg shows, if_neg shows] at same
        exact inductionHypothesis nonempty same
  | @reference body rest decoded code shows others inductionHypothesis =>
      intro front nonempty same
      rw [ink_append, ink_reference shows] at same
      rcases List.append_eq_append_iff.mp same with ⟨middle, _, split⟩ | ⟨middle, written, split⟩
      · have shifted : ink decoded = (middle ++ '&' :: '#' :: body) ++ ink rest := by
          rw [split]
          simp
        exact inductionHypothesis (by simp) shifted
      · cases middle with
        | nil =>
            have shifted : ink decoded = ('&' :: '#' :: body) ++ ink rest := split.symm
            exact inductionHypothesis (by simp) shifted
        | cons c middle =>
            rw [List.cons_append, List.cons.injEq] at split
            obtain ⟨rfl, _⟩ := split
            obtain ⟨first, front, rfl⟩ := List.exists_cons_of_ne_nil nonempty
            -- The ampersand of the reference would be inside of what replaces it.
            rcases ink_decodedCode code with nothing | ⟨c, _, single⟩ | ⟨name, _, named, entity⟩
            · rw [nothing] at written
              exact absurd written (by simp)
            · rw [single] at written
              exact absurd written (by simp)
            · rw [entity, List.cons_append, List.cons.injEq] at written
              have inside : '&' ∈ name := by
                rw [written.2]
                simp
              exact absurd (named '&' inside) (by decide)

/-- Where decoding keeps what shows of a text, there was no reference to decode. -/
theorem noReference {text decoded : Text} (decoding : Decoding text decoded)
    (same : ink decoded = ink text) : NoReference text := by
  induction decoding with
  | nil =>
      intro rest suffix
      exact absurd (List.suffix_nil.mp suffix) (List.cons_ne_nil _ _)
  | @literal c rest decoded plain others inductionHypothesis =>
      have restSame : ink decoded = ink rest := by
        rw [ink_cons, ink_cons] at same
        by_cases shows : isInk c
        · rw [if_pos shows, if_pos shows, List.cons.injEq] at same
          exact same.2
        · rw [if_neg shows, if_neg shows] at same
          exact same
      intro behind suffix
      rcases List.suffix_cons_iff.mp suffix with whole | suffix
      · obtain ⟨rfl, rfl⟩ := List.cons.inj whole
        exact plain rfl
      · exact inductionHypothesis restSame behind suffix
  | @reference body rest decoded code shows others _ =>
      rw [ink_append, ink_reference shows] at same
      rcases ink_decodedCode code with
        nothing | ⟨c, notAmp, single⟩ | ⟨name, nonempty, named, entity⟩
      · rw [nothing, List.nil_append] at same
        have shifted : ink decoded = ('&' :: '#' :: body) ++ ink rest := same
        exact absurd shifted (others.ink_ne_append (by simp))
      · rw [single, List.singleton_append, List.cons.injEq] at same
        exact absurd same.1 notAmp
      · obtain ⟨first, name, rfl⟩ := List.exists_cons_of_ne_nil nonempty
        rw [entity, List.cons_append, List.cons_append, List.cons.injEq, List.cons.injEq] at same
        have sign := named first List.mem_cons_self
        rw [same.2.1] at sign
        exact absurd sign (by decide)

/-- Decoding brings no null characters in. -/
theorem null_not_mem {text decoded : Text} (decoding : Decoding text decoded)
    (absent : '\x00' ∉ text) : '\x00' ∉ decoded := by
  induction decoding with
  | nil => exact absent
  | literal plain others inductionHypothesis =>
      rw [List.mem_cons, not_or] at absent ⊢
      exact ⟨absent.1, inductionHypothesis absent.2⟩
  | @reference body rest decoded code shows others inductionHypothesis =>
      have restAbsent : '\x00' ∉ rest := fun member => absent (by simp [member])
      rw [List.mem_append, not_or]
      refine ⟨?_, inductionHypothesis restAbsent⟩
      rcases decodedCode_eq code with nothing | ⟨c, notNull, written⟩
      · rw [nothing]
        exact List.not_mem_nil
      · rw [written]
        intro member
        by_cases special : isSpecial c
        · rcases mem_escapeChar_of_isSpecial special member with ampersand | named
          · exact absurd ampersand (by decide)
          · exact absurd named (by decide)
        · rw [escapeChar_of_not_isSpecial special] at member
          exact notNull (List.mem_singleton.mp member).symm

end Decoding
end SafeMarkup
