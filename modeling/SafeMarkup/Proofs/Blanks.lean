import SafeMarkup.Validator.Sequence
import Mathlib.Data.List.Chain
import Mathlib.Data.List.Infix

/-!
Contract: the blanks of a text before and after they are trimmed and squeezed.

Owns: texts without blanks at their ends, texts whose blanks are single spaces, and the texts that
trimming and squeezing give back unchanged.

Does not own: which characters are blanks.
-/

namespace SafeMarkup.Text

/-! ## Blanks at the ends -/

/-- A text neither begins nor ends with a blank. -/
structure Trimmed (text : Text) : Prop where
  first : ∀ c ∈ text.head?, isBlank c = false
  last : ∀ c ∈ text.getLast?, isBlank c = false

theorem trimmed_of_unblank {text : Text} (unblank : ∀ c ∈ text, isBlank c = false) :
    Trimmed text :=
  ⟨fun c head => unblank c (List.mem_of_head? head),
    fun c last => unblank c (List.mem_of_getLast? last)⟩

theorem trimmed_reverse {text : Text} : Trimmed text.reverse ↔ Trimmed text := by
  constructor
  · rintro ⟨first, last⟩
    rw [List.head?_reverse] at first
    rw [List.getLast?_reverse] at last
    exact ⟨last, first⟩
  · rintro ⟨first, last⟩
    exact ⟨by rwa [List.head?_reverse], by rwa [List.getLast?_reverse]⟩

theorem dropWhile_eq_self_iff {inClass : Char → Bool} {text : Text} :
    text.dropWhile inClass = text ↔ ∀ c ∈ text.head?, inClass c = false := by
  cases text with
  | nil => simp
  | cons c rest =>
      by_cases classed : inClass c
      · have shorter := (List.dropWhile_suffix inClass (l := rest)).length_le
        simp only [List.dropWhile_cons, classed, if_true, List.head?_cons, Option.mem_some_iff,
          forall_eq', Bool.true_eq_false, iff_false]
        intro same
        have longer := congrArg List.length same
        simp only [List.length_cons] at longer
        omega
      · simp [classed]

theorem trim_eq_self {text : Text} (ends : Trimmed text) : trim text = text := by
  have last := (trimmed_reverse.mpr ends).first
  unfold trim trimmed
  rw [dropWhile_eq_self_iff.mpr ends.first, dropWhile_eq_self_iff.mpr last, List.reverse_reverse]

/-- What is left of a text without its first blanks begins with what trimming leaves. -/
theorem trim_begins (text : Text) : trim text <+: text.dropWhile isBlank := by
  have behind : (text.dropWhile isBlank).reverse.dropWhile isBlank <:+
      (text.dropWhile isBlank).reverse := List.dropWhile_suffix isBlank
  simpa [trim, trimmed] using List.reverse_prefix.mpr behind

theorem trim_within (text : Text) : trim text <:+: text :=
  (trim_begins text).isInfix.trans (List.dropWhile_suffix isBlank).isInfix

theorem trimmed_trim (text : Text) : Trimmed (trim text) := by
  have headOfDropped (text : Text) : ∀ c ∈ (text.dropWhile isBlank).head?, isBlank c = false := by
    intro c member
    have unblank := List.head?_dropWhile_not isBlank text
    rw [Option.mem_def.mp member] at unblank
    exact unblank
  constructor
  · intro c member
    obtain ⟨behind, whole⟩ := trim_begins text
    refine headOfDropped text c ?_
    rw [← whole, List.head?_append, Option.mem_def.mp member]
    rfl
  · intro c member
    rw [trim, trimmed, List.getLast?_reverse] at member
    exact headOfDropped _ c member

theorem trim_trim (text : Text) : trim (trim text) = trim text :=
  trim_eq_self (trimmed_trim text)

/-! ## Blanks inside -/

/-- The blanks of a text are spaces, and none is behind another one. -/
structure SingleSpaced (text : Text) : Prop where
  spaces : ∀ c ∈ text, isBlank c → c = ' '
  single : text.IsChain fun c d => ¬(isBlank c ∧ isBlank d)

theorem singleSpaced_of_unblank {text : Text} (unblank : ∀ c ∈ text, isBlank c = false) :
    SingleSpaced text := by
  refine ⟨fun c member blank => absurd blank (by simp [unblank c member]), ?_⟩
  apply List.Pairwise.isChain
  apply List.pairwise_of_forall_mem_list
  intro c member _ _ both
  exact absurd both.1 (by simp [unblank c member])

theorem SingleSpaced.of_part {part text : Text} (spaced : SingleSpaced text)
    (within : part <:+: text) : SingleSpaced part :=
  ⟨fun c member => spaced.spaces c (within.subset member), List.IsChain.infix spaced.single within⟩

theorem singleSpaced_squeezeFrom (inRun : Bool) (text : Text) :
    SingleSpaced (squeezeFrom isBlank ' ' inRun text) ∧
      (inRun → ∀ c ∈ (squeezeFrom isBlank ' ' inRun text).head?, isBlank c = false) := by
  induction text generalizing inRun with
  | nil => exact ⟨⟨nofun, .nil⟩, fun _ => nofun⟩
  | cons c rest inductionHypothesis =>
      rw [squeezeFrom]
      split
      case isTrue blank =>
        obtain ⟨spaced, unblank⟩ := inductionHypothesis true
        split
        case isTrue => exact ⟨spaced, fun _ => unblank rfl⟩
        case isFalse notInRun =>
          refine ⟨⟨?_, ?_⟩, fun inRun => absurd inRun notInRun⟩
          · rintro d member isBlank
            rcases List.mem_cons.mp member with rfl | inRest
            · rfl
            · exact spaced.spaces d inRest isBlank
          · refine List.isChain_cons.mpr ⟨?_, spaced.single⟩
            rintro d head ⟨-, isBlank⟩
            exact absurd isBlank (by simp [unblank rfl d head])
      case isFalse notBlank =>
        obtain ⟨spaced, -⟩ := inductionHypothesis false
        refine ⟨⟨?_, ?_⟩, ?_⟩
        · rintro d member isBlank
          rcases List.mem_cons.mp member with rfl | inRest
          · exact absurd isBlank notBlank
          · exact spaced.spaces d inRest isBlank
        · exact List.isChain_cons.mpr ⟨fun d _ both => notBlank both.1, spaced.single⟩
        · rintro - d head
          obtain rfl : c = d := by simpa using head
          simpa using notBlank

theorem singleSpaced_spaced (value : Text) : SingleSpaced (spaced value) :=
  (singleSpaced_squeezeFrom false value).1.of_part (trim_within _)

theorem squeezeFrom_eq_self {text : Text} {inRun : Bool} (spaced : SingleSpaced text)
    (unblank : inRun → ∀ c ∈ text.head?, isBlank c = false) :
    squeezeFrom isBlank ' ' inRun text = text := by
  induction text generalizing inRun with
  | nil => rfl
  | cons c rest inductionHypothesis =>
      have others : SingleSpaced rest := spaced.of_part (List.suffix_cons c rest).isInfix
      have apart := (List.isChain_cons.mp spaced.single).1
      rw [squeezeFrom]
      split
      case isTrue blank =>
        have notInRun : inRun = false := by
          cases inRun with
          | false => rfl
          | true => exact absurd (unblank rfl c rfl) (by simp [blank])
        have next : ∀ d ∈ rest.head?, isBlank d = false := by
          intro d head
          simpa [blank] using apart d head
        obtain rfl := spaced.spaces c List.mem_cons_self blank
        simp [notInRun, inductionHypothesis others fun _ => next]
      case isFalse =>
        have same : squeezeFrom isBlank ' ' false rest = rest := inductionHypothesis others nofun
        rw [same]

/-- Squeezing goes past a mark as if nothing had been before it. -/
theorem squeezeFrom_append_mark {text behind : Text} {mark : Char} {inRun : Bool}
    (same : squeezeFrom isBlank ' ' inRun text = text) (notBlank : isBlank mark = false) :
    squeezeFrom isBlank ' ' inRun (text ++ mark :: behind) =
      text ++ mark :: squeezeFrom isBlank ' ' false behind := by
  have shorter (inRun : Bool) (text : Text) :
      (squeezeFrom isBlank ' ' inRun text).length ≤ text.length := by
    induction text generalizing inRun with
    | nil => exact Nat.le_refl 0
    | cons c rest inductionHypothesis =>
        have inside := inductionHypothesis true
        have outside := inductionHypothesis false
        rw [squeezeFrom]
        split_ifs <;> simp only [List.length_cons] <;> omega
  induction text generalizing inRun with
  | nil => simp [squeezeFrom, notBlank]
  | cons c rest inductionHypothesis =>
      rw [squeezeFrom] at same
      rw [List.cons_append, squeezeFrom]
      split_ifs at same ⊢ with blank running
      · have := shorter true rest
        have longer := congrArg List.length same
        simp only [List.length_cons] at longer
        omega
      · obtain ⟨rfl, sameRest⟩ := List.cons.inj same
        rw [inductionHypothesis sameRest, List.cons_append]
      · obtain ⟨-, sameRest⟩ := List.cons.inj same
        rw [inductionHypothesis sameRest, List.cons_append]

end SafeMarkup.Text
