import SafeMarkup.Sanitizer.Normalize
import Mathlib.Data.List.Chain

/-!
Contract: what the passes over runs of spaces keep, and where they change nothing.

Owns: the part of a text that shows, which squeezing and collapsing leave alone; the characters and
the neighbours that are left after them; the texts that they give back unchanged.
-/

namespace SafeMarkup

/-! ## What shows -/

/-- Whether a character shows: it is neither a control character nor a space of either kind. -/
def isInk (c : Char) : Bool := !(c.toNat ≤ 32 || c = Text.nbsp)

/-- The characters of a text that show. -/
def ink (text : Text) : Text := text.filter isInk

@[simp] theorem ink_nil : ink [] = [] := rfl

theorem ink_cons (c : Char) (rest : Text) :
    ink (c :: rest) = if isInk c then c :: ink rest else ink rest := by
  simp only [ink, List.filter_cons]

@[simp] theorem ink_append (left right : Text) : ink (left ++ right) = ink left ++ ink right := by
  simp only [ink, List.filter_append]

theorem ink_eq_self {text : Text} (shows : ∀ c ∈ text, isInk c) : ink text = text :=
  List.filter_eq_self.mpr shows

theorem isInk_eq_false_of_isControlOrSpace {c : Char} (control : isControlOrSpace c) :
    isInk c = false := by
  simp only [isControlOrSpace, Bool.and_eq_true, decide_eq_true_eq] at control
  simp [isInk, control.2]

theorem isInk_eq_false_of_isSpacing {c : Char} (spacing : isSpacing c) : isInk c = false := by
  simp only [isSpacing, Bool.or_eq_true, decide_eq_true_eq] at spacing
  rcases spacing with rfl | rfl
  · rfl
  · rfl

/-- Squeezing loses nothing that shows. -/
theorem ink_squeezeFrom (inRun : Bool) (text : Text) :
    ink (Text.squeezeFrom isControlOrSpace ' ' inRun text) = ink text := by
  induction text generalizing inRun with
  | nil => rfl
  | cons c rest inductionHypothesis =>
      rw [Text.squeezeFrom, ink_cons c rest]
      by_cases control : isControlOrSpace c
      · rw [if_pos control, isInk_eq_false_of_isControlOrSpace control]
        cases inRun with
        | true => simpa using inductionHypothesis true
        | false =>
            rw [if_neg (by decide), ink_cons, inductionHypothesis]
            rfl
      · rw [if_neg control, ink_cons, inductionHypothesis]

/-! ## Spaces before a place -/

/-- A space that waits to be written is one. -/
def Spacing.Sound : Spacing → Prop
  | .one c => isSpacing c
  | _ => True

/-- The space that waits to be written, if there is one. -/
def Spacing.pending : Spacing → Text
  | .one c => [c]
  | _ => []

/-- A text that begins with no space is not touched by the spaces before it, which are written
first. -/
theorem collapseSpacesFrom_cons_of_not_isSpacing (before : Spacing) {c : Char} (rest : Text)
    (plain : isSpacing c = false) :
    collapseSpacesFrom before (c :: rest) =
      before.pending ++ c :: collapseSpacesFrom .zero rest := by
  cases before <;> simp [collapseSpacesFrom, Spacing.pending, plain]

/-- Collapsing loses nothing that shows. -/
theorem ink_collapseSpacesFrom (before : Spacing) (sound : before.Sound) (text : Text) :
    ink (collapseSpacesFrom before text) = ink text := by
  have pendingInk : ∀ {before : Spacing}, before.Sound → ink before.pending = [] := by
    intro before sound
    cases before with
    | one c => simp [Spacing.pending, ink_cons, isInk_eq_false_of_isSpacing sound]
    | _ => rfl
  induction text generalizing before with
  | nil =>
      rw [show collapseSpacesFrom before [] = before.pending by cases before <;> rfl]
      exact pendingInk sound
  | cons c rest inductionHypothesis =>
      by_cases spacing : isSpacing c
      · rw [ink_cons, isInk_eq_false_of_isSpacing spacing, if_neg (by decide)]
        cases before with
        | zero =>
            rw [collapseSpacesFrom, if_pos spacing]
            exact inductionHypothesis (.one c) spacing
        | one first =>
            rw [collapseSpacesFrom, if_pos spacing, ink_cons,
              isInk_eq_false_of_isSpacing (c := Text.nbsp) (by decide), if_neg (by decide)]
            exact inductionHypothesis .several trivial
        | several =>
            rw [collapseSpacesFrom, if_pos spacing]
            exact inductionHypothesis .several trivial
      · rw [collapseSpacesFrom_cons_of_not_isSpacing before rest (by simpa using spacing),
          ink_append, pendingInk sound, List.nil_append, ink_cons, ink_cons,
          inductionHypothesis .zero trivial]

/-! ## What is left -/

/-- Squeezing leaves the mark and what is outside the class. -/
theorem mem_squeezeFrom {inClass : Char → Bool} {mark c : Char} {inRun : Bool} {text : Text}
    (member : c ∈ Text.squeezeFrom inClass mark inRun text) :
    c = mark ∨ c ∈ text ∧ inClass c = false := by
  induction text generalizing inRun with
  | nil => simp [Text.squeezeFrom] at member
  | cons first rest inductionHypothesis =>
      have later : c ∈ Text.squeezeFrom inClass mark true rest ∨
          c ∈ Text.squeezeFrom inClass mark false rest →
            c = mark ∨ c ∈ first :: rest ∧ inClass c = false := by
        rintro (member | member)
        · exact (inductionHypothesis member).imp_right (And.imp_left (List.mem_cons_of_mem _))
        · exact (inductionHypothesis member).imp_right (And.imp_left (List.mem_cons_of_mem _))
      rw [Text.squeezeFrom] at member
      by_cases classed : inClass first
      · rw [if_pos classed] at member
        cases inRun with
        | true => exact later (.inl (by simpa using member))
        | false =>
            rcases List.mem_cons.mp (by simpa using member) with rfl | member
            · exact .inl rfl
            · exact later (.inl member)
      · rw [if_neg classed] at member
        rcases List.mem_cons.mp member with rfl | member
        · exact .inr ⟨List.mem_cons_self, by simpa using classed⟩
        · exact later (.inr member)

/-- Collapsing writes no character of its own but the no-break space. -/
theorem mem_collapseSpacesFrom {before : Spacing} {text : Text} {c : Char}
    (member : c ∈ collapseSpacesFrom before text) :
    c = Text.nbsp ∨ c ∈ before.pending ∨ c ∈ text := by
  induction text generalizing before with
  | nil => cases before <;> simp_all [collapseSpacesFrom, Spacing.pending]
  | cons first rest inductionHypothesis =>
      by_cases spacing : isSpacing first
      · have later {before : Spacing} (member : c ∈ collapseSpacesFrom before rest)
            (waiting : ∀ d ∈ before.pending, d = first) :
            c = Text.nbsp ∨ c ∈ first :: rest := by
          rcases inductionHypothesis member with nbsp | pending | member
          · exact .inl nbsp
          · exact .inr (by simp [waiting c pending])
          · exact .inr (List.mem_cons_of_mem _ member)
        cases before with
        | zero =>
            rw [collapseSpacesFrom, if_pos spacing] at member
            exact (later member (by simp [Spacing.pending])).imp_right .inr
        | one space =>
            rw [collapseSpacesFrom, if_pos spacing] at member
            rcases List.mem_cons.mp member with nbsp | member
            · exact .inl nbsp
            · exact (later member (by simp [Spacing.pending])).imp_right .inr
        | several =>
            rw [collapseSpacesFrom, if_pos spacing] at member
            exact (later member (by simp [Spacing.pending])).imp_right .inr
      · rw [collapseSpacesFrom_cons_of_not_isSpacing before rest (by simpa using spacing)] at member
        rcases List.mem_append.mp member with pending | member
        · exact .inr (.inl pending)
        · rcases List.mem_cons.mp member with rfl | member
          · exact .inr (.inr List.mem_cons_self)
          · rcases inductionHypothesis member with nbsp | pending | member
            · exact .inl nbsp
            · simp [Spacing.pending] at pending
            · exact .inr (.inr (List.mem_cons_of_mem _ member))

/-- No two neighbours of a text are both spaces. -/
def SpacedApart (text : Text) : Prop :=
  text.IsChain fun left right => ¬(isSpacing left ∧ isSpacing right)

/-- Collapsing leaves no neighbouring spaces. Behind several spaces, which are written by then, it
does not begin with one either. -/
theorem spacedApart_collapseSpacesFrom (before : Spacing) (text : Text) :
    SpacedApart (collapseSpacesFrom before text) ∧
      (before = .several → ∀ c ∈ (collapseSpacesFrom before text).head?, ¬isSpacing c) := by
  induction text generalizing before with
  | nil => cases before <;> simp [collapseSpacesFrom, SpacedApart]
  | cons c rest inductionHypothesis =>
      by_cases spacing : isSpacing c
      · cases before with
        | zero =>
            rw [collapseSpacesFrom, if_pos spacing]
            exact ⟨(inductionHypothesis (.one c)).1, nofun⟩
        | one first =>
            rw [collapseSpacesFrom, if_pos spacing]
            refine ⟨(inductionHypothesis .several).1.cons ?_, nofun⟩
            intro next member both
            -- The no-break space is written for the whole run, so what follows it is no space.
            exact (inductionHypothesis .several).2 rfl next member both.2
        | several =>
            rw [collapseSpacesFrom, if_pos spacing]
            exact inductionHypothesis .several
      · have behind : SpacedApart (c :: collapseSpacesFrom .zero rest) :=
          (inductionHypothesis .zero).1.cons fun _ _ both => spacing both.1
        rw [collapseSpacesFrom_cons_of_not_isSpacing before rest (by simpa using spacing)]
        cases before with
        | zero => exact ⟨behind, nofun⟩
        | one first =>
            refine ⟨behind.cons ?_, nofun⟩
            intro next member both
            rw [List.head?_cons, Option.mem_some_iff] at member
            exact spacing (member ▸ both.2)
        | several =>
            refine ⟨behind, ?_⟩
            intro _ next member
            rw [show Spacing.pending .several = [] from rfl, List.nil_append, List.head?_cons,
              Option.mem_some_iff] at member
            exact member ▸ spacing

/-! ## What is given back unchanged -/

/-- Collapsing gives back a text without neighbouring spaces, a space that waits before it
included. -/
theorem collapseSpacesFrom_eq_self (before : Spacing) {text : Text} (sound : before.Sound)
    (few : before ≠ .several) (apart : SpacedApart (before.pending ++ text)) :
    collapseSpacesFrom before text = before.pending ++ text := by
  induction text generalizing before with
  | nil => cases before <;> simp [collapseSpacesFrom, Spacing.pending]
  | cons c rest inductionHypothesis =>
      by_cases spacing : isSpacing c
      · cases before with
        | zero =>
            rw [collapseSpacesFrom, if_pos spacing]
            exact inductionHypothesis (.one c) spacing nofun apart
        | one first =>
            have distinct : ¬(isSpacing first ∧ isSpacing c) :=
              (List.isChain_cons_cons.mp apart).1
            exact absurd ⟨sound, spacing⟩ distinct
        | several => exact absurd rfl few
      · have behind : SpacedApart rest :=
          List.IsChain.of_cons (List.IsChain.right_of_append apart)
        rw [collapseSpacesFrom_cons_of_not_isSpacing before rest (by simpa using spacing),
          inductionHypothesis .zero trivial nofun behind]
        rfl

/-- Collapsing gives back a text without neighbouring spaces. -/
theorem collapseSpaces_eq_self {text : Text} (apart : SpacedApart text) :
    collapseSpaces text = text :=
  collapseSpacesFrom_eq_self .zero trivial nofun apart

/-- Squeezing gives back a text whose control characters are spaces, no two of them neighbours. A
space before the text counts as a neighbour. -/
theorem squeezeFrom_eq_self (inRun : Bool) {text : Text}
    (spaces : ∀ c ∈ text, isControlOrSpace c → c = ' ') (apart : SpacedApart text)
    (first : inRun → ∀ c ∈ text.head?, c ≠ ' ') :
    Text.squeezeFrom isControlOrSpace ' ' inRun text = text := by
  induction text generalizing inRun with
  | nil => rfl
  | cons c rest inductionHypothesis =>
      have restSpaces : ∀ d ∈ rest, isControlOrSpace d → d = ' ' :=
        fun d member => spaces d (List.mem_cons_of_mem _ member)
      rw [Text.squeezeFrom]
      by_cases control : isControlOrSpace c
      · have space : c = ' ' := spaces c List.mem_cons_self control
        subst space
        have nextPlain : ∀ d ∈ rest.head?, d ≠ ' ' := by
          rintro d member rfl
          exact (List.isChain_cons.mp apart).1 ' ' member ⟨by decide, by decide⟩
        cases inRun with
        | true => exact absurd rfl (first rfl ' ' rfl)
        | false =>
            rw [if_pos control, if_neg (by decide),
              inductionHypothesis true restSpaces apart.of_cons fun _ => nextPlain]
      · rw [if_neg control, inductionHypothesis false restSpaces apart.of_cons
          fun running => absurd running Bool.false_ne_true]

/-- Squeezing gives back a text whose control characters are spaces, no two of them neighbours. -/
theorem squeeze_eq_self {text : Text} (spaces : ∀ c ∈ text, isControlOrSpace c → c = ' ')
    (apart : SpacedApart text) : Text.squeeze isControlOrSpace ' ' text = text :=
  squeezeFrom_eq_self false spaces apart fun running => absurd running Bool.false_ne_true

end SafeMarkup
