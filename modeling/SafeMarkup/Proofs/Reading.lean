import SafeMarkup.Pattern.Reader
import SafeMarkup.Proofs.Pieces
import Mathlib.Data.List.TakeWhile

/-!
Contract: a text that is read on its own, and again with more text behind it.

Owns: what it means that both readings agree, if both succeed and the text behind begins with a
closing parenthesis, the rules to show it, and the readings of single characters and blanks, which
leave less of the text. Only a comment can reach beyond the end of the text, and then it takes all
that is behind.

Does not own: the notation of patterns.
-/

namespace SafeMarkup.Pattern

open Reader

/-- A text that ends the group before it, and the comment in it if there is one. -/
structure Closes (tail : Text) : Prop where
  parenthesis : tail.head? = some ')'
  oneLine : '\n' ∉ tail
  noColon : ':' ∉ tail

/-- Of two states the second has a text behind the rest of the first, unless a comment took it. -/
inductive Ahead (tail : Text) : ReaderState → ReaderState → Prop
  | behind (flags : Flags) (names : List Text) (rest : Text) :
      Ahead tail ⟨flags, names, rest⟩ ⟨flags, names, rest ++ tail⟩
  | taken (flags : Flags) (names : List Text) : Ahead tail ⟨flags, names, []⟩ ⟨flags, names, []⟩

variable {tail : Text} {α β : Type} {σ τ : ReaderState}

/-- From two states two readers read the same, if both read something. -/
def AlikeFrom (tail : Text) (σ τ : ReaderState) (x y : Reader α) : Prop :=
  ∀ ⦃a b : α⦄ ⦃σ' τ' : ReaderState⦄, x.run σ = some (a, σ') → y.run τ = some (b, τ') →
    a = b ∧ Ahead tail σ' τ'

/-- Of two readers the second reads what the first reads, with a text behind it. -/
def Alike (tail : Text) (x y : Reader α) : Prop :=
  ∀ ⦃σ τ : ReaderState⦄, Ahead tail σ τ → AlikeFrom tail σ τ x y

/-- A reader reads the same with a text behind. -/
abbrev Unmoved (tail : Text) (x : Reader α) : Prop := Alike tail x x

/-! ## Rules -/

theorem run_bind (x : Reader α) (f : α → Reader β) (σ : ReaderState) :
    (x >>= f).run σ = (x.run σ).bind fun read => (f read.1).run read.2 := rfl

theorem run_bind_eq_some {x : Reader α} {f : α → Reader β} {b : β} {σ' : ReaderState} :
    (x >>= f).run σ = some (b, σ') ↔
      ∃ a middle, x.run σ = some (a, middle) ∧ (f a).run middle = some (b, σ') := by
  rw [run_bind, Option.bind_eq_some_iff]
  exact Prod.exists

theorem alikeFrom_of_run {x y : Reader α} {a : α} {σ' τ' : ReaderState}
    (read : x.run σ = some (a, σ')) (again : y.run τ = some (a, τ')) (ahead : Ahead tail σ' τ') :
    AlikeFrom tail σ τ x y := by
  intro b c σ'' τ'' other otherAgain
  obtain ⟨rfl, rfl⟩ := Prod.mk.inj (Option.some.inj (read.symm.trans other))
  obtain ⟨rfl, rfl⟩ := Prod.mk.inj (Option.some.inj (again.symm.trans otherAgain))
  exact ⟨rfl, ahead⟩

theorem alike_pure (a : α) : Unmoved tail (pure a : Reader α) :=
  fun _ _ ahead => alikeFrom_of_run rfl rfl ahead

theorem alikeFrom_failure {y : Reader α} : AlikeFrom tail σ τ failure y :=
  fun _ _ _ _ read => absurd read nofun

theorem alike_failure {y : Reader α} : Alike tail failure y :=
  fun _ _ _ => alikeFrom_failure

theorem alike_failure_again {x : Reader α} : Alike tail x failure :=
  fun _ _ _ _ _ _ _ _ again => absurd again nofun

theorem AlikeFrom.bind {x y : Reader α} {f g : α → Reader β} (first : AlikeFrom tail σ τ x y)
    (further : ∀ a σ' τ', x.run σ = some (a, σ') → y.run τ = some (a, τ') → Ahead tail σ' τ' →
      AlikeFrom tail σ' τ' (f a) (g a)) :
    AlikeFrom tail σ τ (x >>= f) (y >>= g) := by
  intro a b σ' τ' read again
  obtain ⟨value, middle, begun, read⟩ := run_bind_eq_some.mp read
  obtain ⟨other, between, begunAgain, again⟩ := run_bind_eq_some.mp again
  obtain ⟨rfl, ahead⟩ := first begun begunAgain
  exact further value middle between begun begunAgain ahead read again

theorem Alike.bind {x y : Reader α} {f g : α → Reader β} (first : Alike tail x y)
    (further : ∀ a, Alike tail (f a) (g a)) : Alike tail (x >>= f) (y >>= g) :=
  fun _ _ ahead => AlikeFrom.bind (first ahead) fun a _ _ _ _ between => further a between

theorem alike_ite {condition : Prop} [Decidable condition] {x y x' y' : Reader α}
    (holds : Alike tail x y) (fails : Alike tail x' y') :
    Alike tail (if condition then x else x') (if condition then y else y') := by
  split
  · exact holds
  · exact fails

/-- Two readings that go on unless conditions hold. -/
theorem alike_unless {condition other : Prop} [Decidable condition] [Decidable other]
    {x y : Reader α} (further : Alike tail x y) :
    Alike tail (if condition then failure >>= fun _ : Unit => x else x)
      (if other then failure >>= fun _ : Unit => y else y) := by
  split
  · exact alike_failure
  · split
    · exact fun _ _ _ _ _ _ _ _ again => absurd again nofun
    · exact further

/-! ## Flags, names and the text left -/

theorem alike_flags : Unmoved tail flags := by
  intro σ τ ahead
  cases ahead with
  | behind flags names rest => exact alikeFrom_of_run rfl rfl (.behind flags names rest)
  | taken flags names => exact alikeFrom_of_run rfl rfl (.taken flags names)

theorem alike_setFlags (flags : Flags) : Unmoved tail (setFlags flags) := by
  intro σ τ ahead
  cases ahead with
  | behind _ names rest => exact alikeFrom_of_run rfl rfl (.behind flags names rest)
  | taken _ names => exact alikeFrom_of_run rfl rfl (.taken flags names)

theorem AlikeFrom.get_bind {f g : ReaderState → Reader α}
    (further : AlikeFrom tail σ τ (f σ) (g τ)) : AlikeFrom tail σ τ (get >>= f) (get >>= g) :=
  further

theorem alike_set (ahead : Ahead tail σ τ) : Alike tail (set σ : Reader Unit) (set τ) :=
  fun _ _ _ => alikeFrom_of_run rfl rfl ahead

theorem Ahead.flags_eq (ahead : Ahead tail σ τ) : σ.flags = τ.flags := by
  cases ahead <;> rfl

theorem run_rest_bind (f : Text → Reader α) (σ : ReaderState) :
    (rest >>= f).run σ = (f σ.rest).run σ := rfl

theorem run_peek?_bind (f : Option Char → Reader α) (σ : ReaderState) :
    (peek? >>= f).run σ = (f σ.rest.head?).run σ := rfl

theorem run_setRest_bind (text : Text) (f : Unit → Reader α) (σ : ReaderState) :
    (setRest text >>= f).run σ = (f ()).run { σ with rest := text } := rfl

theorem AlikeFrom.rest_bind {f g : Text → Reader α}
    (further : AlikeFrom tail σ τ (f σ.rest) (g τ.rest)) :
    AlikeFrom tail σ τ (rest >>= f) (rest >>= g) := further

theorem AlikeFrom.flags_bind {f g : Flags → Reader α}
    (further : AlikeFrom tail σ τ (f σ.flags) (g τ.flags)) :
    AlikeFrom tail σ τ (flags >>= f) (flags >>= g) := further

theorem AlikeFrom.peekSecond_bind {f g : Option Char → Reader α}
    (further : AlikeFrom tail σ τ (f (σ.rest.drop 1).head?) (g (τ.rest.drop 1).head?)) :
    AlikeFrom tail σ τ (peekSecond? >>= f) (peekSecond? >>= g) := further

theorem alike_next : Unmoved tail next := by
  intro σ τ ahead
  cases ahead with
  | behind flags names rest =>
      cases rest with
      | nil => exact fun _ _ _ _ read => absurd read nofun
      | cons c rest => exact alikeFrom_of_run rfl rfl (.behind flags names rest)
  | taken flags names => exact fun _ _ _ _ read => absurd read nofun

/-- The next character is the same, if there is one; at the end there is none or a parenthesis. -/
theorem AlikeFrom.peek_bind {f g : Option Char → Reader α} (closes : Closes tail)
    (ahead : Ahead tail σ τ) (inside : ∀ c, AlikeFrom tail σ τ (f (some c)) (g (some c)))
    (last : AlikeFrom tail σ τ (f none) (g (some ')')))
    (taken : AlikeFrom tail σ τ (f none) (g none)) :
    AlikeFrom tail σ τ (peek? >>= f) (peek? >>= g) := by
  unfold AlikeFrom
  rw [run_peek?_bind, run_peek?_bind]
  cases ahead with
  | behind flags names rest =>
      cases rest with
      | nil =>
          have first : ([] ++ tail).head? = some ')' := closes.parenthesis
          simp only [first]
          exact last
      | cons c rest => exact inside c
  | taken flags names => exact taken

theorem alike_peek_bind {f g : Option Char → Reader α} (closes : Closes tail)
    (inside : ∀ c, Alike tail (f (some c)) (g (some c)))
    (last : Alike tail (f none) (g (some ')'))) (taken : Alike tail (f none) (g none)) :
    Alike tail (peek? >>= f) (peek? >>= g) :=
  fun _ _ ahead => AlikeFrom.peek_bind closes ahead (fun c => inside c ahead) (last ahead)
    (taken ahead)

/-- A change of the text left that leaves the text behind alone. -/
theorem alike_moveRest {move : Text → Text} {x y : Reader α}
    (moves : ∀ text, move (text ++ tail) = move text ++ tail) (ends : move [] = [])
    (further : Alike tail x y) :
    Alike tail (rest >>= fun text => setRest (move text) >>= fun _ => x)
      (rest >>= fun text => setRest (move text) >>= fun _ => y) := by
  intro σ τ ahead
  unfold AlikeFrom
  rw [run_rest_bind, run_rest_bind, run_setRest_bind, run_setRest_bind]
  cases ahead with
  | behind flags names rest =>
      rw [moves]
      exact further (.behind flags names (move rest))
  | taken flags names =>
      simp only [ends]
      exact further (.taken flags names)

/-- A use of the text left that reads the same, whatever is left. -/
theorem alike_rest_bind {f g : Text → Reader α}
    (further : ∀ text other, Alike tail (f text) (g other)) :
    Alike tail (rest >>= f) (rest >>= g) := by
  intro σ τ ahead
  unfold AlikeFrom
  rw [run_rest_bind, run_rest_bind]
  exact further σ.rest τ.rest ahead

/-! ## Given texts -/

theorem after?_append {lead : Text} (closes : Closes tail) (opens : ')' ∉ lead) (text : Text) :
    Text.after? lead (text ++ tail) = (Text.after? lead text).map (· ++ tail) := by
  induction lead generalizing text with
  | nil => rfl
  | cons c lead inductionHypothesis =>
      obtain ⟨other, behind⟩ := not_or.mp (List.mem_cons.not.mp opens)
      cases text with
      | nil =>
          obtain ⟨more, rfl⟩ := List.head?_eq_some_iff.mp closes.parenthesis
          simp [Text.after?, Ne.symm other]
      | cons d text =>
          rw [List.cons_append, Text.after?, Text.after?, inductionHypothesis behind]
          split <;> rfl

theorem run_accept_bind (lead : Text) (f : Bool → Reader α) (σ : ReaderState) :
    (accept lead >>= f).run σ = match Text.after? lead σ.rest with
      | some behind => (f true).run { σ with rest := behind }
      | none => (f false).run σ := by
  rw [run_bind, accept, run_rest_bind]
  cases Text.after? lead σ.rest <;> rfl

/-- A text without a closing parenthesis is there in both readings or in neither. -/
theorem alike_accept {lead : Text} (closes : Closes tail) (opens : ')' ∉ lead) :
    Unmoved tail (accept lead) := by
  intro σ τ ahead
  refine AlikeFrom.rest_bind ?_
  cases ahead with
  | behind flags names rest =>
      dsimp only
      rw [after?_append closes opens]
      cases Text.after? lead rest with
      | none => exact alike_pure false (.behind flags names rest)
      | some behind =>
          have further : Unmoved tail (pure true : Reader Bool) := alike_pure true
          exact further (.behind flags names behind)
  | taken flags names =>
      cases lead with
      | nil => exact alike_pure true (.taken flags names)
      | cons c lead => exact alike_pure false (.taken flags names)

/-- A text that has to be there is there in both readings. -/
theorem alike_need_bind {c : Char} {f g : Bool → Reader α} (fails : ∀ σ, (f false).run σ = none)
    (further : Alike tail (f true) (g true)) :
    Alike tail (accept [c] >>= f) (accept [c] >>= g) := by
  intro σ τ ahead a b σ' τ' read again
  rw [run_accept_bind] at read again
  cases ahead with
  | behind flags names rest =>
      cases rest with
      | nil => exact absurd read (by simp [Text.after?, fails])
      | cons d rest =>
          by_cases same : c = d
          · simp only [List.cons_append, Text.after?, same, if_true] at read again
            exact further (.behind flags names rest) read again
          · exact absurd read (by simp [Text.after?, same, fails])
  | taken flags names => exact absurd read (by simp [Text.after?, fails])

/-! ## Blanks -/

theorem dropBlanks_nil (fuel : Nat) : dropBlanks fuel [] = [] := by
  cases fuel <;> rfl

theorem length_dropBlanks (fuel : Nat) (text : Text) :
    (dropBlanks fuel text).length ≤ text.length := by
  induction fuel generalizing text with
  | zero => exact Nat.le_refl _
  | succ fuel inductionHypothesis =>
      cases text with
      | nil => exact Nat.le_refl 0
      | cons c behind =>
          have blank := inductionHypothesis behind
          have comment := inductionHypothesis ((behind.dropWhile (· != '\n')).drop 1)
          have shorter := (List.dropWhile_suffix (· != '\n') (l := behind)).length_le
          simp only [dropBlanks, List.length_drop, List.length_cons] at comment ⊢
          split_ifs
          · omega
          · omega
          · exact Nat.le_refl _

/-- A comment that reaches the end of a text takes what is behind it. -/
theorem dropBlanks_append (closes : Closes tail) {fuel more : Nat} {text : Text}
    (enough : text.length ≤ fuel) (enoughMore : (text ++ tail).length ≤ more) :
    dropBlanks more (text ++ tail) = dropBlanks fuel text ++ tail ∨
      dropBlanks more (text ++ tail) = [] ∧ dropBlanks fuel text = [] := by
  induction more generalizing fuel text with
  | zero =>
      obtain ⟨behind, rfl⟩ := List.head?_eq_some_iff.mp closes.parenthesis
      simp at enoughMore
  | succ more inductionHypothesis =>
      cases text with
      | nil =>
          obtain ⟨behind, rfl⟩ := List.head?_eq_some_iff.mp closes.parenthesis
          have notBlank : Text.isBlank ')' = false := by decide
          left
          simp [dropBlanks, dropBlanks_nil, notBlank]
      | cons c text =>
          obtain ⟨left, rfl⟩ : ∃ left, fuel = left + 1 := Nat.exists_eq_add_one.mpr (by
            simp only [List.length_cons] at enough
            omega)
          simp only [List.cons_append, List.length_cons, Nat.add_le_add_iff_right]
            at enough enoughMore
          rw [List.cons_append, dropBlanks, dropBlanks]
          split_ifs with blank comment
          · exact inductionHypothesis enough enoughMore
          · rw [List.dropWhile_append]
            split_ifs with whole
            · right
              have noLineEnd : tail.dropWhile (· != '\n') = [] := by
                rw [List.dropWhile_eq_nil_iff]
                rintro d member
                simpa using ne_of_mem_of_not_mem member closes.oneLine
              rw [List.isEmpty_iff.mp whole, noLineEnd]
              exact ⟨dropBlanks_nil _, dropBlanks_nil _⟩
            · obtain ⟨d, behind, split⟩ : ∃ d behind, text.dropWhile (· != '\n') = d :: behind :=
                List.exists_cons_of_ne_nil fun none => whole (by simp [none])
              have shorter := (List.dropWhile_suffix (· != '\n') (l := text)).length_le
              rw [split] at shorter ⊢
              simp only [List.length_cons, List.length_append] at shorter enoughMore
              apply inductionHypothesis
              · show behind.length ≤ left
                omega
              · show (behind ++ tail).length ≤ more
                rw [List.length_append]
                omega
          · exact .inl rfl

theorem alike_skipBlanks (closes : Closes tail) : Unmoved tail skipBlanks := by
  refine alike_flags.bind ?_
  intro flags
  split
  · intro σ τ ahead
    refine alikeFrom_of_run rfl rfl ?_
    cases ahead with
    | behind flags names rest =>
        show Ahead tail ⟨flags, names, dropBlanks rest.length rest⟩
          ⟨flags, names, dropBlanks (rest ++ tail).length (rest ++ tail)⟩
        rcases dropBlanks_append closes (Nat.le_refl rest.length) (Nat.le_refl _) with
          kept | ⟨taken, none⟩
        · rw [kept]
          exact .behind flags names _
        · rw [taken, none]
          exact .taken flags names
    | taken flags names => exact .taken flags names
  · exact alike_pure ()

theorem alike_peekPastBlanks (closes : Closes tail) :
    Unmoved tail peekPastBlanks := by
  refine (alike_skipBlanks closes).bind ?_
  intro _
  exact alike_peek_bind closes alike_pure alike_failure alike_failure

/-! ## Progress -/

theorem length_of_skipBlanks {σ' : ReaderState} (read : skipBlanks.run σ = some ((), σ')) :
    σ'.rest.length ≤ σ.rest.length := by
  have skipped : skipBlanks.run σ = some ((), if σ.flags.ignoreBlanks then
      { σ with rest := dropBlanks σ.rest.length σ.rest } else σ) := by
    show StateT.run (if σ.flags.ignoreBlanks then _ else _) σ = _
    split <;> rfl
  rw [skipped] at read
  obtain ⟨-, rfl⟩ := Prod.mk.inj (Option.some.inj read)
  split
  · exact length_dropBlanks _ _
  · exact Nat.le_refl _

theorem of_peekPastBlanks {c : Char} {σ' : ReaderState}
    (read : peekPastBlanks.run σ = some (c, σ')) :
    σ'.rest.head? = some c ∧ σ'.rest.length ≤ σ.rest.length := by
  obtain ⟨_, middle, skipped, read⟩ := run_bind_eq_some.mp read
  rw [run_peek?_bind] at read
  cases first : middle.rest.head? with
  | none =>
      rw [first] at read
      exact absurd read nofun
  | some d =>
      rw [first] at read
      obtain ⟨rfl, rfl⟩ := Prod.mk.inj (Option.some.inj read)
      exact ⟨first, length_of_skipBlanks skipped⟩

theorem length_of_next {c : Char} {σ' : ReaderState} (read : next.run σ = some (c, σ')) :
    σ'.rest.length < σ.rest.length := by
  obtain ⟨flags, names, text⟩ := σ
  cases text with
  | nil => exact absurd read nofun
  | cons d text =>
      obtain ⟨rfl, rfl⟩ := Prod.mk.inj (Option.some.inj read)
      exact Nat.lt_succ_self text.length

end SafeMarkup.Pattern
