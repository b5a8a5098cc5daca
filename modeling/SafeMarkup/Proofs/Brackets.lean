import SafeMarkup.Proofs.Reading

/-!
Contract: escapes and classes in brackets, read with and without more text behind them.

Owns: that both readings of a class agree.

Does not own: what reads them.
-/

namespace SafeMarkup.Pattern

open Reader

variable {tail : Text} {σ τ : ReaderState}

/-! ## Single characters -/

theorem alike_hexDigits (closes : Closes tail) (count value : Nat) :
    Unmoved tail (hexDigits count value) := by
  induction count generalizing value with
  | zero => exact alike_pure value
  | succ count inductionHypothesis =>
      refine (alike_skipBlanks closes).bind fun _ => alike_next.bind fun c => ?_
      split
      · exact inductionHypothesis _
      · exact alike_failure

theorem alike_bracedHex (closes : Closes tail) (fuel more : Nat) (value : Option Nat) :
    Alike tail (bracedHex fuel value) (bracedHex more value) := by
  induction fuel generalizing more value with
  | zero => exact alike_failure
  | succ fuel inductionHypothesis =>
      cases more with
      | zero => exact alike_failure_again
      | succ more =>
          refine (alike_skipBlanks closes).bind fun _ => alike_next.bind fun c => alike_ite ?_ ?_
          · split
            · exact alike_pure _
            · exact alike_failure
          · split
            · exact alike_ite (inductionHypothesis more _) alike_failure
            · exact alike_failure

theorem alike_codePoint (closes : Closes tail) (digits : Nat) :
    Unmoved tail (codePoint digits) := by
  have finish (inBraces : Prop) [Decidable inBraces] (value : Nat) : Unmoved tail (do
      if !inBraces ∧ digits = 2 ∧ !(← flags).unicode ∧ 128 ≤ value then failure
      if value.isValidChar then return Escaped.literal (Char.ofNat value) else failure) :=
    alike_flags.bind fun flags => alike_unless (alike_ite (alike_pure _) alike_failure)
  have fixed (inBraces : Prop) [Decidable inBraces] :=
    (alike_hexDigits closes digits 0).bind (finish inBraces)
  refine (alike_skipBlanks closes).bind fun _ => alike_peek_bind closes (fun c => ?_) ?_ ?_
  · refine alike_ite ?_ (fixed _)
    refine alike_next.bind fun _ => alike_rest_bind fun text other => ?_
    exact (alike_bracedHex closes _ _ none).bind (finish _)
  · exact fixed (none = some '\x7b')
  · exact fixed _

/-! ## Escapes -/

theorem splitOnce_append {mark : Char} {text before behind : Text}
    (split : Text.splitOnce mark text = some (before, behind)) :
    Text.splitOnce mark (text ++ tail) = some (before, behind ++ tail) := by
  obtain ⟨rfl, unmarked⟩ := Text.splitOnce_eq_some.mp split
  exact Text.splitOnce_eq_some.mpr ⟨by simp, unmarked⟩

theorem alike_braced : Unmoved tail braced := by
  have run_braced (σ : ReaderState) : braced.run σ =
      (Text.splitOnce '\x7d' σ.rest).map fun split => (split.1, { σ with rest := split.2 }) := by
    rw [braced, run_rest_bind]
    cases Text.splitOnce '\x7d' σ.rest <;> rfl
  intro σ τ ahead a b σ' τ' read again
  rw [run_braced] at read again
  obtain ⟨⟨inside, behind⟩, split, same⟩ := Option.map_eq_some_iff.mp read
  obtain ⟨rfl, rfl⟩ := Prod.mk.inj same
  cases ahead with
  | behind flags names rest =>
      rw [splitOnce_append split] at again
      obtain ⟨rfl, rfl⟩ := Prod.mk.inj (Option.some.inj again)
      exact ⟨rfl, .behind flags names behind⟩
  | taken flags names => exact absurd split nofun

theorem alike_bracedName (closes : Closes tail) (fuel more : Nat) (name : Text) :
    Alike tail (bracedName fuel name) (bracedName more name) := by
  induction fuel generalizing more name with
  | zero => exact alike_failure
  | succ fuel inductionHypothesis =>
      cases more with
      | zero => exact alike_failure_again
      | succ more =>
          refine (alike_skipBlanks closes).bind fun _ => alike_next.bind fun c => ?_
          exact alike_ite (alike_pure _) (inductionHypothesis more _)

theorem alike_unicodeClass (closes : Closes tail) (negate : Bool) :
    Unmoved tail (unicodeClass negate) := by
  refine alike_flags.bind fun flags => alike_unless ?_
  refine (alike_skipBlanks closes).bind fun _ => alike_next.bind fun c => ?_
  dsimp only
  refine alike_ite (alike_rest_bind fun text other => (alike_bracedName closes _ _ []).bind
    fun name => (alike_pure (propertySet name)).bind ?_) (alike_ite alike_failure
      ((alike_pure _).bind ?_))
  all_goals
    intro found
    cases found with
    | none => exact alike_failure
    | some property => exact alike_pure _

theorem alike_negated (flags : Flags) (negate : Bool) (set : CharSet) :
    Unmoved tail (flags.negated negate set) :=
  alike_ite (alike_ite (alike_pure _) alike_failure) (alike_pure _)

theorem alike_letterClass (unicodeSet asciiSet : CharSet) (negate : Bool) :
    Unmoved tail (letterClass unicodeSet asciiSet negate) :=
  alike_flags.bind fun flags => alike_negated flags negate _

theorem alike_boundaryName? (closes : Closes tail) : Unmoved tail boundaryName? := by
  intro σ τ ahead
  refine AlikeFrom.get_bind (alike_peek_bind closes (fun c => ?_) ?_ ?_ ahead)
  · refine alike_ite (alike_pure _) ?_
    refine alike_next.bind fun _ => (alike_peekPastBlanks closes).bind fun c => alike_ite ?_ ?_
    · exact (alike_set ahead).bind fun _ => alike_pure _
    · refine alike_braced.bind fun inside => ?_
      dsimp only
      rw [ahead.flags_eq]
      exact alike_ite (alike_pure _) alike_failure
  · exact alike_pure _
  · exact alike_pure _

theorem alike_escaped (closes : Closes tail) : Unmoved tail escaped := by
  refine alike_next.bind fun c => alike_flags.bind fun flags => ?_
  dsimp only
  refine alike_ite alike_failure ?_
  refine alike_ite (alike_codePoint closes 2) ?_
  refine alike_ite (alike_codePoint closes 4) ?_
  refine alike_ite (alike_codePoint closes 8) ?_
  refine alike_ite ((alike_unicodeClass closes _).bind fun _ => alike_pure _) ?_
  refine alike_ite ((alike_letterClass _ _ _).bind fun _ => alike_pure _) ?_
  refine alike_ite ((alike_letterClass _ _ _).bind fun _ => alike_pure _) ?_
  refine alike_ite ((alike_letterClass _ _ _).bind fun _ => alike_pure _) ?_
  iterate 11 refine alike_ite (alike_pure _) ?_
  refine alike_ite ?_ (alike_ite (alike_pure _) alike_failure)
  refine (alike_boundaryName? closes).bind fun name => ?_
  split
  · exact alike_pure _
  · iterate 4 refine alike_ite (alike_pure _) ?_
    exact alike_failure

/-! ## Classes in brackets -/

theorem splitOnce_append_none {mark : Char} (unmarked : mark ∉ tail) {text : Text}
    (nowhere : Text.splitOnce mark text = none) : Text.splitOnce mark (text ++ tail) = none := by
  induction text with
  | nil =>
      rw [List.nil_append, Option.eq_none_iff_forall_not_mem]
      rintro ⟨before, behind⟩ split
      obtain ⟨rfl, -⟩ := Text.splitOnce_eq_some.mp split
      simp at unmarked
  | cons c text inductionHypothesis =>
      rw [Text.splitOnce] at nowhere
      split_ifs at nowhere with here
      have behind := inductionHypothesis (Option.map_eq_none_iff.mp nowhere)
      rw [List.cons_append, Text.splitOnce, if_neg here, behind]
      rfl

theorem head?_append_closes (closes : Closes tail) {mark : Char} (other : mark ≠ ')')
    (text : Text) : (text ++ tail).head? = some mark ↔ text.head? = some mark := by
  cases text with
  | nil => simp [closes.parenthesis, Ne.symm other]
  | cons c text => rfl

/-- Whether a text begins with the sign of a complement, and what follows the sign. -/
def signed : Text → Bool × Text
  | '^' :: rest => (true, rest)
  | rest => (false, rest)

/-- A class of ASCII characters by its name: whether its complement is meant, its members, and the
text behind it. -/
def className? (text : Text) : Option (Bool × CharSet × Text) := do
  let inside ← Text.after? "[:" text
  let named ← Text.splitOnce ':' (signed inside).2
  let behind ← Text.after? "]" named.2
  let set ← CharSet.asciiNamed? (String.ofList named.1)
  return ((signed inside).1, set, behind)

theorem signed_append (closes : Closes tail) (text : Text) :
    signed (text ++ tail) = ((signed text).1, (signed text).2 ++ tail) := by
  cases text with
  | nil =>
      obtain ⟨more, rfl⟩ := List.head?_eq_some_iff.mp closes.parenthesis
      rfl
  | cons c text =>
      by_cases sign : c = '^'
      · subst sign
        rfl
      · have other (text : Text) : signed (c :: text) = (false, c :: text) := by
          unfold signed
          split
          · simp_all
          · rfl
        rw [List.cons_append, other, other, List.cons_append]

theorem className?_append (closes : Closes tail) (text : Text) : className? (text ++ tail) =
    (className? text).map fun found => (found.1, found.2.1, found.2.2 ++ tail) := by
  unfold className?
  rw [after?_append closes (by decide)]
  cases Text.after? "[:" text with
  | none => rfl
  | some inside =>
      simp only [Option.map_some, Option.bind_eq_bind, Option.bind_some, signed_append closes]
      cases split : Text.splitOnce ':' (signed inside).2 with
      | none => rw [splitOnce_append_none closes.noColon split]; rfl
      | some named =>
          rw [splitOnce_append split]
          simp only [Option.bind_some, after?_append closes (show ')' ∉ "]".toList by decide)]
          cases Text.after? "]" named.2 with
          | none => rfl
          | some behind =>
              simp only [Option.map_some, Option.bind_some]
              cases CharSet.asciiNamed? (String.ofList named.1) <;> rfl

theorem run_asciiClass? (σ : ReaderState) :
    asciiClass?.run σ = (className? σ.rest).elim (some (none, σ)) fun found =>
      (do
        setRest found.2.2
        let flags ← flags
        return some (← flags.negated found.1 (flags.closed found.2.1)) :
          Reader (Option CharSet)).run σ := by
  unfold asciiClass? className?
  rw [run_rest_bind]
  cases Text.after? "[:" σ.rest with
  | none => rfl
  | some inside =>
      dsimp only [Option.bind_eq_bind, Option.bind_some]
      split
      case h_1 name behind found =>
        have found : Text.splitOnce ':' (signed inside).2 = some (name, ']' :: behind) := found
        rw [found]
        simp only [Option.bind_some]
        cases CharSet.asciiNamed? (String.ofList name) <;> rfl
      case h_2 other =>
        cases found : Text.splitOnce ':' (signed inside).2 with
        | none => rfl
        | some named =>
            obtain ⟨name, rest⟩ := named
            cases rest with
            | nil => rfl
            | cons d behind =>
                have noBracket : d ≠ ']' := by
                  rintro rfl
                  exact other name behind found
                simp [Text.after?, Ne.symm noBracket]

theorem alike_asciiClass? (closes : Closes tail) : Unmoved tail asciiClass? := by
  intro σ τ ahead
  unfold AlikeFrom
  rw [run_asciiClass?, run_asciiClass?]
  cases ahead with
  | behind flags names rest =>
      simp only [className?_append closes]
      cases className? rest with
      | none => exact alike_pure none (.behind flags names rest)
      | some found =>
          have further : Unmoved tail (do
              let flags ← Reader.flags
              return some (← flags.negated found.1 (flags.closed found.2.1))) :=
            alike_flags.bind fun flags => (alike_negated flags _ _).bind fun _ => alike_pure _
          exact further (.behind flags names found.2.2)
  | taken flags names => exact alike_pure none (.taken flags names)

theorem alike_classCharacter (c : Char) : Unmoved tail (classCharacter c) :=
  alike_flags.bind fun _ => alike_unless (alike_pure c)

theorem alike_classItem (closes : Closes tail) : Unmoved tail classItem := by
  refine alike_next.bind fun c => alike_ite ?_ ?_
  · refine (alike_escaped closes).bind fun meaning => ?_
    cases meaning with
    | literal c => exact (alike_classCharacter c).bind fun _ => alike_pure _
    | set set => exact alike_pure _
    | assertion condition => exact alike_failure
  · exact (alike_classCharacter c).bind fun _ => alike_pure _

theorem head?_dropBlanks_append (closes : Closes tail) {mark : Char} (other : mark ≠ ')')
    (text : Text) : (dropBlanks (text ++ tail).length (text ++ tail)).head? = some mark ↔
      (dropBlanks text.length text).head? = some mark := by
  rcases dropBlanks_append closes (Nat.le_refl text.length) (Nat.le_refl _) with
    kept | ⟨taken, none⟩
  · rw [kept, head?_append_closes closes other]
  · rw [taken, none]

theorem alike_classRange (closes : Closes tail) : Unmoved tail classRange := by
  refine (alike_classItem closes).bind fun first => (alike_skipBlanks closes).bind fun _ => ?_
  intro σ τ ahead
  refine AlikeFrom.rest_bind ?_
  cases ahead with
  | taken flags names => exact fun _ _ _ _ read => absurd read nofun
  | behind flags names rest =>
      cases rest with
      | nil => exact fun _ _ _ _ read => absurd read nofun
      | cons c text =>
          have begins (mark : Char) (other : mark ≠ ')') :
              (if flags.ignoreBlanks then dropBlanks (text ++ tail).length (text ++ tail)
                else text ++ tail).head? = some mark ↔
              (if flags.ignoreBlanks then dropBlanks text.length text else text).head? =
                some mark := by
            split
            · exact head?_dropBlanks_append closes other text
            · exact head?_append_closes closes other text
          simp only [List.cons_append, List.isEmpty_cons, Bool.false_eq_true, if_false]
          refine AlikeFrom.flags_bind ?_
          simp only [List.head?_cons, List.drop_one, List.tail_cons, ne_eq, begins ']' (by decide),
            begins '-' (by decide)]
          refine alike_ite ?_ ?_ (.behind flags names (c :: text))
          · refine alike_next.bind fun _ => (alike_skipBlanks closes).bind fun _ => ?_
            refine (alike_classItem closes).bind fun last => ?_
            cases first with
            | inl first =>
                cases last with
                | inl last => exact alike_ite (alike_pure _) alike_failure
                | inr set => exact alike_failure
            | inr set => exact alike_failure
          · cases first with
            | inl c => exact alike_pure _
            | inr set => exact alike_pure _

/-! ### Opening hyphens -/

/-- Fuel that exceeds the text left never runs out. -/
theorem alikeFrom_openingHyphens (closes : Closes tail) {fuel more : Nat}
    (members : List NestedSet) (ahead : Ahead tail σ τ) (enough : σ.rest.length < fuel)
    (enoughAgain : τ.rest.length < more) :
    AlikeFrom tail σ τ (openingHyphens fuel members) (openingHyphens more members) := by
  induction fuel generalizing more members σ τ with
  | zero => exact absurd enough (Nat.not_lt_zero _)
  | succ fuel inductionHypothesis =>
      cases more with
      | zero => exact absurd enoughAgain (Nat.not_lt_zero _)
      | succ more =>
          refine AlikeFrom.bind (alike_peekPastBlanks closes ahead) ?_
          intro c σ' τ' read again between
          have shorter := (of_peekPastBlanks read).2
          have shorterAgain := (of_peekPastBlanks again).2
          split
          · refine AlikeFrom.bind (alike_next between) ?_
            intro _ σ'' τ'' read again further
            have less := length_of_next read
            have lessAgain := length_of_next again
            exact inductionHypothesis _ further (by omega) (by omega)
          · exact alike_pure _ between

/-- The second of two characters is dropped with the first. -/
theorem alikeFrom_operator {x y : Reader α} (further : Alike tail x y) (flags : Flags)
    (names : List Text) (c : Char) {d : Char} {text : Text} (second : text.head? = some d) :
    AlikeFrom tail ⟨flags, names, c :: text⟩ ⟨flags, names, c :: text ++ tail⟩
      (rest >>= fun text => setRest (text.drop 2) >>= fun _ => x)
      (rest >>= fun text => setRest (text.drop 2) >>= fun _ => y) := by
  obtain ⟨behind, rfl⟩ := List.head?_eq_some_iff.mp second
  exact further (.behind flags names behind)

theorem alike_bracketed_succ (closes : Closes tail) {fuel more : Nat}
    (members : ∀ nesting deeper state,
      Alike tail (classMembers nesting fuel state) (classMembers deeper more state))
    (nesting deeper : Nat) :
    Alike tail (bracketed nesting (fuel + 1)) (bracketed deeper (more + 1)) := by
  rw [bracketed, bracketed]
  refine alike_unless (alike_next.bind fun _ => ?_)
  refine (alike_peekPastBlanks closes).bind fun c => ?_
  refine (fun inside => alike_ite (alike_next.bind fun _ => inside) inside) ?_
  intro σ τ ahead
  refine AlikeFrom.rest_bind ?_
  refine AlikeFrom.bind (alikeFrom_openingHyphens closes [] ahead (Nat.lt_succ_self _)
    (Nat.lt_succ_self _)) ?_
  intro hyphens σ' τ' _ _ between
  refine (?_ : Alike tail _ _) between
  refine (alike_peekPastBlanks closes).bind fun d => ?_
  refine (fun inside => alike_ite
    (alike_next.bind fun _ => (alike_pure _).bind inside) ((alike_pure _).bind inside)) ?_
  intro opened
  refine (members _ _ _).bind fun inside => alike_flags.bind fun flags => ?_
  exact (alike_negated flags _ _).bind fun _ => alike_pure _

theorem alike_classMembers_succ (closes : Closes tail) {fuel more : Nat}
    (nested : ∀ nesting deeper, Alike tail (bracketed nesting fuel) (bracketed deeper more))
    (members : ∀ nesting deeper state,
      Alike tail (classMembers nesting fuel state) (classMembers deeper more state))
    (nesting deeper : Nat) (state : ClassState) :
    Alike tail (classMembers nesting (fuel + 1) state)
      (classMembers deeper (more + 1) state) := by
  intro σ τ ahead
  rw [classMembers, classMembers]
  refine AlikeFrom.bind (alike_peekPastBlanks closes ahead) ?_
  intro c σ' τ' read _ between
  obtain ⟨text, split⟩ := List.head?_eq_some_iff.mp (of_peekPastBlanks read).1
  cases between with
  | taken => exact absurd split nofun
  | behind flags names rest =>
      obtain rfl : rest = c :: text := split
      have second (mark : Char) (other : mark ≠ ')') :
          (text ++ tail).head? = some mark ↔ text.head? = some mark :=
        head?_append_closes closes other text
      refine AlikeFrom.peekSecond_bind (AlikeFrom.flags_bind ?_)
      simp only [List.cons_append, List.drop_one, List.tail_cons, second '&' (by decide),
        second '-' (by decide), second '~' (by decide)]
      have ahead : Ahead tail ⟨flags, names, c :: text⟩
          ⟨flags, names, c :: text ++ tail⟩ := .behind flags names (c :: text)
      split
      · refine ((alike_asciiClass? closes).bind fun found => ?_) ahead
        cases found with
        | some set => exact members _ _ _
        | none => exact (nested _ _).bind fun inside => members _ _ _
      split
      · exact (alike_next.bind fun _ => alike_pure _) ahead
      split
      case isTrue doubled =>
        exact alikeFrom_operator (members _ _ _) flags names c doubled.2
      split
      case isTrue doubled =>
        exact alikeFrom_operator (members _ _ _) flags names c doubled.2
      split
      case isTrue doubled =>
        exact alikeFrom_operator (members _ _ _) flags names c doubled.2
      exact ((alike_classRange closes).bind fun set => members _ _ _) ahead

theorem alike_bracketed (closes : Closes tail) (fuel more : Nat) :
    (∀ nesting deeper, Alike tail (bracketed nesting fuel) (bracketed deeper more)) ∧
      ∀ nesting deeper state,
        Alike tail (classMembers nesting fuel state) (classMembers deeper more state) := by
  induction fuel generalizing more with
  | zero => exact ⟨fun _ _ => alike_failure, fun _ _ _ => alike_failure⟩
  | succ fuel inductionHypothesis =>
      cases more with
      | zero => exact ⟨fun _ _ => alike_failure_again, fun _ _ _ => alike_failure_again⟩
      | succ more =>
          obtain ⟨nested, members⟩ := inductionHypothesis more
          exact ⟨alike_bracketed_succ closes members,
            alike_classMembers_succ closes nested members⟩

end SafeMarkup.Pattern
