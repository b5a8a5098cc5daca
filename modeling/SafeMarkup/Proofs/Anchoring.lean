import SafeMarkup.Proofs.Brackets
import SafeMarkup.Proofs.Preference
import SafeMarkup.Validator.Grammar
import Mathlib

/-!
Contract: patterns between the anchors of a grammar.

Owns: that a pattern that can be read on its own is read the same between the anchors, so that it is
one group there; and that what a grammar of such a pattern matches begins where the value begins,
and ends where it ends if garbage is not trimmed.

Does not own: what a pattern matches.
-/

namespace SafeMarkup.Pattern

open Reader

variable {tail : Text} {σ τ : ReaderState}

/-! ## Repetitions -/

/-- Fuel that exceeds the text left never runs out. -/
theorem alikeFrom_decimalDigits (closes : Closes tail) {fuel more : Nat} (digits : Text)
    (ahead : Ahead tail σ τ) (enough : σ.rest.length < fuel) (enoughAgain : τ.rest.length < more) :
    AlikeFrom tail σ τ (decimalDigits fuel digits) (decimalDigits more digits) := by
  induction fuel generalizing more digits σ τ with
  | zero => exact absurd enough (Nat.not_lt_zero _)
  | succ fuel inductionHypothesis =>
      cases more with
      | zero => exact absurd enoughAgain (Nat.not_lt_zero _)
      | succ more =>
          have finished : Unmoved tail (pure digits.reverse : Reader Text) := alike_pure _
          refine AlikeFrom.peek_bind closes ahead (fun c => ?_) (finished ahead) (finished ahead)
          cases (some c).filter Char.isDigit with
          | none => exact finished ahead
          | some digit =>
              refine AlikeFrom.bind (alike_next ahead) ?_
              intro _ σ' τ' read again between
              refine AlikeFrom.bind (alike_skipBlanks closes between) ?_
              intro _ σ'' τ'' skipped skippedAgain further
              have less := length_of_next read
              have lessAgain := length_of_next again
              have shorter := length_of_skipBlanks skipped
              have shorterAgain := length_of_skipBlanks skippedAgain
              exact inductionHypothesis _ further (by omega) (by omega)

theorem dropWhile_isBlank_append (closes : Closes tail) (text : Text) :
    (text ++ tail).dropWhile Text.isBlank = text.dropWhile Text.isBlank ++ tail := by
  obtain ⟨more, rfl⟩ := List.head?_eq_some_iff.mp closes.parenthesis
  have notBlank : Text.isBlank ')' = false := by decide
  rw [List.dropWhile_append]
  split_ifs with blank
  · rw [List.isEmpty_iff.mp blank, List.dropWhile_cons, notBlank]
    rfl
  · rfl

theorem alike_decimal (closes : Closes tail) : Unmoved tail decimal := by
  refine alike_moveRest (dropWhile_isBlank_append closes) rfl ?_
  intro σ τ ahead
  refine AlikeFrom.rest_bind ?_
  refine AlikeFrom.bind (alikeFrom_decimalDigits closes [] ahead (Nat.lt_succ_self _)
    (Nat.lt_succ_self _)) ?_
  intro digits σ' τ' _ _ between
  refine (?_ : Alike tail _ _) between
  refine alike_moveRest (dropWhile_isBlank_append closes) rfl ?_
  refine (alike_skipBlanks closes).bind fun _ => ?_
  cases Text.toNat? digits with
  | none => exact alike_failure
  | some value => exact alike_ite (alike_pure _) alike_failure

/-- What is read of bounds behind their numbers. -/
def closeBounds (least : Nat) (most : Option Nat) : Reader (Nat × Option Nat) := do
  if (← next) != '\x7d' then failure
  skipBlanks
  match most with
  | some most => if least ≤ most then return (least, some most) else failure
  | none => return (least, none)

theorem alike_closeBounds (closes : Closes tail) (least : Nat) (most : Option Nat) :
    Unmoved tail (closeBounds least most) := by
  refine alike_next.bind fun _ => alike_unless ((alike_skipBlanks closes).bind fun _ => ?_)
  cases most with
  | none => exact alike_pure _
  | some most => exact alike_ite (alike_pure _) alike_failure

theorem alike_bounds (closes : Closes tail) : Unmoved tail bounds := by
  refine alike_next.bind fun _ => (alike_skipBlanks closes).bind fun _ => ?_
  refine (alike_decimal closes).bind fun least => ?_
  have finish := alike_closeBounds closes least
  have exactly : Unmoved tail (pure (some least) >>= closeBounds least) :=
    (alike_pure (some least)).bind finish
  refine alike_peek_bind closes (fun c => alike_ite ?_ exactly) exactly exactly
  refine alike_next.bind fun _ => (alike_peekPastBlanks closes).bind fun c => ?_
  refine alike_ite ((alike_pure none).bind finish) ?_
  exact (alike_decimal closes).bind fun most => (alike_pure (some most)).bind finish

theorem alike_greed (closes : Closes tail) : Unmoved tail greed :=
  (alike_accept closes (by decide)).bind fun _ => alike_flags.bind fun _ => alike_pure _

/-! ## Groups -/

theorem alike_flagItems (fuel more : Nat) (flags : Flags) (seen : Text) :
    Alike tail (flagItems fuel flags seen) (flagItems more flags seen) := by
  induction fuel generalizing more flags seen with
  | zero => exact alike_failure
  | succ fuel inductionHypothesis =>
      cases more with
      | zero => exact alike_failure_again
      | succ more =>
          refine alike_next.bind fun c => ?_
          refine alike_ite (alike_ite alike_failure (alike_pure _)) ?_
          refine alike_ite alike_failure (alike_ite (inductionHypothesis _ _ _) ?_)
          cases flags.set (!seen.contains '-') c with
          | none => exact alike_failure
          | some flags => exact inductionHypothesis _ _ _

theorem alike_groupName : Unmoved tail groupName := by
  intro σ τ ahead
  refine AlikeFrom.rest_bind ?_
  cases ahead with
  | taken flags names => exact alike_failure (.taken flags names)
  | behind flags names rest =>
      dsimp only
      cases split : Text.splitOnce '>' rest with
      | none => exact alike_failure (.behind flags names rest)
      | some named =>
          obtain ⟨name, behind⟩ := named
          rw [splitOnce_append split]
          refine AlikeFrom.get_bind ?_
          refine alike_unless (alike_set ?_) (.behind flags names rest)
          exact .behind flags (name :: names) behind

theorem alike_opening (closes : Closes tail) : Unmoved tail opening := by
  refine (alike_skipBlanks closes).bind fun _ => alike_flags.bind fun flags => ?_
  iterate 4 refine (alike_accept closes (by decide)).bind fun _ => ?_
  refine alike_unless ?_
  have named : Unmoved tail (accept "?P<" <||> accept "?<") := by
    refine (alike_accept closes (by decide)).bind fun there => ?_
    cases there with
    | true => exact alike_pure true
    | false => exact alike_accept closes (by decide)
  refine named.bind fun _ => alike_ite (alike_groupName.bind fun _ => alike_pure _) ?_
  refine (alike_accept closes (by decide)).bind fun _ => alike_ite ?_ (alike_pure _)
  refine alike_rest_bind fun text other => (alike_flagItems _ _ flags []).bind fun read => ?_
  obtain ⟨flags, blank, opens⟩ := read
  exact alike_ite (alike_pure _) (alike_unless (alike_pure _))

/-! ## Patterns -/

theorem alike_literal (c : Char) : Unmoved tail (literal c) :=
  alike_flags.bind fun _ => alike_pure _

theorem alike_primitive (closes : Closes tail) : Unmoved tail primitive := by
  refine alike_flags.bind fun flags => alike_next.bind fun c => ?_
  refine alike_ite (alike_ite alike_failure
    (alike_ite (alike_pure _) (alike_ite (alike_pure _) (alike_pure _)))) ?_
  refine alike_ite (alike_pure _) (alike_ite (alike_pure _) (alike_ite ?_ (alike_literal c)))
  refine (alike_escaped closes).bind fun meaning => ?_
  cases meaning with
  | literal c => exact alike_literal c
  | set set => exact alike_pure _
  | assertion condition => exact alike_pure _

theorem alike_repeatLast (closes : Closes tail) (least : Nat) (most : Option Nat)
    (parts : List Part) : Unmoved tail (repeatLast least most parts) := by
  cases parts with
  | nil => exact alike_failure
  | cons last parts =>
      cases last with
      | none => exact alike_failure
      | some last => exact (alike_greed closes).bind fun _ => alike_pure _

theorem alike_alternatives (closes : Closes tail) (fuel more nesting deeper : Nat)
    (branches : List Nested) (parts : List Part) :
    Alike tail (alternatives nesting fuel branches parts)
      (alternatives deeper more branches parts) := by
  induction fuel generalizing more nesting deeper branches parts with
  | zero => exact alike_failure
  | succ fuel inductionHypothesis =>
      cases more with
      | zero => exact alike_failure_again
      | succ more =>
          have finished : Unmoved tail (pure (ofBranches (ofParts parts :: branches))) :=
            alike_pure _
          rw [alternatives, alternatives]
          refine (alike_skipBlanks closes).bind fun _ => ?_
          refine alike_peek_bind closes (fun c => ?_) finished finished
          cases (some c).filter (· ≠ ')') with
          | none => exact finished
          | some c =>
              refine alike_ite (alike_next.bind fun _ => inductionHypothesis _ _ _ _ _) ?_
              refine alike_ite ?_ ?_
              · refine alike_next.bind fun _ => alike_flags.bind fun outer => ?_
                refine (alike_opening closes).bind fun opened => ?_
                cases opened with
                | flags flags =>
                    exact (alike_setFlags flags).bind fun _ => inductionHypothesis _ _ _ _ _
                | group numbered flags =>
                    refine alike_unless ((alike_setFlags flags).bind fun _ => ?_)
                    refine (inductionHypothesis _ _ _ _ _).bind fun inside => ?_
                    refine alike_need_bind (fun _ => rfl) ?_
                    exact (alike_setFlags outer).bind fun _ => inductionHypothesis _ _ _ _ _
              refine alike_ite ?_ ?_
              · refine alike_rest_bind fun text other => ?_
                exact ((alike_bracketed closes _ _).1 _ _).bind fun _ =>
                  inductionHypothesis _ _ _ _ _
              iterate 3
                refine alike_ite (alike_next.bind fun _ => (alike_repeatLast closes _ _ _).bind
                  fun _ => inductionHypothesis _ _ _ _ _) ?_
              refine alike_ite ?_ ?_
              · refine alike_unless ((alike_bounds closes).bind fun bounds => ?_)
                obtain ⟨least, most⟩ := bounds
                exact (alike_repeatLast closes _ _ _).bind fun _ => inductionHypothesis _ _ _ _ _
              · exact (alike_primitive closes).bind fun _ => inductionHypothesis _ _ _ _ _

/-! ## Between anchors -/

variable {foldCase trims : Bool} {pattern : Text}

/-- What is behind a pattern between the anchors. -/
def closing (trims : Bool) : Text := ')' :: if trims then [] else ['$']

theorem closes_closing (trims : Bool) : Closes (closing trims) := by
  cases trims <;> exact ⟨rfl, by decide, by decide⟩

/-- The reading of a pattern on its own, before it is asked how much room it takes. -/
def ReadsAs (foldCase : Bool) (pattern : Text) (inside : Nested) (state : ReaderState) : Prop :=
  (alternatives maxDepth (2 * pattern.length + 2) [] []).run ⟨{ foldCase }, [], pattern⟩ =
    some (inside, state) ∧ state.rest = []

theorem exists_readsAs (formed : read foldCase pattern ≠ .error .malformed) :
    ∃ inside state, ReadsAs foldCase pattern inside state := by
  unfold read at formed
  split at formed
  case h_1 inside state begun =>
    split_ifs at formed with unread
    · exact absurd rfl formed
    · exact ⟨inside, state, begun, by simpa using (not_or.mp unread).1⟩
    · exact ⟨inside, state, begun, by simpa using (not_or.mp unread).1⟩
  case h_2 => exact absurd rfl formed

theorem exists_readsAs_of_read {whole : Pattern} (reads : read foldCase pattern = .ok whole) :
    ∃ inside state, ReadsAs foldCase pattern inside state ∧ inside.pattern = whole := by
  unfold read at reads
  split at reads
  case h_1 inside state begun =>
    split_ifs at reads with unread
    exact ⟨inside, state, ⟨begun, by simpa using (not_or.mp unread).1⟩, Except.ok.inj reads⟩
  case h_2 => exact absurd reads nofun

deriving instance DecidableEq for Pattern

theorem read_of_run (depth : Nat) {whole : Pattern}
    (begun : ((alternatives maxDepth (2 * pattern.length + 2) [] []).run
      ⟨{ foldCase }, [], pattern⟩).map (fun read => (read.1.pattern, read.1.depth, read.2.rest)) =
        some (whole, depth, []))
    (shallow : depth ≤ maxDepth) (fits : whole.fits) : read foldCase pattern = .ok whole := by
  obtain ⟨⟨⟨inside, deep⟩, state⟩, run, same⟩ := Option.map_eq_some_iff.mp begun
  simp only [Prod.mk.injEq] at same
  obtain ⟨rfl, rfl, rest⟩ := same
  have reached : ¬(!state.rest.isEmpty ∨ maxDepth < deep) := by
    simp [rest, shallow]
  rw [read, run]
  simp only [reached, if_false, fits, if_true]

theorem run_alternatives_nil (nesting fuel : Nat) (foldCase : Bool) (names : List Text)
    (branches : List Nested) (parts : List Part) :
    (alternatives nesting (fuel + 1) branches parts).run ⟨{ foldCase }, names, []⟩ =
      some (ofBranches (ofParts parts :: branches), ⟨{ foldCase }, names, []⟩) := rfl

theorem run_alternatives_start (nesting fuel : Nat) (foldCase : Bool) (names : List Text)
    (rest : Text) (branches : List Nested) (parts : List Part) :
    (alternatives nesting (fuel + 1) branches parts).run ⟨{ foldCase }, names, '^' :: rest⟩ =
      (alternatives nesting fuel branches (some ⟨.assert .textStart, 0⟩ :: parts)).run
        ⟨{ foldCase }, names, rest⟩ := rfl

theorem run_alternatives_end (nesting fuel : Nat) (foldCase : Bool) (names : List Text)
    (rest : Text) (branches : List Nested) (parts : List Part) :
    (alternatives nesting (fuel + 1) branches parts).run ⟨{ foldCase }, names, '$' :: rest⟩ =
      (alternatives nesting fuel branches (some ⟨.assert .textEnd, 0⟩ :: parts)).run
        ⟨{ foldCase }, names, rest⟩ := rfl

theorem run_alternatives_group (nesting fuel : Nat) (foldCase : Bool) (names : List Text)
    (rest : Text) (branches : List Nested) (parts : List Part) :
    (alternatives (nesting + 1) (fuel + 1) branches parts).run
        ⟨{ foldCase }, names, '(' :: '?' :: ':' :: rest⟩ =
      (do
        let inside ← alternatives nesting fuel [] []
        if !(← accept ")") then failure
        setFlags { foldCase }
        alternatives (nesting + 1) fuel branches
          (some ⟨.group false inside.pattern, inside.depth + 1⟩ :: parts)).run
        ⟨{ foldCase }, names, rest⟩ := rfl

/-- The pattern of a group between anchors. -/
def enclosed (trims : Bool) (inside : Pattern) : Pattern :=
  if trims then .seq (.assert .textStart) (.group false inside)
  else .seq (.assert .textStart) (.seq (.group false inside) (.assert .textEnd))

/-- A pattern that is well formed on its own is one group between the anchors. -/
theorem eq_enclosed {inside : Nested} {state : ReaderState} {whole : Pattern}
    (alone : ReadsAs foldCase pattern inside state)
    (reads : read foldCase ("^(?:" ++ pattern ++ closing trims) = .ok whole) :
    whole = enclosed trims inside.pattern := by
  obtain ⟨outer, last, ⟨begun, -⟩, rfl⟩ := exists_readsAs_of_read reads
  obtain ⟨fuel, enough⟩ : ∃ fuel, 2 * ("^(?:".toList ++ pattern ++ closing trims).length + 2 =
      fuel + 4 := by
    have length : "^(?:".toList.length = 4 := rfl
    rw [List.length_append, List.length_append, length]
    exact ⟨2 * (pattern.length + (closing trims).length) + 6, by omega⟩
  have text : "^(?:".toList ++ pattern ++ closing trims =
      '^' :: '(' :: '?' :: ':' :: (pattern ++ closing trims) := rfl
  have depth : maxDepth = 249 + 1 := rfl
  rw [enough, text, depth, run_alternatives_start, run_alternatives_group] at begun
  obtain ⟨again, middle, within, behind⟩ := run_bind_eq_some.mp begun
  obtain ⟨rfl, ahead⟩ := alike_alternatives (closes_closing trims) _ _ _ _ _ _
    (.behind { foldCase } [] pattern) alone.1 within
  obtain ⟨flags, names, rest⟩ := state
  obtain rfl : rest = [] := alone.2
  cases ahead with
  | taken => exact absurd behind nofun
  | behind =>
      cases trims with
      | true =>
          have finish :=
            (run_alternatives_nil (249 + 1) (fuel + 1) foldCase names [] _).symm.trans behind
          obtain ⟨rfl, -⟩ := Prod.mk.inj (Option.some.inj finish)
          rfl
      | false =>
          have anchor :=
            (run_alternatives_end (249 + 1) (fuel + 1) foldCase names [] [] _).symm.trans behind
          have finish :=
            (run_alternatives_nil (249 + 1) fuel foldCase names [] _).symm.trans anchor
          obtain ⟨rfl, -⟩ := Prod.mk.inj (Option.some.inj finish)
          rfl

/-! ## Matches -/

theorem begins_enclosed (trims : Bool) (inside : Pattern) : Begins (enclosed trims inside) := by
  cases trims with
  | true => exact begins_start.seq
  | false => exact begins_start.seq

theorem rest_of_mem_ends_enclosed {inside : Pattern} {place stop : Place}
    (member : stop ∈ ends (enclosed false inside) place) : stop.rest = [] := by
  have row : enclosed false inside =
      .seq (.assert .textStart) (.seq (.group false inside) (.assert .textEnd)) := rfl
  rw [row, ends] at member
  obtain ⟨middle, -, ended⟩ := List.mem_flatMap.mp (Place.mem_of_mem_distinct member)
  exact (of_mem_ends_finished ended).2

end SafeMarkup.Pattern

namespace SafeMarkup.Grammar

open Pattern

/-- What is matched by a pattern that is well formed on its own is where the value begins, and all
of the value unless garbage is trimmed. -/
theorem matched?_anchored {pattern : Text} {settings : GrammarSettings} {grammar : Grammar}
    {value found : Text} (compiled : ofPattern pattern settings = .ok grammar)
    (formed : Pattern.read (!settings.caseSensitive) pattern ≠ .error .malformed)
    (matched : grammar.matched? value = some found) :
    let text := if settings.removeBlanks then Text.removeBlanks value else value
    found <+: text ∧ (settings.trimGarbage = false → found = text) := by
  intro text
  obtain ⟨inside, state, alone⟩ := exists_readsAs formed
  have pasted : anchored pattern settings =
      "^(?:" ++ pattern ++ closing settings.trimGarbage := List.append_assoc _ [')'] _
  rw [ofPattern, pasted] at compiled
  cases reads : Pattern.read (!settings.caseSensitive)
      ("^(?:" ++ pattern ++ closing settings.trimGarbage) with
  | error fault =>
      rw [reads] at compiled
      exact absurd compiled nofun
  | ok whole =>
      rw [reads] at compiled
      obtain rfl := Except.ok.inj compiled
      obtain rfl := eq_enclosed alone reads
      have begun : find? (enclosed settings.trimGarbage inside.pattern) text = some found := matched
      rw [find?_of_begins (begins_enclosed _ _), matchAt?, Option.map_eq_some_iff] at begun
      obtain ⟨stop, ended, rfl⟩ := begun
      refine ⟨List.take_prefix _ _, ?_⟩
      intro kept
      rw [kept] at ended
      exact take_to_end (rest_of_mem_ends_enclosed (List.mem_of_head? ended))

/-- The pattern of two words. -/
def words : Pattern :=
  .choice (.seq (.one (.single 't')) (.seq (.one (.single 'o')) (.one (.single 'p'))))
    (.seq (.one (.single 'u')) (.one (.single 'p')))

/-- Only a value that is one of the words without its blanks is taken. -/
theorem matched?_anchored_words :
    ofPattern "top|up" ⟨false, false, true, true⟩ = .ok ⟨enclosed false words, true⟩ ∧
      Pattern.read false "top|up" ≠ .error .malformed ∧
      (⟨enclosed false words, true⟩ : Grammar).matched? "u p" = some "up" ∧
      ("up" : Text) = Text.removeBlanks "u p" := by
  have alone : Pattern.read false "top|up" = .ok words :=
    read_of_run 2 (by decide +kernel) (by decide) (by cbv)
  have formed : Pattern.read false "top|up" ≠ .error .malformed := by
    rw [alone]
    rintro ⟨⟩
  have reads : Pattern.read false "^(?:top|up)$" = .ok (enclosed false words) :=
    read_of_run 4 (by decide +kernel) (by decide) (by cbv)
  have compiled : ofPattern "top|up" ⟨false, false, true, true⟩ =
      .ok ⟨enclosed false words, true⟩ := congrArg (Except.map _) reads
  have matched : (⟨enclosed false words, true⟩ : Grammar).matched? "u p" = some "up" := by
    decide
  exact ⟨compiled, formed, matched, (matched?_anchored compiled formed matched).2 rfl⟩

/-- What is read of a pattern with a parenthesis too many. -/
def unbound : Pattern :=
  .choice (.seq (.assert .textStart) (.group false (.one (.single 'a'))))
    (.group false (.one (.single 'b')))

/-- A parenthesis that closes nothing in a pattern closes the group around it: what is found is not
where the value begins. -/
theorem matched?_leaves_anchors :
    ofPattern "a)|(?:b" ⟨false, true, false, true⟩ = .ok ⟨unbound, false⟩ ∧
      (⟨unbound, false⟩ : Grammar).matched? "xb" = some "b" ∧ ¬("b" : Text) <+: "xb" := by
  have reads : Pattern.read false "^(?:a)|(?:b)" = .ok unbound :=
    read_of_run 3 (by decide +kernel) (by decide) (by cbv)
  exact ⟨congrArg (Except.map _) reads, by decide, by decide⟩

end SafeMarkup.Grammar
