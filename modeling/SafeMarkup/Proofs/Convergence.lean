import SafeMarkup.Html.Parser
import SafeMarkup.Policy.Compile
import SafeMarkup.Proofs.Preparation
import SafeMarkup.Sanitizer.Basic

/-!
Contract: what a sanitizer returns is left alone by all of its passes.

A call that succeeds is a run of rewriting passes and one pass that gives back what it got. Each
place of such a run begins a shorter run to the same end, so a later call is never refused for
having too few passes.
-/

namespace SafeMarkup
namespace Sanitizer

variable {sanitizer : Sanitizer} {count left : Nat} {markup next last raw between : Text}
  {result : Sanitized}

/-- Passes that each change their prepared markup, from some markup to what the last of them gives
out. -/
inductive Rewriting (sanitizer : Sanitizer) : Nat → Text → Text → Prop where
  | none (markup : Text) : Rewriting sanitizer 0 markup markup
  | more {count : Nat} {markup source last : Text}
      (prepared : (prepare markup).value = .ok source)
      (changed : (sanitizer.filter source).value.markup ≠ source)
      (rest : Rewriting sanitizer count (sanitizer.filter source).value.markup last) :
      Rewriting sanitizer (count + 1) markup last

/-- A pass gives back the prepared markup. -/
structure Settles (sanitizer : Sanitizer) (markup : Text) (result : Sanitized) : Prop where
  prepared : (prepare markup).value = .ok result.markup
  filtered : (sanitizer.filter result.markup).value = result

/-! ## The loop -/

/-- One pass, and the rest of the loop if it changes something. -/
theorem value_convergeWithin_succ (sanitizer : Sanitizer) (left : Nat) {markup source : Text}
    (prepared : (prepare markup).value = .ok source) :
    (sanitizer.convergeWithin (left + 1) markup).value =
      if (sanitizer.filter source).value.markup = source then .ok (sanitizer.filter source).value
      else (sanitizer.convergeWithin left (sanitizer.filter source).value.markup).value := by
  rw [convergeWithin, Reported.value_bind, prepared]
  simp only [Reported.value_bind]
  split <;> rfl

/-- Markup that cannot be prepared is refused. -/
theorem value_convergeWithin_error (sanitizer : Sanitizer) (left : Nat) {markup : Text}
    {failure : NonConvergence} (refused : (prepare markup).value = .error failure) :
    (sanitizer.convergeWithin (left + 1) markup).value = .error failure := by
  rw [convergeWithin, Reported.value_bind, refused]
  rfl

/-- The loop succeeds exactly if some rewriting passes, fewer than it has left, reach markup that
settles. -/
theorem value_convergeWithin_eq_ok :
    (sanitizer.convergeWithin left markup).value = .ok result ↔
      ∃ count < left, ∃ last, sanitizer.Rewriting count markup last ∧
        sanitizer.Settles last result := by
  constructor
  · intro done
    induction left generalizing markup with
    | zero => exact absurd done nofun
    | succ left inductionHypothesis =>
        cases prepared : (prepare markup).value with
        | error failure =>
            rw [value_convergeWithin_error sanitizer left prepared] at done
            exact absurd done nofun
        | ok source =>
            rw [value_convergeWithin_succ sanitizer left prepared] at done
            by_cases same : (sanitizer.filter source).value.markup = source
            · rw [if_pos same] at done
              obtain rfl := Except.ok.inj done
              refine ⟨0, Nat.succ_pos left, markup, .none markup, ?_, ?_⟩
              · rw [prepared, same]
              · rw [same]
            · rw [if_neg same] at done
              obtain ⟨count, fewer, last, rest, settles⟩ := inductionHypothesis done
              exact ⟨count + 1, Nat.succ_lt_succ fewer, last, .more prepared same rest, settles⟩
  · rintro ⟨count, fewer, last, rewriting, settles⟩
    induction rewriting generalizing left with
    | none markup =>
        obtain ⟨left, rfl⟩ := Nat.exists_eq_add_one_of_ne_zero (Nat.ne_of_gt fewer)
        rw [value_convergeWithin_succ sanitizer left settles.prepared, settles.filtered, if_pos rfl]
    | more prepared changed rest inductionHypothesis =>
        obtain ⟨left, rfl⟩ := Nat.exists_eq_add_one_of_ne_zero (Nat.ne_zero_of_lt fewer)
        rw [value_convergeWithin_succ sanitizer left prepared, if_neg changed]
        exact inductionHypothesis (Nat.lt_of_succ_lt_succ fewer) settles

/-- A call succeeds exactly if fewer rewriting passes than it has reach markup that settles. -/
theorem value_sanitize_eq_ok :
    (sanitizer.sanitize raw).value = .ok result ↔
      ∃ count < filterPasses, ∃ last, sanitizer.Rewriting count raw last ∧
        sanitizer.Settles last result :=
  value_convergeWithin_eq_ok

/-! ## Places of a run -/

/-- Markup that settles is not rewritten. -/
theorem Settles.not_changed (settles : sanitizer.Settles markup result) {source : Text}
    (prepared : (prepare markup).value = .ok source) :
    (sanitizer.filter source).value.markup = source := by
  obtain rfl := Except.ok.inj (settles.prepared.symm.trans prepared)
  rw [settles.filtered]

/-- What a run ends with settles by itself. -/
theorem Settles.self (settles : sanitizer.Settles markup result) :
    normalize result.markup = result.markup ∧ sanitizer.Settles result.markup result := by
  have same : normalize result.markup = result.markup :=
    normalize_of_prepareWithin settles.prepared
  refine ⟨same, ?_, settles.filtered⟩
  rw [prepare_of_normalize same]
  rfl

/-- Every place that rewriting reaches from markup lies on each run to markup that settles. -/
theorem Rewriting.rest (reached : sanitizer.Rewriting count markup between) :
    ∀ {total}, sanitizer.Rewriting total markup last → sanitizer.Settles last result →
      ∃ fewer ≤ total, sanitizer.Rewriting fewer between last := by
  induction reached with
  | none markup =>
      intro total run settles
      exact ⟨total, Nat.le_refl total, run⟩
  | more prepared changed rest inductionHypothesis =>
      intro total run settles
      cases run with
      -- A run that ends where this one goes on would settle on markup that still changes.
      | none => exact absurd (settles.not_changed prepared) changed
      | more alsoPrepared alsoChanged others =>
          obtain rfl := Except.ok.inj (prepared.symm.trans alsoPrepared)
          obtain ⟨fewer, atMost, remaining⟩ := inductionHypothesis others settles
          exact ⟨fewer, Nat.le_succ_of_le atMost, remaining⟩

/-- A sanitized text is prepared, a filter pass gives it back with the same plain text, and so does
another call. A call on what any rewriting pass of the first one gave out has the same result. -/
theorem sanitize_idempotent (done : (sanitizer.sanitize raw).value = .ok result) :
    normalize result.markup = result.markup ∧
      (sanitizer.filter result.markup).value = result ∧
      (sanitizer.sanitize result.markup).value = .ok result ∧
      ∀ count between, sanitizer.Rewriting count raw between →
        (sanitizer.sanitize between).value = .ok result := by
  obtain ⟨total, fewer, last, run, settles⟩ := value_sanitize_eq_ok.mp done
  obtain ⟨same, again⟩ := settles.self
  refine ⟨same, settles.filtered, ?_, ?_⟩
  · exact value_sanitize_eq_ok.mpr ⟨0, by decide, result.markup, .none result.markup, again⟩
  · intro count between reached
    obtain ⟨remaining, atMost, rest⟩ := reached.rest run settles
    exact value_sanitize_eq_ok.mpr ⟨remaining, by omega, last, rest, settles⟩

/-- Paragraphs and anchors without attributes. -/
def anchorSanitizer : Sanitizer :=
  .ofPolicy Html.parseFragment
    { PolicySpec.empty with elements := [("p", []), ("a", [])] }.compiled

/-- A paragraph in an anchor, which a block around the anchor takes apart when it is read again. -/
theorem sanitize_idempotent_anchor :
    let between : Text := "<p><a><p>x</p></a></p>"
    let result : Sanitized := ⟨"<p><a></a></p><p><a>x</a></p>", "x"⟩
    (anchorSanitizer.sanitize "<a><p>x").value = .ok result ∧
      anchorSanitizer.Rewriting 1 "<a><p>x" between ∧
      normalize result.markup = result.markup ∧
      (anchorSanitizer.filter result.markup).value = result ∧
      (anchorSanitizer.sanitize result.markup).value = .ok result ∧
      (anchorSanitizer.sanitize between).value = .ok result := by
  intro between result
  have done : (anchorSanitizer.sanitize "<a><p>x").value = .ok result := by decide +kernel
  have prepared : (prepare "<a><p>x").value = .ok "<a><p>x" := by decide +kernel
  have filtered : (anchorSanitizer.filter "<a><p>x").value = ⟨between, "x"⟩ := by decide +kernel
  have rewriting : anchorSanitizer.Rewriting 1 "<a><p>x" between := by
    have changed : (anchorSanitizer.filter "<a><p>x").value.markup ≠ "<a><p>x" := by
      rw [filtered]
      decide +kernel
    refine .more prepared changed ?_
    rw [filtered]
    exact .none between
  obtain ⟨same, again, repeated, places⟩ := sanitize_idempotent done
  exact ⟨done, rewriting, same, again, repeated, places 1 between rewriting⟩

end Sanitizer
end SafeMarkup
