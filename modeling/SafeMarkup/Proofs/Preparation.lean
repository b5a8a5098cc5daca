import SafeMarkup.Proofs.Reference

/-!
Contract: what raw markup looks like once it is prepared.

A pass leaves a text alone exactly if the text has no control characters, no neighbouring spaces and
no numeric references. Growth and shrinkage of references cannot cancel out: what decoding shows
would have to reach over the place where an entity comes from.
-/

namespace SafeMarkup

/-- A text that a pass finds nothing in. -/
structure Prepared (text : Text) : Prop where
  noControl : ∀ c ∈ text, 0x20 ≤ c.toNat
  apart : SpacedApart text
  noDecimal : ∀ digit : Char, digit.isDigit → ¬['&', '#', digit] <:+: text
  noHexadecimal : ∀ mark digit : Char, mark = 'x' ∨ mark = 'X' → isHexDigit digit →
    ¬['&', '#', mark, digit] <:+: text

/-! ## References by their first characters -/

theorem NoReference.not_infix {text : Text} (none : NoReference text) {lead : Text}
    (begins : ∀ rest, reference? (lead ++ rest) ≠ Option.none) : ¬('&' :: lead) <:+: text := by
  rintro ⟨front, rest, split⟩
  refine begins rest (none (lead ++ rest) ⟨front, ?_⟩)
  rw [← split, List.append_assoc]
  rfl

theorem Prepared.noReference {text : Text} (prepared : Prepared text) : NoReference text := by
  rintro rest ⟨front, split⟩
  apply reference?_eq_none
  · rintro digit behind decimal rfl
    exact prepared.noDecimal digit decimal ⟨front, behind, by rw [← split]; simp⟩
  · rintro mark digit behind marked hexadecimal rfl
    exact prepared.noHexadecimal mark digit marked hexadecimal
      ⟨front, behind, by rw [← split]; simp⟩

/-! ## One pass -/

/-- A pass loses nothing that decoding shows. -/
theorem ink_normalize (markup : Text) :
    ink (normalize markup) = ink (decodeReferences (markup.filter fun c => c != '\x00')) := by
  unfold normalize collapseSpaces Text.squeeze
  rw [ink_collapseSpacesFrom .zero trivial, ink_squeezeFrom]

/-- A pass loses no special character but the ampersands of references. -/
theorem mem_normalize {c : Char} (special : isSpecial c) (notAmp : c ≠ '&') {markup : Text}
    (member : c ∈ markup) : c ∈ normalize markup := by
  have notNull : (c != '\x00') = true := by
    rw [bne_iff_ne]
    rintro rfl
    exact absurd special (by decide)
  have decoded : c ∈ decodeReferences (markup.filter fun c => c != '\x00') :=
    mem_decodeReferencesFrom special notAmp 0 (List.mem_filter.mpr ⟨member, notNull⟩)
  have shown : c ∈ ink (normalize markup) := by
    rw [ink_normalize]
    exact List.mem_filter.mpr ⟨decoded, isInk_of_isSpecial special⟩
  exact List.mem_of_mem_filter shown

/-- A pass leaves no control characters. -/
theorem noControl_normalize {markup : Text} {c : Char} (member : c ∈ normalize markup) :
    0x20 ≤ c.toNat := by
  have null : '\x00' ∉ decodeReferences (markup.filter fun c => c != '\x00') :=
    (decoding_decodeReferences _).null_not_mem (by simp)
  rcases mem_collapseSpacesFrom member with rfl | waiting | member
  · decide
  · exact absurd waiting List.not_mem_nil
  · rcases mem_squeezeFrom member with rfl | ⟨member, plain⟩
    · decide
    · have notNull : c ≠ '\x00' := fun here => null (here ▸ member)
      simp only [isControlOrSpace, ne_eq, notNull, not_false_eq_true, decide_true, Bool.true_and,
        decide_eq_false_iff_not] at plain
      omega

theorem filter_ne_null_eq_self {text : Text} (noControl : ∀ c ∈ text, 0x20 ≤ c.toNat) :
    (text.filter fun c => c != '\x00') = text := by
  apply List.filter_eq_self.mpr
  intro c member
  have notNull : c ≠ '\x00' := by
    rintro rfl
    exact absurd (noControl _ member) (by decide)
  simpa using notNull

/-- A pass gives back exactly the texts that it finds nothing in. -/
theorem normalize_eq_self_iff {text : Text} : normalize text = text ↔ Prepared text := by
  constructor
  · intro same
    have noControl : ∀ c ∈ text, 0x20 ≤ c.toNat := by
      intro c member
      rw [← same] at member
      exact noControl_normalize member
    -- Only spaces could still be lost, so decoding keeps what shows; then it found no reference.
    have shown := ink_normalize text
    rw [same, filter_ne_null_eq_self noControl] at shown
    have none : NoReference text := (decoding_decodeReferences text).noReference shown.symm
    exact {
      noControl
      apart := same ▸ (spacedApart_collapseSpacesFrom .zero _).1
      noDecimal := fun digit decimal =>
        none.not_infix (reference?_ne_none_of_isDigit decimal)
      noHexadecimal := fun mark digit marked hexadecimal =>
        none.not_infix
          (reference?_ne_none_of_isHexDigit marked hexadecimal) }
  · intro prepared
    have spaces : ∀ c ∈ text, isControlOrSpace c → c = ' ' := by
      intro c member control
      have low := prepared.noControl c member
      simp only [isControlOrSpace, Bool.and_eq_true, decide_eq_true_eq] at control
      exact Char.toNat_inj.mp (show c.toNat = 32 by omega)
    unfold normalize
    rw [filter_ne_null_eq_self prepared.noControl, decodeReferences_eq_self prepared.noReference,
      squeeze_eq_self spaces prepared.apart, collapseSpaces_eq_self prepared.apart]

/-! ## All passes -/

/-- What the passes end with is left alone by one more. -/
theorem normalize_of_prepareWithin {left : Nat} {markup source : Text}
    (done : (prepareWithin left markup).value = .ok source) : normalize source = source := by
  induction left generalizing markup with
  | zero => exact absurd done nofun
  | succ left inductionHypothesis =>
      rw [prepareWithin] at done
      by_cases same : normalize markup = markup
      · rw [if_pos same] at done
        obtain rfl := Except.ok.inj done
        exact same
      · rw [if_neg same] at done
        exact inductionHypothesis done

/-- Markup that a pass leaves alone is prepared by one pass. -/
theorem prepare_of_normalize {source : Text} (same : normalize source = source) :
    prepare source = pure (.ok source) := by
  unfold prepare preparingPasses
  rw [prepareWithin, if_pos same]

/-- Prepared markup has no control characters, no neighbouring spaces and no numeric references, and
preparing it again changes nothing. -/
theorem prepare_guarantees {markup source : Text} (done : (prepare markup).value = .ok source) :
    Prepared source ∧ prepare source = pure (.ok source) := by
  have same := normalize_of_prepareWithin done
  exact ⟨normalize_eq_self_iff.mp same, prepare_of_normalize same⟩

/-- A reference that decodes to the ampersand of what looks like another one. -/
theorem prepare_guarantees_ampersand :
    (prepare "a\t &#38;#60;&#0;").value = .ok "a &amp;#60;" ∧
      Prepared "a &amp;#60;" ∧ prepare "a &amp;#60;" = pure (.ok "a &amp;#60;") := by
  have done : (prepare "a\t &#38;#60;&#0;").value = .ok "a &amp;#60;" := by decide +kernel
  exact ⟨done, prepare_guarantees done⟩

end SafeMarkup
