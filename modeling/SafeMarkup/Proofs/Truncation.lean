import SafeMarkup.Proofs.Places
import Mathlib.Data.List.Forall2

/-!
Contract: plain patterns on a text that is cut off behind a match.

Owns: the ends of a pattern on the shorter text are those on the whole text that are not beyond the
cut, in the same order, also if characters were replaced by others that the pattern cannot tell from
them. So what a pattern finds it finds again.

Does not own: which characters a pattern can tell apart.
-/

namespace SafeMarkup

variable {alike : Char → Char → Prop} {behind : Text} {place other : Place}
  {places others : List Place}

/-! ## Places before a cut -/

/-- Two places with alike characters before a cut, behind which the other text ends. -/
structure Place.Cut (alike : Char → Char → Prop) (behind : Text) (place other : Place) : Prop where
  rest : ∃ front, place.rest = front ++ behind ∧ List.Forall₂ alike front other.rest
  before : place.before.isNone = other.before.isNone

theorem Place.Cut.left_eq (cut : Place.Cut alike behind place other) :
    place.left = other.left + behind.length := by
  obtain ⟨front, split, same⟩ := cut.rest
  rw [place.left_eq, other.left_eq, split, List.length_append, same.length_eq]

/-- The places of one list that are not beyond the cut are those of the other list. -/
inductive Shadow (alike : Char → Char → Prop) (behind : Text) : List Place → List Place → Prop
  | nil : Shadow alike behind [] []
  | keep {place other : Place} {places others : List Place}
      (cut : Place.Cut alike behind place other) (rest : Shadow alike behind places others) :
      Shadow alike behind (place :: places) (other :: others)
  | drop {place : Place} {places others : List Place} (beyond : place.left < behind.length)
      (rest : Shadow alike behind places others) : Shadow alike behind (place :: places) others

namespace Shadow

theorem single (cut : Place.Cut alike behind place other) : Shadow alike behind [place] [other] :=
  .keep cut .nil

theorem beyond (places : List Place) (beyond : ∀ place ∈ places, place.left < behind.length) :
    Shadow alike behind places [] := by
  induction places with
  | nil => exact .nil
  | cons place places inductionHypothesis =>
      obtain ⟨here, rest⟩ := List.forall_mem_cons.mp beyond
      exact .drop here (inductionHypothesis rest)

theorem append {more moreOthers : List Place} (first : Shadow alike behind places others)
    (second : Shadow alike behind more moreOthers) :
    Shadow alike behind (places ++ more) (others ++ moreOthers) := by
  induction first with
  | nil => exact second
  | keep cut _ inductionHypothesis => exact .keep cut inductionHypothesis
  | drop beyond _ inductionHypothesis => exact .drop beyond inductionHypothesis

/-- Steps that lead from places before the cut to such places, and never back over it. -/
theorem flatMap {step : Place → List Place} (shadow : Shadow alike behind places others)
    (onward : ∀ place, ∀ stop ∈ step place, stop.left ≤ place.left)
    (steps : ∀ place other, Place.Cut alike behind place other →
      Shadow alike behind (step place) (step other)) :
    Shadow alike behind (places.flatMap step) (others.flatMap step) := by
  induction shadow with
  | nil => exact .nil
  | keep cut _ inductionHypothesis => exact (steps _ _ cut).append inductionHypothesis
  | @drop place places others past _ inductionHypothesis =>
      have nothing : Shadow alike behind (step place) [] := by
        apply beyond
        intro stop member
        have := onward place stop member
        omega
      exact nothing.append inductionHypothesis

theorem distinctFrom {seen otherSeen : Nat} (shadow : Shadow alike behind places others)
    (same : ∀ left, seen.testBit (left + behind.length) = otherSeen.testBit left) :
    Shadow alike behind (Place.distinctFrom seen places)
      (Place.distinctFrom otherSeen others) := by
  induction shadow generalizing seen otherSeen with
  | nil => exact .nil
  | @keep place other places others cut _ inductionHypothesis =>
      rw [Place.distinctFrom, Place.distinctFrom, cut.left_eq, same]
      split_ifs
      · exact inductionHypothesis same
      · refine .keep cut (inductionHypothesis fun left => ?_)
        simp [Nat.testBit_or, Nat.one_shiftLeft, Nat.testBit_two_pow, same]
  | @drop place places others past _ inductionHypothesis =>
      rw [Place.distinctFrom]
      split_ifs
      · exact inductionHypothesis same
      · refine .drop past (inductionHypothesis fun left => ?_)
        have elsewhere : place.left ≠ left + behind.length := by omega
        simp [Nat.testBit_or, Nat.one_shiftLeft, same, elsewhere]

theorem distinct (shadow : Shadow alike behind places others) :
    Shadow alike behind (Place.distinct places) (Place.distinct others) := by
  rw [Place.distinct_eq, Place.distinct_eq]
  exact shadow.distinctFrom fun left => by simp

/-- If the first of some places is at the cut, the first of the others is at the end of its text. -/
theorem head? (shadow : Shadow alike behind places others) {stop : Place}
    (first : places.head? = some stop) (atCut : stop.left = behind.length) :
    ∃ last, others.head? = some last ∧ last.left = 0 := by
  cases shadow with
  | nil => exact absurd first nofun
  | @keep place other places others cut _ =>
      obtain rfl := Option.some.inj first
      have := cut.left_eq
      exact ⟨other, rfl, by omega⟩
  | drop beyond _ =>
      obtain rfl := Option.some.inj first
      omega

end Shadow

namespace Pattern

variable {good : CharSet → Prop} {ended : Prop} {set : CharSet}

/-! ## Plain patterns -/

theorem shadow_one (same : ∀ c d, alike c d → set.member c = set.member d)
    (cut : Place.Cut alike behind place other) :
    Shadow alike behind (ends (.one set) place) (ends (.one set) other) := by
  obtain ⟨front, split, alikeFront⟩ := cut.rest
  cases restOfOther : other.rest with
  | nil =>
      rw [restOfOther] at alikeFront
      obtain rfl := List.forall₂_nil_right_iff.mp alikeFront
      have nothing : ends (.one set) other = [] := by
        rw [ends, Place.next?_eq_none_iff.mpr restOfOther]
      rw [nothing]
      apply Shadow.beyond
      intro stop member
      rcases ends_one set place with none | ⟨c, next, follows, -, one⟩
      · exact absurd member (by simp [none])
      · obtain rfl : stop = next := by simpa [one] using member
        have further := Place.left_of_next? follows
        have whole : place.left = behind.length := by
          rw [place.left_eq, split, List.nil_append]
        omega
  | cons d otherRest =>
      rw [restOfOther] at alikeFront
      obtain ⟨c, frontRest, alikeHere, alikeRest, rfl⟩ := List.forall₂_cons_right_iff.mp alikeFront
      obtain ⟨next, follows⟩ : ∃ next, place.next? = some (c, next) :=
        ⟨⟨some c, frontRest ++ behind, _, rfl⟩, Place.next?_eq_some_iff.mpr ⟨split, rfl⟩⟩
      obtain ⟨otherNext, otherFollows⟩ : ∃ next, other.next? = some (d, next) :=
        ⟨⟨some d, otherRest, _, rfl⟩, Place.next?_eq_some_iff.mpr ⟨restOfOther, rfl⟩⟩
      obtain ⟨restHere, before⟩ := Place.next?_eq_some_iff.mp follows
      obtain ⟨otherRestHere, otherBefore⟩ := Place.next?_eq_some_iff.mp otherFollows
      have nextCut : Place.Cut alike behind next otherNext := by
        refine ⟨⟨frontRest, ?_, ?_⟩, by simp [before, otherBefore]⟩
        · rw [split, List.cons_append] at restHere
          exact (List.cons.inj restHere).2.symm
        · rw [restOfOther] at otherRestHere
          rwa [← (List.cons.inj otherRestHere).2]
      rw [ends, ends, follows, otherFollows]
      simp only [same c d alikeHere]
      split_ifs
      · exact .single nextCut
      · exact .nil

theorem shadow_forward (same : ∀ c d, alike c d → set.member c = set.member d) (count : Nat)
    (cut : Place.Cut alike behind place other) :
    Shadow alike behind (forward set count place) (forward set count other) := by
  induction count generalizing place other with
  | zero => exact .single cut
  | succ count inductionHypothesis =>
      refine (shadow_one same cut).flatMap ?_ fun _ _ => inductionHypothesis
      intro place stop member
      exact (reaches_forward (fun _ _ => True.intro) member).left_le

theorem shadow_runs (same : ∀ c d, alike c d → set.member c = set.member d) (count : Nat)
    (cut : Place.Cut alike behind place other) :
    Shadow alike behind (runs set count place) (runs set count other) := by
  induction count generalizing place other with
  | zero => exact .single cut
  | succ count inductionHypothesis =>
      refine Shadow.append ?_ (.single cut)
      refine (shadow_one same cut).flatMap ?_ fun _ _ => inductionHypothesis
      intro place stop member
      exact (reaches_runs (fun _ _ => True.intro) member).left_le

/-- The ends of a plain pattern before a cut are its ends on the text before the cut. -/
theorem Plain.shadow {pattern : Pattern} (plain : Plain good ended pattern)
    (same : ∀ set, good set → ∀ c d, alike c d → set.member c = set.member d)
    (uncut : ended → behind = []) (cut : Place.Cut alike behind place other) :
    Shadow alike behind (ends pattern place) (ends pattern other) := by
  have onward {pattern : Pattern} (plain : Plain good ended pattern) (place : Place) :
      ∀ stop ∈ ends pattern place, stop.left ≤ place.left := fun stop member =>
    (plain.reaches (fun _ _ _ _ => True.intro) member).left_le
  induction plain generalizing place other with
  | empty => exact .single cut
  | one fits => exact shadow_one (same _ fits) cut
  | seq _ secondPlain first second =>
      rw [ends, ends]
      exact ((first cut).flatMap (onward secondPlain) fun _ _ => second).distinct
  | choice _ _ first second =>
      rw [ends, ends]
      exact ((first cut).append (second cut)).distinct
  | optional _ body =>
      rw [ends_optional, ends_optional]
      exact ((body cut).append (.single cut)).distinct
  | @counted least most set fits =>
      rw [ends_counted, ends_counted]
      refine Shadow.distinct ((shadow_forward (same _ fits) least cut).flatMap ?_ fun _ _ =>
        shadow_runs (same _ fits) (most - least))
      intro place stop member
      exact (reaches_runs (fun _ _ => True.intro) member).left_le
  | start =>
      have sameStart : place.holds .textStart = other.holds .textStart := cut.before
      rw [ends, ends, sameStart]
      split_ifs
      · exact .single cut
      · exact .nil
  | finish allowed =>
      obtain ⟨front, split, alikeFront⟩ := cut.rest
      have sameLength : place.rest.length = other.rest.length := by
        rw [split, uncut allowed, List.append_nil, alikeFront.length_eq]
      have sameEnd : place.holds .textEnd = other.holds .textEnd := by
        rw [Place.holds, Place.holds, Bool.eq_iff_iff, List.isEmpty_iff_length_eq_zero,
          List.isEmpty_iff_length_eq_zero, sameLength]
      rw [ends, ends, sameEnd]
      split_ifs
      · exact .single cut
      · exact .nil

/-! ## Matches -/

/-- A match is what stands between the beginning of a text and the first end from there. -/
theorem Plain.find?_eq_some {pattern : Pattern} (plain : Plain good ended pattern)
    (begins : Begins pattern) {taken : Char → Prop}
    (members : ∀ set, good set → ∀ c, set.member c → taken c) {text found : Text}
    (finds : find? pattern text = some found) :
    ∃ stop, (ends pattern (Place.start text)).head? = some stop ∧ text = found ++ stop.rest ∧
      ∀ c ∈ found, taken c := by
  rw [find?_of_begins begins] at finds
  obtain ⟨stop, first, matched⟩ := Option.map_eq_some_iff.mp finds
  obtain ⟨front, split, frontTaken⟩ := plain.reaches members (List.mem_of_head? first)
  have atStart : (Place.start text).rest = text ∧ (Place.start text).left = text.length :=
    ⟨rfl, rfl⟩
  rw [atStart.1] at split
  obtain rfl : front = found := by
    rw [← matched, atStart.1, atStart.2, stop.left_eq, split, List.length_append,
      Nat.add_sub_cancel, List.take_left]
  exact ⟨stop, first, split, frontTaken⟩

/-- What a plain pattern finds it finds again where no more than that is left, also with other
characters that its sets do not tell apart. -/
theorem Plain.find?_found {pattern : Pattern} (plain : Plain good ended pattern)
    (begins : Begins pattern)
    (whole : ended → ∀ place, ∀ stop ∈ ends pattern place, stop.rest = [])
    (same : ∀ set, good set → ∀ c d, alike c d → set.member c = set.member d)
    {text found otherText : Text} (finds : find? pattern text = some found)
    (alikeText : List.Forall₂ alike found otherText) :
    find? pattern otherText = some otherText := by
  obtain ⟨stop, first, split, -⟩ :=
    plain.find?_eq_some begins (fun _ _ _ _ => True.intro) finds
  have cut : Place.Cut alike stop.rest (Place.start text) (Place.start otherText) :=
    ⟨⟨found, split, alikeText⟩, rfl⟩
  have uncut (isEnded : ended) : stop.rest = [] :=
    whole isEnded _ stop (List.mem_of_head? first)
  obtain ⟨last, firstOther, noneLeft⟩ := (plain.shadow same uncut cut).head? first stop.left_eq
  rw [find?_of_begins begins, matchAt?, firstOther, Option.map_some, noneLeft]
  exact congrArg some List.take_length

end Pattern
end SafeMarkup
