import SafeMarkup.Proofs.Blanks
import SafeMarkup.Text.Lowercase
import SafeMarkup.Text.Ranges
import Mathlib.Data.List.Forall2

/-!
Contract: what lower-casing does to single characters and to whole texts.

Owns: the characters that lower-casing leaves as they are, which are all that it writes; the sets of
characters that it neither enters nor leaves; and the blanks in a lower-case form.

Does not own: why a character has the lower-case form that it has.
-/

namespace SafeMarkup.Text

/-! ## Runs -/

namespace CaseRun

/-- The first code point of a run as the run moves it. -/
def movedFirst (run : CaseRun) : Nat := ((run.first : Int) + run.shift).toNat

/-- The last code point of a run as the run moves it. -/
def movedLast (run : CaseRun) : Nat := ((run.last : Int) + run.shift).toNat

/-- Whether the moved members of a run are seen to be no members of another one: by their bounds,
by their parity where both runs hold every other code point, or one by one if there is one. -/
def apart (run other : CaseRun) : Bool :=
  run.movedLast.blt other.first || (other.last.blt run.movedFirst ||
    ((run.stride == 2 && other.stride == 2 && (run.movedFirst + other.first) % 2 == 1) ||
      (run.first == run.last && !other.holds run.movedFirst)))

/-- Whether a run moves characters outside of ASCII to characters that no run holds. In ASCII these
are small letters. -/
def settles (run : CaseRun) : Bool :=
  (128 ≤ run.first && run.first ≤ run.last && 0 ≤ (run.first : Int) + run.shift) &&
    (128 ≤ run.movedFirst || (0x61 ≤ run.movedFirst && run.movedLast ≤ 0x7A)) &&
    (run.movedLast < 0xD800 || (0xDFFF < run.movedFirst && run.movedLast < 0x110000)) &&
    (run.movedLast < 0x130 || 0x130 < run.movedFirst) && lowercaseRuns.all run.apart

theorem settles_of_mem : ∀ run ∈ lowercaseRuns, run.settles := by
  decide +kernel

variable {run other : CaseRun} {code : Nat}

theorem holds_iff : run.holds code ↔
    run.first ≤ code ∧ code ≤ run.last ∧ (code - run.first) % run.stride = 0 := by
  simp [holds, and_assoc]

/-- A member of a run is moved between its first and its last one, and by as much. -/
theorem moved_bounds (settles : run.settles) (held : run.holds code) :
    run.movedFirst + (code - run.first) = ((code : Int) + run.shift).toNat ∧
      ((code : Int) + run.shift).toNat ≤ run.movedLast := by
  obtain ⟨low, high, -⟩ := holds_iff.mp held
  simp only [CaseRun.settles, Bool.and_eq_true, decide_eq_true_eq] at settles
  have positive := settles.1.1.1.1.2
  unfold movedFirst movedLast
  omega

theorem not_holds_moved (settles : run.settles) (held : run.holds code) (apart : run.apart other) :
    other.holds ((code : Int) + run.shift).toNat = false := by
  obtain ⟨moved, high⟩ := moved_bounds settles held
  obtain ⟨low, last, strides⟩ := holds_iff.mp held
  generalize ((code : Int) + run.shift).toNat = image at moved high ⊢
  rw [Bool.eq_false_iff, ne_eq, holds_iff]
  rintro ⟨otherLow, otherHigh, otherStrides⟩
  simp only [CaseRun.apart, Bool.or_eq_true, Bool.and_eq_true, Nat.blt_eq, beq_iff_eq,
    Bool.not_eq_true', Bool.eq_false_iff, ne_eq, holds_iff] at apart
  rcases apart with before | behind | ⟨⟨two, otherTwo⟩, odd⟩ | ⟨single, unheld⟩
  · omega
  · omega
  · rw [two] at strides
    rw [otherTwo] at otherStrides
    omega
  · have same : image = run.movedFirst := by omega
    exact unheld (same ▸ ⟨otherLow, otherHigh, otherStrides⟩)

theorem toNat_ofNat_moved (settles : run.settles) (held : run.holds code) :
    (Char.ofNat ((code : Int) + run.shift).toNat).toNat = ((code : Int) + run.shift).toNat := by
  obtain ⟨moved, high⟩ := moved_bounds settles held
  simp only [CaseRun.settles, Bool.and_eq_true, Bool.or_eq_true, decide_eq_true_eq] at settles
  have scalars := settles.1.1.2
  generalize ((code : Int) + run.shift).toNat = image at moved high ⊢
  have valid : image.isValidChar := by
    unfold Nat.isValidChar
    omega
  unfold Char.ofNat
  rw [dif_pos valid]
  rfl

end CaseRun

/-! ## Single characters -/

theorem lowerChar_cases (c : Char) :
    lowerChar c = c ∨ c.toNat < 128 ∧ lowerChar c = c.toLower ∨
      ∃ run ∈ lowercaseRuns, run.holds c.toNat ∧
        lowerChar c = Char.ofNat ((c.toNat : Int) + run.shift).toNat := by
  unfold lowerChar CaseRun.apply
  split
  case isTrue ascii => exact .inr (.inl ⟨ascii, rfl⟩)
  case isFalse =>
    split
    case h_1 run found =>
      have held : run.holds c.toNat := by simpa using List.find?_some found
      exact .inr (.inr ⟨run, List.mem_of_find?_eq_some found, held, rfl⟩)
    case h_2 => exact .inl (Char.ofNat_toNat c)

/-- Lower-casing leaves a character as it is, wherever the character stands. -/
structure Settled (c : Char) : Prop where
  lower : lowerChar c = c
  notSigma : c.toNat ≠ 0x3A3
  notDotted : c.toNat ≠ 0x130

theorem lowerChar_eq_self_of_outside {c : Char}
    (outside : ∀ run ∈ lowercaseRuns, run.holds c.toNat = false)
    (ascii : c.toNat < 128 → c.toLower = c) : lowerChar c = c := by
  unfold lowerChar CaseRun.apply
  split
  case isTrue low => exact ascii low
  case isFalse =>
    have nowhere : lowercaseRuns.find? (fun run => run.holds c.toNat) = none := by
      simpa [List.find?_eq_none] using outside
    rw [nowhere]
    exact Char.ofNat_toNat c

theorem settled_toLower_of_ascii {c : Char} (ascii : c.toNat < 128) : Settled c.toLower := by
  have all : ∀ code < 128, lowerChar (Char.ofNat code).toLower = (Char.ofNat code).toLower ∧
      (Char.ofNat code).toLower.toNat < 128 := by decide
  obtain ⟨lower, bound⟩ := all c.toNat ascii
  rw [Char.ofNat_toNat] at lower bound
  exact ⟨lower, by omega, by omega⟩

/-- What a run makes of one of its members is settled. -/
theorem settled_moved {run : CaseRun} {code : Nat} (member : run ∈ lowercaseRuns)
    (held : run.holds code) : Settled (Char.ofNat ((code : Int) + run.shift).toNat) := by
  have settles := CaseRun.settles_of_mem run member
  obtain ⟨moved, high⟩ := CaseRun.moved_bounds settles held
  have same := CaseRun.toNat_ofNat_moved settles held
  have outside : ∀ other ∈ lowercaseRuns,
      other.holds ((code : Int) + run.shift).toNat = false := by
    intro other inside
    simp only [CaseRun.settles, Bool.and_eq_true, List.all_eq_true] at settles
    exact CaseRun.not_holds_moved (CaseRun.settles_of_mem run member) held
      (settles.2 other inside)
  simp only [CaseRun.settles, Bool.and_eq_true, Bool.or_eq_true, decide_eq_true_eq] at settles
  obtain ⟨⟨⟨⟨-, letter⟩, -⟩, notDotted⟩, -⟩ := settles
  generalize ((code : Int) + run.shift).toNat = image at moved high same outside ⊢
  refine ⟨lowerChar_eq_self_of_outside (by rwa [same]) ?_, ?_, ?_⟩
  · have small : ∀ code < 128, 0x61 ≤ code → (Char.ofNat code).toLower = Char.ofNat code := by
      decide
    intro ascii
    rw [same] at ascii
    exact small image ascii (by omega)
  · rw [same]
    rintro rfl
    obtain ⟨other, inside, holds⟩ : ∃ run ∈ lowercaseRuns, run.holds 0x3A3 := by decide
    exact absurd holds (by simp [outside other inside])
  · omega

theorem settled_lowerChar {c : Char} (notSigma : c.toNat ≠ 0x3A3) (notDotted : c.toNat ≠ 0x130) :
    Settled (lowerChar c) := by
  rcases lowerChar_cases c with same | ⟨ascii, same⟩ | ⟨run, member, held, same⟩
  · exact ⟨by rw [same, same], by rwa [same], by rwa [same]⟩
  · exact same ▸ settled_toLower_of_ascii ascii
  · exact same ▸ settled_moved member held

/-! ## Texts -/

/-- What lower-casing makes of a character, by the places it can stand in. -/
inductive Lowered : Char → Text → Prop
  | plain {c : Char} (notSigma : c.toNat ≠ 0x3A3) (notDotted : c.toNat ≠ 0x130) :
      Lowered c [lowerChar c]
  | sigma {c : Char} (capital : c.toNat = 0x3A3) : Lowered c ['\u03c3']
  | finalSigma {c : Char} (capital : c.toNat = 0x3A3) : Lowered c ['\u03c2']
  | dotted {c : Char} (capital : c.toNat = 0x130) : Lowered c ['i', '\u0307']

theorem exists_lowered (before text : Text) : ∃ blocks, List.Forall₂ Lowered text blocks ∧
    toLowerFrom before text = blocks.flatten := by
  induction text generalizing before with
  | nil => exact ⟨[], .nil, rfl⟩
  | cons c rest inductionHypothesis =>
      obtain ⟨blocks, lowered, whole⟩ := inductionHypothesis (c :: before)
      have first : ∃ block, Lowered c block ∧
          toLowerFrom before (c :: rest) = block ++ toLowerFrom (c :: before) rest := by
        rw [toLowerFrom]
        split_ifs with sigma final dotted
        · exact ⟨_, .finalSigma sigma, rfl⟩
        · exact ⟨_, .sigma sigma, rfl⟩
        · exact ⟨_, .dotted dotted, rfl⟩
        · exact ⟨_, .plain sigma dotted, rfl⟩
      obtain ⟨block, here, split⟩ := first
      exact ⟨block :: blocks, .cons here lowered, by rw [split, whole, List.flatten_cons]⟩

theorem Lowered.settled {c d : Char} {block : Text} (lowered : Lowered c block)
    (member : d ∈ block) : Settled d := by
  have ofSmall {code : Nat} (small : code ∈ [0x3C3, 0x3C2, 0x69, 0x307]) :
      Settled (Char.ofNat code) := by
    have all : ∀ code ∈ [0x3C3, 0x3C2, 0x69, 0x307], lowerChar (Char.ofNat code) = Char.ofNat code ∧
        (Char.ofNat code).toNat ≠ 0x3A3 ∧ (Char.ofNat code).toNat ≠ 0x130 := by decide
    obtain ⟨lower, notSigma, notDotted⟩ := all code small
    exact ⟨lower, notSigma, notDotted⟩
  cases lowered with
  | plain notSigma notDotted =>
      obtain rfl := List.mem_singleton.mp member
      exact settled_lowerChar notSigma notDotted
  | sigma =>
      obtain rfl := List.mem_singleton.mp member
      exact ofSmall (by simp)
  | finalSigma =>
      obtain rfl := List.mem_singleton.mp member
      exact ofSmall (by simp)
  | dotted =>
      rcases List.mem_pair.mp member with rfl | rfl
      · exact ofSmall (by simp)
      · exact ofSmall (by simp)

theorem Settled.eq_of_lowered {c : Char} {block : Text} (settled : Settled c)
    (lowered : Lowered c block) : block = [c] := by
  cases lowered with
  | plain => rw [settled.lower]
  | sigma capital => exact absurd capital settled.notSigma
  | finalSigma capital => exact absurd capital settled.notSigma
  | dotted capital => exact absurd capital settled.notDotted

theorem settled_of_mem_toLower {text : Text} {d : Char} (member : d ∈ toLower text) :
    Settled d := by
  obtain ⟨blocks, lowered, whole⟩ := exists_lowered [] text
  rw [toLower, whole] at member
  obtain ⟨block, inside, member⟩ := List.mem_flatten.mp member
  obtain ⟨index, bound, rfl⟩ := List.getElem_of_mem inside
  exact (lowered.get (lowered.length_eq ▸ bound) bound).settled member

theorem toLower_eq_self {text : Text} (settled : ∀ c ∈ text, Settled c) : toLower text = text := by
  obtain ⟨blocks, lowered, whole⟩ := exists_lowered [] text
  rw [toLower, whole]
  clear whole
  induction lowered with
  | nil => rfl
  | cons here _ inductionHypothesis =>
      obtain ⟨first, others⟩ := List.forall_mem_cons.mp settled
      rw [List.flatten_cons, first.eq_of_lowered here, inductionHypothesis others]
      rfl

theorem toLower_toLower (text : Text) : toLower (toLower text) = toLower text :=
  toLower_eq_self fun _ member => settled_of_mem_toLower member

/-! ## Sets that lower-casing respects -/

/-- Whether no code point is in both of two sets, as their ranges show. -/
def Ranges.apart (left right : Ranges) : Bool :=
  left.all fun range => right.all fun other => range.2.blt other.1 || other.2.blt range.1

theorem Ranges.not_both_of_apart {left right : Ranges} (apart : left.apart right) {code : Nat}
    (inLeft : left.member code) : right.member code = false := by
  obtain ⟨range, inside, within⟩ := List.any_eq_true.mp inLeft
  rw [member, List.any_eq_false]
  rintro other otherInside otherWithin
  simp only [Ranges.apart, List.all_eq_true, Bool.or_eq_true, Nat.blt_eq] at apart
  have := apart range inside other otherInside
  simp only [Bool.and_eq_true, decide_eq_true_eq] at within otherWithin
  omega

/-- Ranges around all that runs hold or move to, and around the characters with rules of their own
and what these become. The long s is left out, which lower-casing does not know. -/
def caseCodes : Ranges :=
  [(0x6B, 0x6B), (0xC0, 0x17E), (0x180, 0x29E), (0x307, 0x307), (0x370, 0x586), (0x10A0, 0x10FF),
    (0x13A0, 0x13FD), (0x1C89, 0x1CBF), (0x1D79, 0x1D8E), (0x1E00, 0x1FFC), (0x2126, 0x2184),
    (0x24B6, 0x24E9), (0x2C00, 0x2D2D), (0xA640, 0xA69B), (0xA722, 0xA7F6), (0xAB53, 0xABBF),
    (0xFF21, 0xFF5A), (0x10400, 0x1044F), (0x104B0, 0x104FB), (0x10570, 0x105BC),
    (0x10C80, 0x10CF2), (0x10D50, 0x10D85), (0x118A0, 0x118DF), (0x16E40, 0x16ED3),
    (0x1E900, 0x1E943)]

theorem member_caseCodes {run : CaseRun} {code : Nat} (member : run ∈ lowercaseRuns)
    (held : run.holds code) :
    caseCodes.member code ∧ caseCodes.member ((code : Int) + run.shift).toNat := by
  have around : ∀ run ∈ lowercaseRuns,
      (caseCodes.any fun range => range.1.ble run.first && run.last.ble range.2) ∧
        caseCodes.any fun range => range.1.ble run.movedFirst && run.movedLast.ble range.2 := by
    decide +kernel
  obtain ⟨here, there⟩ := around run member
  obtain ⟨low, high, -⟩ := CaseRun.holds_iff.mp held
  obtain ⟨moved, movedHigh⟩ := CaseRun.moved_bounds (CaseRun.settles_of_mem run member) held
  constructor
  · obtain ⟨range, inside, within⟩ := List.any_eq_true.mp here
    simp only [Bool.and_eq_true, Nat.ble_eq] at within
    refine List.any_eq_true.mpr ⟨range, inside, ?_⟩
    simp only [Bool.and_eq_true, decide_eq_true_eq]
    omega
  · obtain ⟨range, inside, within⟩ := List.any_eq_true.mp there
    simp only [Bool.and_eq_true, Nat.ble_eq] at within
    refine List.any_eq_true.mpr ⟨range, inside, ?_⟩
    simp only [Bool.and_eq_true, decide_eq_true_eq]
    omega

/-- Whether lower-casing is seen to take no character into a set or out of it: the letters of ASCII
are compared one by one, and no other character of the set has a case. -/
def Ranges.keepsCase (ranges : Ranges) : Bool :=
  ((List.range 128).all fun code =>
    ranges.member (Char.ofNat code).toLower.toNat == ranges.member code) && caseCodes.apart ranges

theorem Ranges.not_member_of_keepsCase {ranges : Ranges} (keeps : ranges.keepsCase) {code : Nat}
    (cased : caseCodes.member code) : ranges.member code = false := by
  simp only [keepsCase, Bool.and_eq_true] at keeps
  exact not_both_of_apart keeps.2 cased

/-- A set that lower-casing respects holds a character if it holds its lower-case form. -/
theorem Ranges.member_lowerChar {ranges : Ranges} (keeps : ranges.keepsCase) (c : Char) :
    ranges.member (lowerChar c).toNat = ranges.member c.toNat := by
  rcases lowerChar_cases c with same | ⟨small, same⟩ | ⟨run, member, held, same⟩
  · rw [same]
  · simp only [keepsCase, Bool.and_eq_true, List.all_eq_true, List.mem_range, beq_iff_eq] at keeps
    have ascii := keeps.1 c.toNat small
    rwa [Char.ofNat_toNat, ← same] at ascii
  · obtain ⟨here, there⟩ := member_caseCodes member held
    rw [same, CaseRun.toNat_ofNat_moved (CaseRun.settles_of_mem run member) held,
      not_member_of_keepsCase keeps here, not_member_of_keepsCase keeps there]

/-- A character of a set that lower-casing respects. -/
def KeepsCase (c : Char) : Prop :=
  ∃ ranges : Ranges, ranges.keepsCase ∧ ranges.member c.toNat

theorem KeepsCase.lowerChar {c : Char} (keeps : KeepsCase c) : KeepsCase (lowerChar c) := by
  obtain ⟨ranges, keepsCase, member⟩ := keeps
  exact ⟨ranges, keepsCase, by rwa [Ranges.member_lowerChar keepsCase]⟩

theorem KeepsCase.not_cased {c : Char} (keeps : KeepsCase c) :
    caseCodes.member c.toNat = false := by
  obtain ⟨ranges, keepsCase, member⟩ := keeps
  rw [Bool.eq_false_iff]
  intro cased
  exact absurd member (by simp [Ranges.not_member_of_keepsCase keepsCase cased])

theorem Lowered.eq_of_keepsCase {c : Char} {block : Text} (lowered : Lowered c block)
    (keeps : KeepsCase c ∨ ∀ d ∈ block, KeepsCase d) : block = [Text.lowerChar c] := by
  cases lowered with
  | plain => rfl
  | sigma capital =>
      rcases keeps with here | there
      · exact absurd here.not_cased (by rw [capital]; decide)
      · exact absurd (there _ List.mem_cons_self).not_cased (by decide)
  | finalSigma capital =>
      rcases keeps with here | there
      · exact absurd here.not_cased (by rw [capital]; decide)
      · exact absurd (there _ List.mem_cons_self).not_cased (by decide)
  | dotted capital =>
      rcases keeps with here | there
      · exact absurd here.not_cased (by rw [capital]; decide)
      · exact absurd (there '\u0307' (by simp)).not_cased (by decide)

theorem toLower_eq_map {text : Text}
    (keeps : (∀ c ∈ text, KeepsCase c) ∨ ∀ d ∈ toLower text, KeepsCase d) :
    toLower text = text.map lowerChar := by
  obtain ⟨blocks, lowered, whole⟩ := exists_lowered [] text
  rw [toLower, whole] at keeps ⊢
  clear whole
  induction lowered with
  | nil => rfl
  | @cons c block text blocks here _ inductionHypothesis =>
      rw [List.flatten_cons, List.forall_mem_append, List.forall_mem_cons] at keeps
      have first : KeepsCase c ∨ ∀ d ∈ block, KeepsCase d := keeps.imp And.left And.left
      have others := inductionHypothesis (keeps.imp And.right And.right)
      rw [List.flatten_cons, here.eq_of_keepsCase first, others]
      rfl

/-- Texts with the same lower-case form are the same but for case, character by character, if sets
that lower-casing respects hold the characters of one of them. -/
theorem forall₂_of_toLower_eq {text other : Text} (keeps : ∀ c ∈ text, KeepsCase c)
    (same : toLower other = toLower text) :
    List.Forall₂ (fun c d => lowerChar c = lowerChar d) text other := by
  have mapped := toLower_eq_map (.inl keeps)
  have keepsOther : ∀ d ∈ toLower other, KeepsCase d := by
    intro d member
    rw [same, mapped] at member
    obtain ⟨c, inside, rfl⟩ := List.mem_map.mp member
    exact (keeps c inside).lowerChar
  have mappedOther := toLower_eq_map (.inr keepsOther)
  have paired : List.Forall₂ (· = ·) (text.map lowerChar) (other.map lowerChar) := by
    rw [List.forall₂_eq_eq_eq, ← mapped, ← mappedOther, same]
  rwa [List.forall₂_map_left_iff, List.forall₂_map_right_iff] at paired

/-! ## Sets without letters -/

/-- Whether a set holds no letter of ASCII, no member of a run and nothing that lower-casing
writes. -/
def Ranges.caseless (ranges : Ranges) : Bool :=
  ranges.keepsCase &&
    (List.range 128).all fun code => !(ranges.member code && (Char.ofNat code).isAlpha)

/-- Characters stand for one character: themselves, or characters that are as little in a class as
it is. -/
def Kept (inClass : Char → Bool) (c : Char) (block : Text) : Prop :=
  block = [c] ∨ (block ≠ [] ∧ ∀ d ∈ c :: block, inClass d = false)

theorem Lowered.kept {ranges : Ranges} (caseless : ranges.caseless) {c : Char} {block : Text}
    (lowered : Lowered c block) : Kept (fun d => ranges.member d.toNat) c block := by
  simp only [Ranges.caseless, Bool.and_eq_true, List.all_eq_true, List.mem_range] at caseless
  obtain ⟨keeps, letterless⟩ := caseless
  have letter {d : Char} (small : d.toNat < 128) (alpha : d.isAlpha) :
      ranges.member d.toNat = false := by
    have := letterless d.toNat small
    rw [Char.ofNat_toNat, alpha] at this
    simpa using this
  have special {code : Nat} (cased : caseCodes.member code) : ranges.member code = false :=
    Ranges.not_member_of_keepsCase keeps cased
  cases lowered with
  | plain notSigma notDotted =>
      by_cases same : lowerChar c = c
      · exact .inl (by rw [same])
      · refine .inr ⟨nofun, ?_⟩
        have outside : ranges.member c.toNat = false := by
          rcases lowerChar_cases c with fixed | ⟨small, lower⟩ | ⟨run, member, held, -⟩
          · exact absurd fixed same
          · have all : ∀ code < 128, (Char.ofNat code).toLower = Char.ofNat code ∨
                (Char.ofNat code).isAlpha := by decide
            rcases all c.toNat small with fixed | alpha
            · rw [Char.ofNat_toNat] at fixed
              exact absurd (lower.trans fixed) same
            · rw [Char.ofNat_toNat] at alpha
              exact letter small alpha
          · exact special (member_caseCodes member held).1
        simpa [Ranges.member_lowerChar keeps] using outside
  | sigma capital =>
      refine .inr ⟨nofun, ?_⟩
      simpa [capital] using ⟨special (by decide), special (by decide)⟩
  | finalSigma capital =>
      refine .inr ⟨nofun, ?_⟩
      simpa [capital] using ⟨special (by decide), special (by decide)⟩
  | dotted capital =>
      refine .inr ⟨nofun, ?_⟩
      have small : ranges.member 'i'.toNat = false := letter (by decide) (by decide)
      simpa [capital] using ⟨special (by decide), small, special (by decide)⟩

section Kept

variable {inClass : Char → Bool} {text : Text} {blocks : List Text}

theorem Kept.mono {c : Char} {block : Text} {small : Char → Bool} (kept : Kept inClass c block)
    (within : ∀ d, small d → inClass d) : Kept small c block := by
  rcases kept with same | ⟨nonempty, outside⟩
  · exact .inl same
  · refine .inr ⟨nonempty, fun d member => ?_⟩
    rw [Bool.eq_false_iff]
    intro inSmall
    exact absurd (within d inSmall) (by simp [outside d member])

theorem mem_of_kept (kept : List.Forall₂ (Kept inClass) text blocks) {d : Char}
    (member : d ∈ blocks.flatten) (classed : inClass d) : d ∈ text := by
  induction kept with
  | nil => exact absurd member List.not_mem_nil
  | cons here _ inductionHypothesis =>
      rw [List.flatten_cons, List.mem_append] at member
      rcases member with member | member
      · rcases here with rfl | ⟨-, outside⟩
        · exact List.mem_cons.mpr (.inl (List.mem_singleton.mp member))
        · exact absurd classed (by simp [outside d (List.mem_cons_of_mem _ member)])
      · exact List.mem_cons_of_mem _ (inductionHypothesis member)

theorem head?_of_kept (kept : List.Forall₂ (Kept inClass) text blocks) {d : Char}
    (head : d ∈ blocks.flatten.head?) (classed : inClass d) : d ∈ text.head? := by
  cases kept with
  | nil => exact absurd head (by simp)
  | cons here _ =>
      rcases here with rfl | ⟨nonempty, outside⟩
      · exact head
      · obtain ⟨first, block, rfl⟩ := List.exists_cons_of_ne_nil nonempty
        obtain rfl : first = d := by simpa using head
        exact absurd classed (by simp [outside first])

theorem head?_flatten_of_kept (kept : List.Forall₂ (Kept inClass) text blocks) {c : Char}
    (head : c ∈ text.head?) (classed : inClass c) : c ∈ blocks.flatten.head? := by
  cases kept with
  | nil => exact absurd head (by simp)
  | cons here _ =>
      obtain rfl := Option.some.inj head
      rcases here with rfl | ⟨-, outside⟩
      · rfl
      · exact absurd classed (by simp [outside _ List.mem_cons_self])

theorem reverse_of_kept (kept : List.Forall₂ (Kept inClass) text blocks) : ∃ turned,
    blocks.flatten.reverse = turned.flatten ∧ List.Forall₂ (Kept inClass) text.reverse turned := by
  refine ⟨(blocks.map List.reverse).reverse, List.reverse_flatten, ?_⟩
  rw [← List.map_reverse, List.forall₂_map_right_iff]
  refine (List.forall₂_reverse_iff.mpr kept).imp fun c block here => ?_
  rcases here with rfl | ⟨nonempty, outside⟩
  · exact .inl rfl
  · exact .inr ⟨by simpa using nonempty, by simpa using outside⟩

theorem unblank_head_iff (kept : List.Forall₂ (Kept isBlank) text blocks) :
    (∀ c ∈ blocks.flatten.head?, isBlank c = false) ↔ ∀ c ∈ text.head?, isBlank c = false := by
  constructor
  · intro unblank c head
    by_contra blank
    rw [Bool.not_eq_false] at blank
    exact absurd blank (by simp [unblank c (head?_flatten_of_kept kept head blank)])
  · intro unblank c head
    by_contra blank
    rw [Bool.not_eq_false] at blank
    exact absurd blank (by simp [unblank c (head?_of_kept kept head blank)])

theorem trimmed_of_kept (kept : List.Forall₂ (Kept isBlank) text blocks) :
    Trimmed blocks.flatten ↔ Trimmed text := by
  obtain ⟨turned, whole, turnedKept⟩ := reverse_of_kept kept
  have first := unblank_head_iff kept
  have last := unblank_head_iff turnedKept
  rw [← whole, List.head?_reverse, List.head?_reverse] at last
  constructor
  · rintro ⟨firstBefore, lastBefore⟩
    exact ⟨first.mp firstBefore, last.mp lastBefore⟩
  · rintro ⟨firstBefore, lastBefore⟩
    exact ⟨first.mpr firstBefore, last.mpr lastBefore⟩

theorem SingleSpaced.of_kept (kept : List.Forall₂ (Kept isBlank) text blocks)
    (spaced : SingleSpaced text) : SingleSpaced blocks.flatten := by
  refine ⟨fun d member blank => spaced.spaces d (mem_of_kept kept member blank) blank, ?_⟩
  have single := spaced.single
  induction kept with
  | nil => exact .nil
  | @cons c block rest blocks here others inductionHypothesis =>
      have next : SingleSpaced rest := spaced.of_part (List.suffix_cons c rest).isInfix
      obtain ⟨apart, -⟩ := List.isChain_cons.mp single
      have behind := inductionHypothesis next next.single
      rw [List.flatten_cons]
      rcases here with rfl | ⟨-, outside⟩
      · refine List.isChain_cons.mpr ⟨?_, behind⟩
        rintro d head ⟨blankHere, blankNext⟩
        exact apart d (head?_of_kept others head blankNext) ⟨blankHere, blankNext⟩
      · have unblank : ∀ d ∈ block, isBlank d = false := fun d member =>
          outside d (List.mem_cons_of_mem c member)
        refine List.isChain_append.mpr ⟨?_, behind, ?_⟩
        · refine List.Pairwise.isChain (List.pairwise_of_forall_mem_list ?_)
          rintro d member _ - ⟨blank, -⟩
          exact absurd blank (by simp [unblank d member])
        · rintro d last _ - ⟨blank, -⟩
          exact absurd blank (by simp [unblank d (List.mem_of_getLast? last)])

end Kept

/-! ## Blanks -/

/-- The code points of blanks. -/
def blankRanges : Ranges :=
  [(9, 13), (0x20, 0x20), (0x85, 0x85), (0xA0, 0xA0), (0x1680, 0x1680), (0x2000, 0x200A),
    (0x2028, 0x2029), (0x202F, 0x202F), (0x205F, 0x205F), (0x3000, 0x3000)]

theorem member_blankRanges (c : Char) : blankRanges.member c.toNat = isBlank c := by
  rw [Bool.eq_iff_iff]
  simp only [blankRanges, Ranges.member, List.any_cons, List.any_nil, isBlank, Bool.or_eq_true,
    Bool.and_eq_true, decide_eq_true_eq, beq_iff_eq, Bool.or_false]
  omega

theorem isBlank_lowerChar (c : Char) : isBlank (lowerChar c) = isBlank c := by
  have keeps : blankRanges.keepsCase := by decide
  rw [← member_blankRanges, ← member_blankRanges, Ranges.member_lowerChar keeps]

theorem trimmed_toLower {text : Text} : Trimmed (toLower text) ↔ Trimmed text := by
  have caseless : blankRanges.caseless := by decide
  obtain ⟨blocks, lowered, whole⟩ := exists_lowered [] text
  have kept : List.Forall₂ (Kept isBlank) text blocks := by
    refine lowered.imp fun c block here => ?_
    simpa only [member_blankRanges] using here.kept caseless
  rw [toLower, whole]
  exact trimmed_of_kept kept

end SafeMarkup.Text
