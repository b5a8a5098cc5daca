import SafeMarkup.Text.Basic
import Mathlib.Data.List.Basic

/-!
Contract: texts by their bytes.

Owns: that a text is determined by its bytes, and a beginning of it by a beginning of them; the
places between characters among all offsets; and the bytes of ASCII characters, which stand for
nothing else.

Does not own: bytes that are no text.
-/

namespace SafeMarkup.Text

@[simp] theorem bytes_append (front rest : Text) :
    bytes (front ++ rest) = bytes front ++ bytes rest :=
  List.flatMap_append

theorem length_bytes_cons (c : Char) (rest : Text) :
    (bytes (c :: rest)).length = c.utf8Size + (bytes rest).length := by
  rw [bytes, List.flatMap_cons, List.length_append, String.length_utf8EncodeChar]
  rfl

/-- No character is written by the beginning of the bytes of another one. -/
theorem bytes_prefix_iff {front text : Text} : bytes front <+: bytes text ↔ front <+: text := by
  constructor
  · rintro ⟨rest, same⟩
    have sameArray : front.utf8Encode ++ rest.toByteArray = text.utf8Encode := by
      rw [List.utf8Encode, List.utf8Encode, ← List.toByteArray_append]
      exact congrArg List.toByteArray same
    exact List.isPrefix_of_utf8Encode_append_eq_utf8Encode rest.toByteArray sameArray
  · rintro ⟨rest, rfl⟩
    exact ⟨bytes rest, (bytes_append front rest).symm⟩

theorem bytes_injective : Function.Injective bytes := by
  intro text other same
  have sameArray : text.utf8Encode = other.utf8Encode := congrArg List.toByteArray same
  rw [← String.toByteArray_ofList, ← String.toByteArray_ofList] at sameArray
  exact String.ofList_injective (String.toByteArray_inj.mp sameArray)

/-! ## Places between characters -/

/-- What stands behind an offset in bytes, if that is the end of a text or a place where one of its
characters begins. -/
def cutBytes? : Nat → Text → Option Text
  | 0, text => some text
  | _ + 1, [] => none
  | offset + 1, c :: rest =>
    if c.utf8Size ≤ offset + 1 then cutBytes? (offset + 1 - c.utf8Size) rest else none

theorem cutBytes?_append (front rest : Text) :
    cutBytes? (bytes front).length (front ++ rest) = some rest := by
  induction front with
  | nil => rw [bytes, List.flatMap_nil, List.length_nil, List.nil_append, cutBytes?]
  | cons c front inductionHypothesis =>
      have positive : 0 < c.utf8Size := c.utf8Size_pos
      obtain ⟨offset, further⟩ : ∃ offset, (bytes (c :: front)).length = offset + 1 :=
        Nat.exists_eq_add_one.mpr (by rw [length_bytes_cons]; omega)
      have behind : offset + 1 - c.utf8Size = (bytes front).length := by
        rw [← further, length_bytes_cons, Nat.add_sub_cancel_left]
      have inside : c.utf8Size ≤ offset + 1 := by
        rw [← further, length_bytes_cons]
        omega
      rw [further, List.cons_append, cutBytes?, if_pos inside, behind, inductionHypothesis]

theorem exists_front_of_cutBytes? {offset : Nat} {text rest : Text}
    (cut : cutBytes? offset text = some rest) :
    ∃ front, text = front ++ rest ∧ (bytes front).length = offset := by
  fun_induction cutBytes? offset text with
  | case1 text => exact ⟨[], Option.some.inj cut, rfl⟩
  | case2 => exact absurd cut nofun
  | case3 offset c text inside inductionHypothesis =>
      obtain ⟨front, rfl, length⟩ := inductionHypothesis cut
      refine ⟨c :: front, rfl, ?_⟩
      rw [length_bytes_cons]
      omega
  | case4 => exact absurd cut nofun

/-- A text can be cut at the offsets at which a beginning of it ends, and at no others. -/
theorem cutBytes?_eq_some_iff {offset : Nat} {text rest : Text} :
    cutBytes? offset text = some rest ↔
      ∃ front, text = front ++ rest ∧ (bytes front).length = offset := by
  constructor
  · exact exists_front_of_cutBytes?
  · rintro ⟨front, rfl, rfl⟩
    exact cutBytes?_append front rest

/-! ## Characters of one byte -/

/-- A character that has more than one byte has none of ASCII. -/
theorem toNat_eq_of_mem_utf8EncodeChar {c : Char} {byte : UInt8} (ascii : byte.toNat ≤ 127)
    (member : byte ∈ String.utf8EncodeChar c) : c.toNat = byte.toNat := by
  have code : c.toNat = c.val.toNat := rfl
  unfold String.utf8EncodeChar at member
  dsimp only at member
  split_ifs at member with one two three
  case pos =>
    rw [List.mem_singleton.mp member, UInt8.toNat_ofNat']
    omega
  -- The bytes of the others are all at least 128.
  all_goals
    simp only [List.mem_cons, List.not_mem_nil, or_false] at member
    have large : 128 ≤ byte.toNat := by
      rcases member with rfl | rfl | rfl | rfl <;> rw [UInt8.toNat_ofNat'] <;> omega
    omega

theorem utf8EncodeChar_ascii {c : Char} (ascii : c.toNat ≤ 127) :
    String.utf8EncodeChar c = [UInt8.ofNat c.toNat] := if_pos ascii

/-- A byte of ASCII stands for its character wherever it is found. -/
theorem mem_bytes_iff {mark : Char} (ascii : mark.toNat ≤ 127) {text : Text} :
    UInt8.ofNat mark.toNat ∈ bytes text ↔ mark ∈ text := by
  have code : (UInt8.ofNat mark.toNat).toNat = mark.toNat := by
    rw [UInt8.toNat_ofNat']
    omega
  rw [bytes, List.mem_flatMap]
  constructor
  · rintro ⟨c, member, within⟩
    have same := toNat_eq_of_mem_utf8EncodeChar (by rw [code]; exact ascii) within
    rwa [← Char.toNat_inj.mp (same.trans code)]
  · intro member
    refine ⟨mark, member, ?_⟩
    rw [utf8EncodeChar_ascii ascii]
    exact List.mem_singleton_self _

end SafeMarkup.Text
