import SafeMarkup.Text.Ranges

/-!
Contract: the bytes of characters in UTF-8, and ranges of characters as rows of byte ranges.

A row gives one range for each byte of a character: its members are the characters whose bytes lie
in these ranges one by one. Most ranges of characters need several rows.

Main statement: `cut?_bounds`, by which a range is cut inside itself.
-/

namespace SafeMarkup.Text

def utf8 (code : Nat) : List Nat :=
  if code < 0x80 then [code]
  else if code < 0x800 then [0xC0 + code / 64, 0x80 + code % 64]
  else if code < 0x10000 then [0xE0 + code / 4096, 0x80 + code / 64 % 64, 0x80 + code % 64]
  else [0xF0 + code / 262144, 0x80 + code / 4096 % 64, 0x80 + code / 64 % 64, 0x80 + code % 64]

/-- Where a range is cut so that what begins before a multiple of `unit`, or ends before the next
one, stands by itself. -/
def cutAt? (first last unit : Nat) : Option Nat :=
  if last / unit ≤ first / unit then none
  else if first % unit ≠ 0 then some (first / unit * unit + (unit - 1))
  else if last % unit ≠ unit - 1 then some (last / unit * unit - 1)
  else none

/-- Behind which of its code points a range has to be cut: characters of one row have equally many
bytes, and where one of the bytes varies, those behind it take all their values. -/
def cut? (first last : Nat) : Option Nat :=
  ([0x7F, 0x7FF, 0xFFFF].find? fun limit => first ≤ limit && limit < last).or <|
    if last < 0x80 then none
    else (cutAt? first last 64).or ((cutAt? first last 4096).or (cutAt? first last 262144))

/-- A cut leaves something on both sides. -/
theorem cutAt?_bounds {first last unit middle : Nat} (positive : 0 < unit)
    (found : cutAt? first last unit = some middle) : first ≤ middle ∧ middle < last := by
  have firstParts := Nat.div_add_mod first unit
  have lastParts := Nat.div_add_mod last unit
  have firstRest := Nat.mod_lt first positive
  unfold cutAt? at found
  split at found
  · cases found
  · rename_i apart
    have further : unit * (first / unit) + unit ≤ unit * (last / unit) := by
      rw [← Nat.mul_succ]
      exact Nat.mul_le_mul_left unit (Nat.lt_of_not_le apart)
    rw [Nat.mul_comm (first / unit), Nat.mul_comm (last / unit)] at found
    split at found
    · cases found
      omega
    · split at found
      · cases found
        omega
      · cases found

/-- A cut leaves something on both sides. -/
theorem cut?_bounds {first last middle : Nat} (found : cut? first last = some middle) :
    first ≤ middle ∧ middle < last := by
  unfold cut? at found
  rcases Option.or_eq_some_iff.1 found with limit | ⟨-, rest⟩
  · have := List.find?_some limit
    simpa using this
  · split at rest
    · cases rest
    · rcases Option.or_eq_some_iff.1 rest with found | ⟨-, rest⟩
      · exact cutAt?_bounds (by decide) found
      · rcases Option.or_eq_some_iff.1 rest with found | ⟨-, found⟩
        · exact cutAt?_bounds (by decide) found
        · exact cutAt?_bounds (by decide) found

def byteRows (first last : Nat) : List (List (Nat × Nat)) :=
  match _found : cut? first last with
  | some middle => byteRows first middle ++ byteRows (middle + 1) last
  | none => [(utf8 first).zip (utf8 last)]
termination_by last - first
decreasing_by
  all_goals
    have := cut?_bounds _found
    omega

def Ranges.byteRows (ranges : Ranges) : List (List (Nat × Nat)) :=
  ranges.flatMap fun (first, last) => Text.byteRows first last

example : byteRows 0x41 0x5A = [[(0x41, 0x5A)]] := by decide +kernel

example : byteRows 0x70 0x7FF = [[(0x70, 0x7F)], [(0xC2, 0xDF), (0x80, 0xBF)]] := by decide +kernel

end SafeMarkup.Text
