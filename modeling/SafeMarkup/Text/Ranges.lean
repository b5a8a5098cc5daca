import SafeMarkup.Text.Basic

/-!
Contract: sets of characters given as lists of code point ranges, and their written form.

Owns: membership, the operations on sets, and the tables of this folder.
Does not own: any one table.

A table is written as hexadecimal ranges with a space between neighbours, `41-5A 61-7A AA`. A range
may say at which distance its members follow one another, `100-12E/2`.

Main statement: `member_gaps`, by which a complement holds what the set does not.
-/

namespace SafeMarkup.Text

/-- A set of code points as inclusive ranges. -/
abbrev Ranges := List (Nat × Nat)

namespace Ranges

/-- Whether a code point lies in one of the ranges. -/
def member (ranges : Ranges) (code : Nat) : Bool :=
  ranges.any fun (first, last) => first ≤ code && code ≤ last

/-! ## Tables -/

def hexNumber (digits : Text) : Nat :=
  digits.foldl (fun value c => 16 * value + (hexValue? c).getD 0) 0

/-- The ranges of one word of a table. -/
def ofWord (word : Text) : Ranges :=
  match splitOnce '-' word with
  | none => [(hexNumber word, hexNumber word)]
  | some (first, behind) =>
    match splitOnce '/' behind with
    | none => [(hexNumber first, hexNumber behind)]
    | some (last, distance) =>
      let first := hexNumber first
      let distance := hexNumber distance
      (List.range ((hexNumber last - first) / distance + 1)).map fun index =>
        (first + index * distance, first + index * distance)

/-- The words of a text, given the word read so far in reverse. -/
def wordsFrom (word : Text) : Text → List Text
  | [] => if word.isEmpty then [] else [word.reverse]
  | c :: rest =>
    if c = ' ' ∨ c = '\n' then
      if word.isEmpty then wordsFrom [] rest else word.reverse :: wordsFrom [] rest
    else wordsFrom (c :: word) rest

def read (table : String) : Ranges := (wordsFrom [] table.toList).flatMap ofWord

example : read "41-5A AA 100-104/2" =
    [(0x41, 0x5A), (0xAA, 0xAA), (0x100, 0x100), (0x102, 0x102), (0x104, 0x104)] := by decide

/-! ## Operations -/

/-- Joins ranges that touch or overlap, in a list ordered by first code points, to the range of the
first two arguments. -/
def joinFrom (first last : Nat) : Ranges → Ranges
  | [] => [(first, last)]
  | (nextFirst, nextLast) :: ranges =>
    if nextFirst ≤ last + 1 then joinFrom first (max last nextLast) ranges
    else (first, last) :: joinFrom nextFirst nextLast ranges

/-- Puts a range before the first one that does not begin before it. -/
def insert (range : Nat × Nat) : Ranges → Ranges
  | [] => [range]
  | next :: ranges =>
    if range.1 ≤ next.1 then range :: next :: ranges else next :: insert range ranges

/-- The same set with its ranges in order and apart from one another. -/
def ordered (ranges : Ranges) : Ranges :=
  match ranges.foldr insert [] with
  | [] => []
  | (first, last) :: ranges => joinFrom first last ranges

def lastCode : Nat := 0x10FFFF

/-- The code points from `start` on that lie in none of the ranges, which are in order. -/
def gaps (start : Nat) : Ranges → Ranges
  | [] => if start ≤ lastCode then [(start, lastCode)] else []
  | (first, last) :: ranges =>
    if start < first then (start, first - 1) :: gaps (max start (last + 1)) ranges
    else gaps (max start (last + 1)) ranges

/-- The code points that are no characters. -/
def surrogates : Ranges := [(0xD800, 0xDFFF)]

/-- The characters that are not in a set. -/
def complement (ranges : Ranges) : Ranges := gaps 0 (ordered (surrogates ++ ranges))

def union (left right : Ranges) : Ranges := ordered (left ++ right)

def inter (left right : Ranges) : Ranges := complement (complement left ++ complement right)

/-- The members of the left set that are not in the right one. -/
def difference (left right : Ranges) : Ranges := inter left (complement right)

example : complement (union [(0x41, 0x5A)] [(0x50, 0x60), (0xE000, 0x10FFFF)]) =
    [(0, 0x40), (0x61, 0xD7FF)] := by decide +kernel

/-- A code point is in the gaps of ordered ranges if it is in none of them. -/
theorem member_gaps {code : Nat} (inside : code ≤ lastCode) :
    ∀ (ranges : Ranges) (start : Nat), start ≤ code →
      (ranges.Pairwise fun left right => left.1 ≤ right.1) →
      member (gaps start ranges) code = !member ranges code
  | [], start, after, _ => by
    have : start ≤ lastCode := Nat.le_trans after inside
    simp [gaps, member, this, after, inside]
  | (first, last) :: ranges, start, after, sorted => by
    have tailSorted := (List.pairwise_cons.1 sorted).2
    have heads := (List.pairwise_cons.1 sorted).1
    by_cases below : code < first
    · have opens : start < first := Nat.lt_of_le_of_lt after below
      have apart : member ranges code = false := by
        simp only [member, List.any_eq_false, Bool.and_eq_true, decide_eq_true_eq, not_and]
        intro range inRanges
        have := heads range inRanges
        omega
      simp only [gaps, opens, if_true, member, List.any_cons]
      have ends : code ≤ first - 1 := by omega
      simp only [member] at apart
      simp [after, ends, apart]
      omega
    · have reached : first ≤ code := Nat.le_of_not_lt below
      by_cases covered : code ≤ last
      · have behind : code < max start (last + 1) := by omega
        have none := gaps_above ranges _ behind
        by_cases opens : start < first
        · simp only [gaps, opens, if_true]
          simp only [member, List.any_cons] at none ⊢
          simp [none, reached, covered]
          omega
        · simp only [gaps, opens, if_false]
          simp only [member, List.any_cons] at none ⊢
          simp [none, reached, covered]
      · have rest := member_gaps inside ranges (max start (last + 1)) (by omega) tailSorted
        by_cases opens : start < first
        · simp only [gaps, opens, if_true]
          simp only [member, List.any_cons] at rest ⊢
          rw [rest]
          have : ¬ code ≤ first - 1 := by omega
          simp [this, covered]
        · simp only [gaps, opens, if_false]
          simp only [member, List.any_cons] at rest ⊢
          rw [rest]
          simp [covered]
where
  /-- Gaps begin where they are told to. -/
  gaps_above {code : Nat} : ∀ (ranges : Ranges) (start : Nat), code < start →
      member (gaps start ranges) code = false
    | [], start, above => by
      by_cases inside : start ≤ lastCode
      · simp [gaps, member, inside]
        omega
      · simp [gaps, member, inside]
    | (first, last) :: ranges, start, above => by
      have behind : code < max start (last + 1) := by omega
      have rest := gaps_above ranges _ behind
      by_cases opens : start < first
      · simp only [gaps, opens, if_true]
        simp only [member, List.any_cons] at rest ⊢
        simp [rest]
        omega
      · simp only [gaps, opens, if_false]
        exact rest

end Ranges
end SafeMarkup.Text
