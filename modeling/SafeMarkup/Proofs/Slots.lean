import SafeMarkup.Validator.Basic
import Mathlib.Data.List.Lex

/-!
Contract: parts of a value matched against slots, as a search among all assignments.

Owns: the assignments of parts to the places of slots, and the law that matching finds the first of
them in the order of their places, or that there is none.

Does not own: what a single slot accepts.
-/

namespace SafeMarkup
namespace Matching

variable {context : Context} {slot : Check} {later : List Check} {part : Text}
  {parts values : List Text} {places : List Nat}

/-! ## Assignments -/

/-- What the slot at a place makes of a part, if it accepts the part. -/
def valueAt? (context : Context) (checks : List Check) (place : Nat) (part : Text) : Option Text :=
  checks[place]?.bind fun slot => (slot context.quieted (some part)).value.toOption

/-- All parts have places among the slots, each behind the one before, and the slots there accept
them with these values. -/
structure Assigns (context : Context) (checks : List Check) (parts : List Text)
    (places : List Nat) (values : List Text) : Prop where
  ascending : places.Pairwise (· < ·)
  onePlaceEach : places.length = parts.length
  accepted : List.zipWith (valueAt? context checks) places parts = values.map some

/-- No other assignment has an earlier place where the two first differ. -/
structure FirstAssigns (context : Context) (checks : List Check) (parts : List Text)
    (places : List Nat) (values : List Text) : Prop extends
    Assigns context checks parts places values where
  first : ∀ others otherValues, Assigns context checks parts others otherValues →
    places = others ∨ List.Lex (· < ·) places others

theorem assigns_nil (context : Context) (checks : List Check) :
    FirstAssigns context checks [] [] [] := by
  refine ⟨⟨List.Pairwise.nil, rfl, rfl⟩, fun others _ assigned => .inl ?_⟩
  exact (List.length_eq_zero_iff.mp assigned.onePlaceEach).symm

theorem not_assigns_of_no_slots : ¬Assigns context [] (part :: parts) places values := by
  intro assigned
  cases places with
  | nil => exact absurd assigned.onePlaceEach (by simp)
  | cons place places =>
      cases values with
      | nil => exact absurd assigned.accepted (by simp)
      | cons value values => exact absurd assigned.accepted (by simp [valueAt?])

theorem valueAt?_succ (place : Nat) :
    valueAt? context (slot :: later) (place + 1) part = valueAt? context later place part := by
  simp [valueAt?]

/-- Behind one more slot all places are one further. -/
theorem assigns_shift_iff :
    Assigns context (slot :: later) parts (places.map (· + 1)) values ↔
      Assigns context later parts places values := by
  have shifted : List.zipWith (valueAt? context (slot :: later)) (places.map (· + 1)) parts =
      List.zipWith (valueAt? context later) places parts := by
    simp only [List.zipWith_map_left, valueAt?_succ]
  have ascends : (places.map (· + 1)).Pairwise (· < ·) ↔ places.Pairwise (· < ·) := by
    simp [List.pairwise_map]
  constructor
  · intro assigned
    exact ⟨ascends.mp assigned.ascending, by simpa using assigned.onePlaceEach,
      shifted.symm.trans assigned.accepted⟩
  · intro assigned
    exact ⟨ascends.mpr assigned.ascending, by simpa using assigned.onePlaceEach,
      shifted.trans assigned.accepted⟩

theorem exists_shift_of_pos (positive : ∀ place ∈ places, 0 < place) :
    ∃ rest : List Nat, places = rest.map (· + 1) := by
  refine ⟨places.map (· - 1), ?_⟩
  have back : ∀ place ∈ places, place - 1 + 1 = place := by
    intro place member
    have := positive place member
    omega
  calc places = places.map id := (List.map_id _).symm
    _ = places.map ((· + 1) ∘ (· - 1)) :=
      List.map_congr_left fun place member => (back place member).symm
    _ = (places.map (· - 1)).map (· + 1) := List.map_map.symm

/-- With one more slot, the part in front is left for the others or it takes that slot. -/
theorem Assigns.cases_cons
    (assigned : Assigns context (slot :: later) (part :: parts) places values) :
    (∃ rest, places = rest.map (· + 1) ∧ Assigns context later (part :: parts) rest values) ∨
      ∃ value rest restValues, (slot context.quieted (some part)).value = .ok value ∧
        places = 0 :: rest.map (· + 1) ∧ values = value :: restValues ∧
        Assigns context later parts rest restValues := by
  cases places with
  | nil => exact absurd assigned.onePlaceEach (by simp)
  | cons place places =>
      obtain ⟨behind, ascending⟩ := List.pairwise_cons.mp assigned.ascending
      obtain ⟨rest, rfl⟩ : ∃ rest : List Nat, places = rest.map (· + 1) := by
        apply exists_shift_of_pos
        intro other member
        have := behind other member
        omega
      cases place with
      | succ place =>
          exact .inl ⟨place :: rest, rfl, assigns_shift_iff.mp assigned⟩
      | zero =>
          have accepted := assigned.accepted
          cases values with
          | nil => exact absurd accepted (by simp)
          | cons value values =>
              rw [List.zipWith_cons_cons, List.map_cons] at accepted
              obtain ⟨here, others⟩ := List.cons.inj accepted
              have given : (slot context.quieted (some part)).value = .ok value := by
                have given : (slot context.quieted (some part)).value.toOption = some value := here
                cases answer : (slot context.quieted (some part)).value with
                | error rejection => simp [answer, Except.toOption] at given
                | ok accepted => simpa [answer, Except.toOption] using given
              have count : rest.length = parts.length := by
                simpa using assigned.onePlaceEach
              have behind : Assigns context (slot :: later) parts (rest.map (· + 1)) values :=
                ⟨ascending, by simpa using count, others⟩
              exact .inr ⟨value, rest, values, given, rfl, rfl, assigns_shift_iff.mp behind⟩

theorem Assigns.cons {value : Text}
    (given : (slot context.quieted (some part)).value = .ok value)
    (assigned : Assigns context later parts places values) :
    Assigns context (slot :: later) (part :: parts) (0 :: places.map (· + 1))
      (value :: values) := by
  have behind : Assigns context (slot :: later) parts (places.map (· + 1)) values :=
    assigns_shift_iff.mpr assigned
  refine ⟨List.pairwise_cons.mpr ⟨?_, behind.ascending⟩, ?_, ?_⟩
  · intro place member
    obtain ⟨earlier, -, rfl⟩ := List.mem_map.mp member
    omega
  · simpa using assigned.onePlaceEach
  · have here : valueAt? context (slot :: later) 0 part = some value := by
      simp [valueAt?, given, Except.toOption]
    rw [List.zipWith_cons_cons, List.map_cons, here, behind.accepted]

/-! ## Their order -/

theorem lex_shift {others : List Nat} (earlier : List.Lex (· < ·) places others) :
    List.Lex (· < ·) (places.map (· + 1)) (others.map (· + 1)) := by
  induction earlier with
  | nil => exact .nil
  | cons _ inductionHypothesis => exact .cons inductionHypothesis
  | rel less => exact .rel (Nat.succ_lt_succ less)

/-- If the part in front cannot have the slot in front, the first assignment to the other slots
stays the first. -/
theorem FirstAssigns.shift
    (unusable : ∀ value, (slot context.quieted (some part)).value = .ok value →
      ∀ rest restValues, ¬Assigns context later parts rest restValues)
    (found : FirstAssigns context later (part :: parts) places values) :
    FirstAssigns context (slot :: later) (part :: parts) (places.map (· + 1)) values := by
  refine ⟨assigns_shift_iff.mpr found.toAssigns, fun others otherValues assigned => ?_⟩
  rcases assigned.cases_cons with ⟨rest, rfl, behind⟩ | ⟨_, rest, restValues, given, _, _, behind⟩
  · rcases found.first rest otherValues behind with rfl | earlier
    · exact .inl rfl
    · exact .inr (lex_shift earlier)
  · exact absurd behind (unusable _ given rest restValues)

/-- The slot in front is the earliest place for the part in front. -/
theorem FirstAssigns.cons {value : Text}
    (given : (slot context.quieted (some part)).value = .ok value)
    (found : FirstAssigns context later parts places values) :
    FirstAssigns context (slot :: later) (part :: parts) (0 :: places.map (· + 1))
      (value :: values) := by
  refine ⟨found.toAssigns.cons given, fun others otherValues assigned => ?_⟩
  rcases assigned.cases_cons with ⟨rest, rfl, behind⟩ | ⟨_, rest, restValues, _, rfl, _, behind⟩
  · cases rest with
    | nil => exact absurd behind.onePlaceEach (by simp)
    | cons place rest => exact .inr (.rel (Nat.succ_pos place))
  · rcases found.first rest restValues behind with rfl | earlier
    · exact .inl rfl
    · exact .inr (.cons (lex_shift earlier))

/-! ## The search -/

/-- What a search among assignments comes to: the values of the first one, or an inconsistency if
there is none. -/
inductive Searched (context : Context) (checks : List Check) (parts : List Text) :
    Except Rejection (List Text) → Prop where
  | found {places : List Nat} {values : List Text}
      (first : FirstAssigns context checks parts places values) :
      Searched context checks parts (.ok values)
  | nowhere (none : ∀ places values, ¬Assigns context checks parts places values) :
      Searched context checks parts (.error .sequenceInconsistent)

/-- A search that leaves out the slot in front, because the part in front cannot have it. -/
theorem Searched.shift {answer : Except Rejection (List Text)}
    (unusable : ∀ value, (slot context.quieted (some part)).value = .ok value →
      ∀ rest restValues, ¬Assigns context later parts rest restValues)
    (searched : Searched context later (part :: parts) answer) :
    Searched context (slot :: later) (part :: parts) answer := by
  cases searched with
  | found first => exact .found (first.shift unusable)
  | nowhere none =>
      refine .nowhere fun places values assigned => ?_
      rcases assigned.cases_cons with ⟨rest, _, behind⟩ | ⟨_, rest, restValues, given, _, _, behind⟩
      · exact none rest values behind
      · exact unusable _ given rest restValues behind

theorem searched_slots {checks : List Check}
    (sound : ∀ slot ∈ checks, ∀ part ∈ parts,
      (slot context.quieted (some part)).value ≠ .error .invalid) :
    Searched context checks parts (slots context checks parts).value := by
  induction checks generalizing parts with
  | nil =>
      cases parts with
      | nil => exact .found (assigns_nil context [])
      | cons part parts => exact .nowhere fun _ _ => not_assigns_of_no_slots
  | cons slot later inductionHypothesis =>
      cases parts with
      | nil => exact .found (assigns_nil context _)
      | cons part parts =>
          obtain ⟨soundHere, soundLater⟩ := List.forall_mem_cons.mp sound
          have behind : Searched context later parts (slots context later parts).value :=
            inductionHypothesis fun slot member other inside =>
              soundLater slot member other (List.mem_cons_of_mem _ inside)
          have skipping : Searched context later (part :: parts)
              (slots context later (part :: parts)).value := inductionHypothesis soundLater
          rw [slots, Reported.value_bind]
          split
          case h_1 value given =>
            rw [Reported.value_bind]
            split
            case h_1 values matched =>
              rw [matched] at behind
              cases behind with
              | found first => exact .found (first.cons given)
            case h_2 invalid =>
              rw [invalid] at behind
              exact absurd behind nofun
            case h_3 rejection _ unmatched =>
              rw [unmatched] at behind
              cases behind with
              | nowhere none => exact skipping.shift fun _ _ => none
          case h_2 invalid => exact absurd invalid (soundHere part List.mem_cons_self)
          case h_3 rejection _ refused =>
            refine skipping.shift fun value given => ?_
            exact absurd (refused.symm.trans given) nofun

end Matching

namespace Validator

/-- Where no slot finds a part invalid, matching succeeds exactly if all parts can have slots in
their order. It then gives out what the slots of the first assignment make of them. -/
theorem slots_search {context : Context} {slots : List Validator} {parts : List Text}
    (sound : ∀ slot ∈ slots, ∀ part ∈ parts,
      (slot.check context.quieted (some part)).value ≠ .error .invalid) :
    ((∃ values, (Matching.slots context (checkSlots slots) parts).value = .ok values) ↔
      ∃ places values, Matching.Assigns context (checkSlots slots) parts places values) ∧
    (∀ values, (Matching.slots context (checkSlots slots) parts).value = .ok values →
      ∃ places, Matching.FirstAssigns context (checkSlots slots) parts places values) ∧
    ((∀ places values, ¬Matching.Assigns context (checkSlots slots) parts places values) →
      (Matching.slots context (checkSlots slots) parts).value = .error .sequenceInconsistent) := by
  have soundChecks : ∀ check ∈ checkSlots slots, ∀ part ∈ parts,
      (check context.quieted (some part)).value ≠ .error .invalid := by
    intro check member
    rw [checkSlots_eq_map] at member
    obtain ⟨slot, inside, rfl⟩ := List.mem_map.mp member
    exact sound slot inside
  have searched := Matching.searched_slots soundChecks
  generalize (Matching.slots context (checkSlots slots) parts).value = answer at searched
  cases searched with
  | found first =>
      refine ⟨⟨fun _ => ⟨_, _, first.toAssigns⟩, fun _ => ⟨_, rfl⟩⟩, ?_, ?_⟩
      · intro values same
        obtain rfl := Except.ok.inj same
        exact ⟨_, first⟩
      · exact fun none => absurd first.toAssigns (none _ _)
  | nowhere none =>
      refine ⟨⟨?_, ?_⟩, nofun, fun _ => rfl⟩
      · rintro ⟨values, same⟩
        exact absurd same nofun
      · rintro ⟨places, values, assigned⟩
        exact absurd assigned (none places values)

/-- A style attribute outside any document. -/
def styled : Context := ⟨"p", "style", false, .detached⟩

/-- Slots of which the first one refuses the word `RED` and the second one the letter. -/
def wordSlots : List Validator := [char, list ["solid", "red"], list ["a", "red"]]

theorem slots_search_words :
    (∀ slot ∈ wordSlots, ∀ part ∈ (["RED", "a"] : List Text),
        (slot.check styled.quieted (some part)).value ≠ .error .invalid) ∧
      (Matching.slots styled (checkSlots wordSlots) ["RED", "a"]).value = .ok ["red", "a"] ∧
      ∃ places, Matching.FirstAssigns styled (checkSlots wordSlots) ["RED", "a"] places
        ["red", "a"] := by
  have sound : ∀ slot ∈ wordSlots, ∀ part ∈ (["RED", "a"] : List Text),
      (slot.check styled.quieted (some part)).value ≠ .error .invalid := by decide +kernel
  have matched : (Matching.slots styled (checkSlots wordSlots) ["RED", "a"]).value =
      .ok ["red", "a"] := rfl
  exact ⟨sound, matched, (slots_search sound).2.1 _ matched⟩

end Validator
end SafeMarkup
