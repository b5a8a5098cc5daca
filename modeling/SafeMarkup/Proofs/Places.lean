import SafeMarkup.Pattern.Basic
import Mathlib.Data.List.Basic

/-!
Contract: where patterns without open repetitions end.

Owns: the ends of an optional part and of a counted run of characters, as lists in the order of
preference; the patterns that are made of these; and the characters between the beginning and an end
of a match.

Does not own: repetitions without a greatest number, and how the text of a pattern is read.
-/

namespace SafeMarkup

namespace Place

variable {place next stop : Place}

theorem next?_eq_none_iff : place.next? = none ↔ place.rest = [] := by
  obtain ⟨before, rest, left, same⟩ := place
  cases rest <;> simp [next?]

theorem next?_eq_some_iff {c : Char} : place.next? = some (c, next) ↔
    place.rest = c :: next.rest ∧ next.before = some c := by
  obtain ⟨before, rest, left, same⟩ := place
  obtain ⟨nextBefore, nextRest, nextLeft, nextSame⟩ := next
  subst same nextSame
  cases rest with
  | nil => simp [next?]
  | cons d rest =>
      simp only [next?, Option.some.injEq, Prod.mk.injEq, mk.injEq, List.cons.injEq,
        List.length_cons, Nat.add_sub_cancel]
      constructor
      · rintro ⟨rfl, rfl, rfl, -⟩
        exact ⟨⟨rfl, rfl⟩, rfl⟩
      · rintro ⟨⟨rfl, rfl⟩, rfl⟩
        exact ⟨rfl, rfl, rfl, rfl⟩

theorem left_of_next? {c : Char} (follows : place.next? = some (c, next)) :
    next.left + 1 = place.left := by
  rw [place.left_eq, next.left_eq, (next?_eq_some_iff.mp follows).1, List.length_cons]

/-! ## Each place once -/

theorem distinct_eq (places : List Place) : distinct places = distinctFrom 0 places := by
  unfold distinct
  split
  · rfl
  · simp [distinctFrom]
  · rfl

theorem mem_of_mem_distinctFrom {seen : Nat} {places : List Place}
    (member : place ∈ distinctFrom seen places) : place ∈ places := by
  induction places generalizing seen with
  | nil => exact member
  | cons first places inductionHypothesis =>
      rw [distinctFrom] at member
      split_ifs at member
      · exact List.mem_cons_of_mem _ (inductionHypothesis member)
      · rcases List.mem_cons.mp member with rfl | behind
        · exact List.mem_cons_self
        · exact List.mem_cons_of_mem _ (inductionHypothesis behind)

theorem mem_of_mem_distinct {places : List Place} (member : place ∈ distinct places) :
    place ∈ places := by
  rw [distinct_eq] at member
  exact mem_of_mem_distinctFrom member

theorem distinctFrom_distinctFrom {seen other : Nat}
    (fewer : ∀ left, other.testBit left → seen.testBit left) (places : List Place) :
    distinctFrom other (distinctFrom seen places) = distinctFrom seen places := by
  induction places generalizing seen other with
  | nil => rfl
  | cons first places inductionHypothesis =>
      rw [distinctFrom]
      split_ifs with known
      · exact inductionHypothesis fewer
      · rw [distinctFrom, if_neg (mt (fewer first.left) known), inductionHypothesis]
        intro left
        simp only [Nat.testBit_or, Bool.or_eq_true]
        exact Or.imp_left (fewer left)

@[simp] theorem distinct_distinct (places : List Place) :
    distinct (distinct places) = distinct places := by
  rw [distinct_eq, distinct_eq]
  exact distinctFrom_distinctFrom (fun _ known => known) places

theorem filter_distinctFrom {keeps : Nat → Bool} {seen other : Nat}
    (same : ∀ left, keeps left → seen.testBit left = other.testBit left) (places : List Place) :
    (distinctFrom seen places).filter (fun place => keeps place.left) =
      distinctFrom other (places.filter fun place => keeps place.left) := by
  induction places generalizing seen other with
  | nil => rfl
  | cons first places inductionHypothesis =>
      rw [distinctFrom, List.filter_cons]
      split_ifs with known kept kept
      · rw [distinctFrom, if_pos (by rwa [← same first.left kept])]
        exact inductionHypothesis same
      · exact inductionHypothesis same
      · rw [distinctFrom, if_neg (by rwa [← same first.left kept]), List.filter_cons, if_pos kept]
        refine congrArg _ (inductionHypothesis fun left keptLeft => ?_)
        rw [Nat.testBit_or, Nat.testBit_or, same left keptLeft]
      · rw [List.filter_cons, if_neg kept]
        refine inductionHypothesis fun left keptLeft => ?_
        have elsewhere : first.left ≠ left := by
          rintro rfl
          exact kept keptLeft
        simp [Nat.testBit_or, Nat.one_shiftLeft, elsewhere, same left keptLeft]

/-- A place is kept or left out as such, so that it does not matter when. -/
theorem filter_distinct (keeps : Nat → Bool) (places : List Place) :
    (distinct places).filter (fun place => keeps place.left) =
      distinct (places.filter fun place => keeps place.left) := by
  rw [distinct_eq, distinct_eq]
  exact filter_distinctFrom (fun _ _ => rfl) places

/-! ## From place to place -/

/-- One place is behind another one, and the characters between them have a property. -/
def Reaches (taken : Char → Prop) (place stop : Place) : Prop :=
  ∃ front, place.rest = front ++ stop.rest ∧ ∀ c ∈ front, taken c

variable {taken : Char → Prop}

theorem Reaches.refl (taken : Char → Prop) (place : Place) : Reaches taken place place :=
  ⟨[], rfl, nofun⟩

theorem Reaches.trans {middle : Place} (first : Reaches taken place middle)
    (second : Reaches taken middle stop) : Reaches taken place stop := by
  obtain ⟨front, split, frontTaken⟩ := first
  obtain ⟨behind, splitBehind, behindTaken⟩ := second
  refine ⟨front ++ behind, by rw [split, splitBehind, List.append_assoc], ?_⟩
  exact List.forall_mem_append.mpr ⟨frontTaken, behindTaken⟩

theorem Reaches.left_le (reaches : Reaches taken place stop) : stop.left ≤ place.left := by
  obtain ⟨front, split, -⟩ := reaches
  rw [place.left_eq, stop.left_eq, split, List.length_append]
  omega

end Place

namespace Pattern

variable {set : CharSet} {place : Place}

/-! ## One character -/

theorem ends_one (set : CharSet) (place : Place) : ends (.one set) place = [] ∨
    ∃ c next, place.next? = some (c, next) ∧ set.member c ∧ ends (.one set) place = [next] := by
  rw [ends]
  split
  case h_1 => exact .inl rfl
  case h_2 c next follows =>
    split_ifs with member
    · exact .inr ⟨c, next, follows, member, rfl⟩
    · exact .inl rfl

/-! ## Counted characters -/

/-- The place behind a number of characters of a set, if they follow. -/
def forward (set : CharSet) : Nat → Place → List Place
  | 0, place => [place]
  | count + 1, place => (ends (.one set) place).flatMap (forward set count)

/-- The places behind up to a number of characters of a set, the farthest first. -/
def runs (set : CharSet) : Nat → Place → List Place
  | 0, place => [place]
  | count + 1, place => (ends (.one set) place).flatMap (runs set count) ++ [place]

theorem forward_cases (set : CharSet) (count : Nat) (place : Place) :
    forward set count place = [] ∨ ∃ stop, forward set count place = [stop] := by
  induction count generalizing place with
  | zero => exact .inr ⟨place, rfl⟩
  | succ count inductionHypothesis =>
      rw [forward]
      rcases ends_one set place with none | ⟨-, next, -, -, one⟩
      · exact .inl (by rw [none]; rfl)
      · rw [one, List.flatMap_singleton]
        exact inductionHypothesis next

theorem exactly_nil (body : Place → List Place) (count : Nat) : exactly body count [] = [] := by
  cases count with
  | zero => rfl
  | succ count => rfl

theorem exactly_one (count : Nat) (place : Place) :
    exactly (ends (.one set)) count [place] = forward set count place := by
  induction count generalizing place with
  | zero => rfl
  | succ count inductionHypothesis =>
      rw [exactly, forward, List.flatMap_singleton]
      rcases ends_one set place with none | ⟨c, next, follows, -, one⟩
      · simp [none, Place.distinct, exactly_nil]
      · have further := Place.left_of_next? follows
        have moved : next.left ≠ place.left := by omega
        simp [one, Place.distinct, moved, inductionHypothesis]

theorem ends_upTo_one {count : Nat} {place : Place} {found : FoundUpTo}
    (fresh : ∀ left ≤ place.left, found.done.getD left 0 = 0) :
    (upTo (ends (.one set)) true count place found).ends =
      (runs set count place).reverse ++ found.ends := by
  induction count generalizing place found with
  | zero => rfl
  | succ count inductionHypothesis =>
      have unknown : ¬count < found.done.getD place.left 0 := by
        rw [fresh place.left (Nat.le_refl _)]
        exact Nat.not_lt_zero count
      rw [upTo, if_neg unknown, runs]
      rcases ends_one set place with none | ⟨c, next, follows, -, one⟩
      · simp [none, FoundUpTo.add]
      · have further := Place.left_of_next? follows
        have behind : (upTo (ends (.one set)) true count next found).ends =
            (runs set count next).reverse ++ found.ends :=
          inductionHypothesis fun left low => fresh left (by omega)
        simp [one, FoundUpTo.add, behind]

/-- More rounds than there are characters left end nowhere else. -/
theorem runs_min (count : Nat) (place : Place) :
    runs set (min count (place.left + 1)) place = runs set count place := by
  induction count generalizing place with
  | zero => rfl
  | succ count inductionHypothesis =>
      have least : min (count + 1) (place.left + 1) = min count place.left + 1 := by omega
      rw [least, runs, runs]
      rcases ends_one set place with none | ⟨c, next, follows, -, one⟩
      · rw [none]
        rfl
      · rw [one, ← Place.left_of_next? follows, List.flatMap_singleton, List.flatMap_singleton,
          inductionHypothesis]

/-- The ends of a counted run: behind the characters that have to be there, and then behind as many
more as there may be. -/
theorem ends_counted (least most : Nat) (set : CharSet) (place : Place) :
    ends (.repeated true least (some most) (.one set)) place =
      Place.distinct ((forward set least place).flatMap (runs set (most - least))) := by
  rw [ends, exactly_one]
  refine congrArg Place.distinct ?_
  rcases forward_cases set least place with none | ⟨stop, one⟩
  · rw [none]
    rfl
  · have further (count : Nat) : (upTo (ends (.one set)) true count stop ⟨[], ∅⟩).ends =
        (runs set count stop).reverse ++ [] :=
      ends_upTo_one (by simp)
    rw [one, List.flatMap_singleton, List.foldl_cons, List.foldl_nil]
    simp only [further, runs_min, List.append_nil, List.reverse_reverse]

/-! ## Optional parts -/

/-- The ends of an optional part, and then the place where it begins. -/
theorem ends_optional (pattern : Pattern) (place : Place) :
    ends (.optional true pattern) place = Place.distinct (ends pattern place ++ [place]) := by
  have added (places : List Place) (found : FoundUpTo) :
      (places.foldl (fun found next => upTo (ends pattern) true 0 next found) found).ends =
        places.reverse ++ found.ends := by
    induction places generalizing found with
    | nil => rfl
    | cons first places inductionHypothesis =>
        rw [List.foldl_cons, inductionHypothesis]
        simp [upTo, FoundUpTo.add]
  have once : min (1 - 0) (place.left + 1) = 1 := by omega
  have unknown : ¬0 < (∅ : Std.HashMap Nat Nat).getD place.left 0 := by simp
  rw [optional, ends, exactly]
  refine congrArg Place.distinct ?_
  simp only [List.foldl_cons, List.foldl_nil, once]
  rw [upTo, if_neg unknown]
  simp only [if_true, FoundUpTo.add, added, List.append_nil, List.reverse_cons,
    List.reverse_reverse]

/-- A pattern ends nowhere twice. -/
theorem distinct_ends (pattern : Pattern) (place : Place) :
    Place.distinct (ends pattern place) = ends pattern place := by
  induction pattern generalizing place with
  | empty => rfl
  | one set =>
      rcases ends_one set place with none | ⟨-, next, -, -, one⟩
      · rw [none]
        rfl
      · rw [one]
        rfl
  | seq => rw [ends, Place.distinct_distinct]
  | choice => rw [ends, Place.distinct_distinct]
  | repeated => exact Place.distinct_distinct _
  | group _ _ inductionHypothesis =>
      rw [ends]
      exact inductionHypothesis place
  | assert condition =>
      rw [ends]
      split_ifs <;> rfl

/-! ## Plain patterns -/

/-- A pattern of single characters from good sets, of optional parts and counted runs of them, bound
to the beginning of a text and perhaps to its end. -/
inductive Plain (good : CharSet → Prop) (ended : Prop) : Pattern → Prop
  | empty : Plain good ended .empty
  | one {set : CharSet} (fits : good set) : Plain good ended (.one set)
  | seq {first second : Pattern} (before : Plain good ended first)
      (behind : Plain good ended second) : Plain good ended (.seq first second)
  | choice {first second : Pattern} (before : Plain good ended first)
      (behind : Plain good ended second) : Plain good ended (.choice first second)
  | optional {body : Pattern} (plain : Plain good ended body) :
      Plain good ended (.optional true body)
  | counted {least most : Nat} {set : CharSet} (fits : good set) :
      Plain good ended (.repeated true least (some most) (.one set))
  | start : Plain good ended (.assert .textStart)
  | finish (allowed : ended) : Plain good ended (.assert .textEnd)

variable {good : CharSet → Prop} {ended : Prop} {taken : Char → Prop} {stop : Place}

theorem reaches_one (members : ∀ c, set.member c → taken c)
    (member : stop ∈ ends (.one set) place) : place.Reaches taken stop := by
  rcases ends_one set place with none | ⟨c, next, follows, inSet, one⟩
  · exact absurd member (by simp [none])
  · obtain rfl : stop = next := by simpa [one] using member
    refine ⟨[c], (Place.next?_eq_some_iff.mp follows).1, ?_⟩
    rintro d inside
    obtain rfl := List.mem_singleton.mp inside
    exact members d inSet

theorem reaches_forward (members : ∀ c, set.member c → taken c) {count : Nat}
    (member : stop ∈ forward set count place) : place.Reaches taken stop := by
  induction count generalizing place with
  | zero =>
      obtain rfl := List.mem_singleton.mp member
      exact .refl taken stop
  | succ count inductionHypothesis =>
      obtain ⟨next, first, behind⟩ := List.mem_flatMap.mp member
      exact (reaches_one members first).trans (inductionHypothesis behind)

theorem reaches_runs (members : ∀ c, set.member c → taken c) {count : Nat}
    (member : stop ∈ runs set count place) : place.Reaches taken stop := by
  induction count generalizing place with
  | zero =>
      obtain rfl := List.mem_singleton.mp member
      exact .refl taken stop
  | succ count inductionHypothesis =>
      rcases List.mem_append.mp member with further | here
      · obtain ⟨next, first, behind⟩ := List.mem_flatMap.mp further
        exact (reaches_one members first).trans (inductionHypothesis behind)
      · obtain rfl := List.mem_singleton.mp here
        exact .refl taken stop

/-- A plain pattern takes only members of its sets. -/
theorem Plain.reaches {pattern : Pattern} (plain : Plain good ended pattern)
    (members : ∀ set, good set → ∀ c, set.member c → taken c) (member : stop ∈ ends pattern place) :
    place.Reaches taken stop := by
  induction plain generalizing place stop with
  | empty =>
      obtain rfl := List.mem_singleton.mp member
      exact .refl taken stop
  | one fits => exact reaches_one (members _ fits) member
  | seq _ _ first second =>
      rw [ends] at member
      obtain ⟨middle, before, behind⟩ := List.mem_flatMap.mp (Place.mem_of_mem_distinct member)
      exact (first before).trans (second behind)
  | choice _ _ first second =>
      rw [ends] at member
      rcases List.mem_append.mp (Place.mem_of_mem_distinct member) with before | behind
      · exact first before
      · exact second behind
  | optional _ body =>
      rw [ends_optional] at member
      rcases List.mem_append.mp (Place.mem_of_mem_distinct member) with further | here
      · exact body further
      · obtain rfl := List.mem_singleton.mp here
        exact .refl taken stop
  | counted fits =>
      rw [ends_counted] at member
      obtain ⟨middle, before, behind⟩ := List.mem_flatMap.mp (Place.mem_of_mem_distinct member)
      exact (reaches_forward (members _ fits) before).trans (reaches_runs (members _ fits) behind)
  | start =>
      rw [ends] at member
      split_ifs at member
      · obtain rfl := List.mem_singleton.mp member
        exact .refl taken stop
      · exact absurd member List.not_mem_nil
  | finish =>
      rw [ends] at member
      split_ifs at member
      · obtain rfl := List.mem_singleton.mp member
        exact .refl taken stop
      · exact absurd member List.not_mem_nil

/-- The ends of a plain pattern, with no account of what was found before. -/
def plainEnds : Pattern → Place → List Place
  | .empty, place => [place]
  | .one set, place => ends (.one set) place
  | .seq first second, place =>
    Place.distinct ((plainEnds first place).flatMap (plainEnds second))
  | .choice first second, place => Place.distinct (plainEnds first place ++ plainEnds second place)
  | .repeated true least (some most) (.one set), place =>
    Place.distinct ((forward set least place).flatMap (runs set (most - least)))
  | .repeated true 0 (some 1) body, place => Place.distinct (plainEnds body place ++ [place])
  | .assert condition, place => if place.holds condition then [place] else []
  | _, _ => []

/-- The ends of a plain pattern can be told without the tables that bound the work for others. -/
theorem Plain.ends_eq {pattern : Pattern} (plain : Plain good ended pattern) (place : Place) :
    ends pattern place = plainEnds pattern place := by
  induction plain generalizing place with
  | empty => rfl
  | one => rfl
  | seq _ _ first second =>
      have onward := funext second
      rw [ends, plainEnds, first, onward]
  | choice _ _ first second => rw [ends, plainEnds, first, second]
  | @optional body _ inductionHypothesis =>
      have further := inductionHypothesis place
      cases body with
      | one set => exact ends_counted 0 1 set place
      | _ =>
          rw [ends_optional, further]
          rfl
  | counted => exact ends_counted ..
  | start => rfl
  | finish => rfl

/-! ## Patterns bound to the beginning -/

/-- A pattern that matches nowhere but at the beginning of a text. -/
def Begins (pattern : Pattern) : Prop :=
  ∀ place : Place, place.before.isSome → ends pattern place = []

theorem begins_start : Begins (.assert .textStart) := by
  intro place inside
  obtain ⟨c, before⟩ := Option.isSome_iff_exists.mp inside
  simp [ends, Place.holds, before]

theorem Begins.seq {first second : Pattern} (begins : Begins first) :
    Begins (.seq first second) := by
  intro place inside
  simp [ends, begins place inside, Place.distinct]

theorem matchAt?_of_begins {pattern : Pattern} (begins : Begins pattern)
    (inside : place.before.isSome) : matchAt? pattern place = none := by
  simp [matchAt?, begins place inside]

theorem findFrom?_of_begins {pattern : Pattern} (begins : Begins pattern) (left : Nat)
    (inside : place.before.isSome) : findFrom? pattern left place = none := by
  induction left generalizing place with
  | zero => exact matchAt?_of_begins begins inside
  | succ left inductionHypothesis =>
      rw [findFrom?, matchAt?_of_begins begins inside, Option.none_or]
      cases follows : place.next? with
      | none => rfl
      | some found =>
          obtain ⟨c, next⟩ := found
          have before := (Place.next?_eq_some_iff.mp follows).2
          exact inductionHypothesis (by simp [before])

theorem find?_of_begins {pattern : Pattern} (begins : Begins pattern) (text : Text) :
    find? pattern text = matchAt? pattern (Place.start text) := by
  have nowhereElse (left : Nat) (place : Place) :
      findFrom? pattern left place = matchAt? pattern place := by
    cases left with
    | zero => rfl
    | succ left =>
        rw [findFrom?]
        cases follows : place.next? with
        | none => simp
        | some found =>
            obtain ⟨c, next⟩ := found
            have before := (Place.next?_eq_some_iff.mp follows).2
            have behind : findFrom? pattern left next = none :=
              findFrom?_of_begins begins left (by simp [before])
            simp [behind]
  exact nowhereElse _ _

end Pattern
end SafeMarkup
