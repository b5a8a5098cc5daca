import SafeMarkup.Proofs.Places

/-!
Contract: which of its ends a pattern prefers, and which texts it takes.

Owns: the preferred end of rows, alternatives, optional parts and counted runs, told from the text
alone as a scanner would; the texts between a place and any end; and what is found by a pattern that
is bound to the beginning of a text, or to both its ends.

Does not own: any one grammar.
-/

namespace SafeMarkup

theorem Place.head?_distinct (places : List Place) : (distinct places).head? = places.head? := by
  rw [distinct_eq]
  cases places with
  | nil => rfl
  | cons place places => simp [distinctFrom]

theorem Place.exists_mem_distinct {place : Place} {places : List Place} (member : place ∈ places) :
    ∃ other ∈ distinct places, other.left = place.left := by
  have kept (seen : Nat) : seen.testBit place.left ∨
      ∃ other ∈ distinctFrom seen places, other.left = place.left := by
    induction places generalizing seen with
    | nil => exact absurd member List.not_mem_nil
    | cons first places inductionHypothesis =>
        rw [distinctFrom]
        rcases List.mem_cons.mp member with rfl | behind
        · split_ifs with known
          · exact .inl known
          · exact .inr ⟨place, List.mem_cons_self, rfl⟩
        · split_ifs with known
          · exact inductionHypothesis behind seen
          · rcases inductionHypothesis behind (seen ||| 1 <<< first.left) with
              known | ⟨other, inside, same⟩
            · by_cases here : first.left = place.left
              · exact .inr ⟨first, List.mem_cons_self, here⟩
              · left
                simpa [Nat.testBit_or, Nat.one_shiftLeft, Nat.testBit_two_pow, here] using known
            · exact .inr ⟨other, List.mem_cons_of_mem _ inside, same⟩
  rw [distinct_eq]
  simpa using kept 0

namespace Pattern

variable {place stop : Place} {text : Text}

/-! ## Preferred ends -/

/-- The preferred end of a match from a place. -/
def first? (pattern : Pattern) (place : Place) : Option Place := (ends pattern place).head?

/-- A row ends where its second part prefers to, from the first end of the first part that the
second can go on from. -/
theorem first?_seq (first second : Pattern) :
    first? (.seq first second) place = (ends first place).findSome? (first? second) := by
  rw [first?, ends, Place.head?_distinct, List.head?_flatMap]
  rfl

theorem first?_choice (first second : Pattern) :
    first? (.choice first second) place = (first? first place).or (first? second place) := by
  rw [first?, ends, Place.head?_distinct, List.head?_append]
  rfl

theorem first?_optional (pattern : Pattern) :
    first? (.optional true pattern) place = some ((first? pattern place).getD place) := by
  rw [first?, ends_optional, Place.head?_distinct, List.head?_append, first?]
  cases (ends pattern place).head? <;> rfl

theorem first?_firstOf (patterns : List Pattern) :
    first? (.firstOf patterns) place = patterns.findSome? fun pattern => first? pattern place := by
  induction patterns with
  | nil =>
      rcases ends_one CharSet.none place with none | ⟨c, -, -, member, -⟩
      · rw [firstOf, first?, none]
        rfl
      · exact absurd member nofun
  | cons first patterns inductionHypothesis =>
      rw [List.findSome?_cons]
      cases patterns with
      | nil =>
          rw [firstOf, List.findSome?_nil]
          cases first? first place <;> rfl
      | cons second patterns =>
          show first? (.choice first (firstOf (second :: patterns))) place = _
          rw [first?_choice, inductionHypothesis]
          cases first? first place <;> rfl

theorem first?_concat_cons (first : Pattern) (patterns : List Pattern) :
    first? (.concat (first :: patterns)) place =
      (ends first place).findSome? (first? (.concat patterns)) := by
  cases patterns with
  | nil =>
      show (ends first place).head? = (ends first place).findSome? some
      cases ends first place <;> rfl
  | cons second patterns => exact first?_seq first (.concat (second :: patterns))

/-! ## Scanners -/

/-- From every place a pattern prefers to end behind that part of the text which a scanner tells, if
it tells any. -/
structure Scans (pattern : Pattern) (front? : Text → Option Text) : Prop where
  ends : ∀ place, (first? pattern place).map Place.rest =
    (front? place.rest).map fun front => place.rest.drop front.length
  begins : ∀ text front, front? text = some front → front <+: text

theorem Scans.congr {pattern : Pattern} {front? other? : Text → Option Text}
    (scans : Scans pattern front?) (same : ∀ text, front? text = other? text) :
    Scans pattern other? := by
  obtain rfl : front? = other? := funext same
  exact scans

/-- A part that can go on from everywhere goes on from the preferred end of the part before it. -/
theorem Scans.seq {first second : Pattern} {front? : Text → Option Text} {further : Text → Text}
    (scans : Scans first front?) (onward : Scans second fun text => some (further text)) :
    Scans (.seq first second) fun text =>
      (front? text).map fun front => front ++ further (text.drop front.length) := by
  constructor
  · intro place
    have total (middle : Place) : ∃ stop, first? second middle = some stop ∧
        stop.rest = middle.rest.drop (further middle.rest).length := by
      simpa [Option.map_eq_some_iff] using onward.ends middle
    have firstEnd := scans.ends place
    rw [first?_seq]
    rw [first?] at firstEnd
    cases reached : Pattern.ends first place with
    | nil =>
        rw [reached] at firstEnd
        cases told : front? place.rest with
        | none => rfl
        | some front => simp [told] at firstEnd
    | cons middle others =>
        obtain ⟨stop, ended, behind⟩ := total middle
        rw [reached] at firstEnd
        cases told : front? place.rest with
        | none => simp [told] at firstEnd
        | some front =>
            have here : middle.rest = place.rest.drop front.length := by simpa [told] using firstEnd
            simp [ended, behind, here, List.drop_drop]
  · intro text whole told
    obtain ⟨front, toldFront, rfl⟩ := Option.map_eq_some_iff.mp told
    obtain ⟨rest, rfl⟩ := scans.begins text front toldFront
    obtain ⟨behind, same⟩ := onward.begins rest (further rest) rfl
    refine ⟨behind, ?_⟩
    rw [List.drop_left, List.append_assoc, same]

theorem Scans.optional {pattern : Pattern} {front? : Text → Option Text}
    (scans : Scans pattern front?) :
    Scans (.optional true pattern) fun text => some ((front? text).getD []) := by
  constructor
  · intro place
    have reached := scans.ends place
    rw [first?_optional]
    cases ended : first? pattern place with
    | none =>
        rw [ended] at reached
        cases told : front? place.rest with
        | none => rfl
        | some front => simp [told] at reached
    | some stop =>
        rw [ended] at reached
        cases told : front? place.rest with
        | none => simp [told] at reached
        | some front => simpa [told] using reached
  · intro text front told
    obtain rfl := Option.some.inj told
    cases toldFront : front? text with
    | none => exact List.nil_prefix
    | some front => exact scans.begins text front toldFront

/-- The first character of a text, if it belongs to a set. -/
def leading? (set : CharSet) : Text → Option Text
  | [] => none
  | c :: _ => if set.member c then some [c] else none

theorem ends_one_of_nil {set : CharSet} (rest : place.rest = []) : ends (.one set) place = [] := by
  rw [ends, Place.next?_eq_none_iff.mpr rest]

theorem ends_one_of_cons {set : CharSet} {c : Char} (rest : place.rest = c :: text) :
    ends (.one set) place =
      if set.member c then [{ before := some c, rest := text }] else [] := by
  have follows : place.next? = some (c, { before := some c, rest := text }) :=
    Place.next?_eq_some_iff.mpr ⟨rest, rfl⟩
  rw [ends, follows]

theorem scans_one (set : CharSet) : Scans (.one set) (leading? set) := by
  constructor
  · intro place
    rw [first?]
    cases rest : place.rest with
    | nil =>
        rw [ends_one_of_nil rest]
        rfl
    | cons c behind =>
        rw [ends_one_of_cons rest, leading?]
        split_ifs <;> rfl
  · intro text front told
    cases text with
    | nil => cases told
    | cons c rest =>
        rw [leading?] at told
        split_ifs at told
        obtain rfl := Option.some.inj told
        exact ⟨rest, rfl⟩

/-- The longest run of members at the beginning of a text, up to a number of them. -/
def longest (set : CharSet) (most : Nat) (text : Text) : Text :=
  (text.takeWhile set.member).take most

theorem head?_runs (set : CharSet) (count : Nat) (place : Place) :
    ((runs set count place).head?).map Place.rest =
      some (place.rest.drop (longest set count place.rest).length) := by
  induction count generalizing place with
  | zero => simp [runs, longest]
  | succ count inductionHypothesis =>
      rw [runs, List.head?_append]
      cases rest : place.rest with
      | nil => simp [ends_one_of_nil rest, longest, rest]
      | cons c behind =>
          rw [ends_one_of_cons rest]
          split_ifs with member
          · obtain ⟨stop, ended, further⟩ :=
              Option.map_eq_some_iff.mp (inductionHypothesis { before := some c, rest := behind })
            rw [List.flatMap_singleton, ended]
            simp [longest, member, further]
          · simp [longest, member, rest]

theorem scans_counted (set : CharSet) (most : Nat) :
    Scans (.repeated true 1 (some (most + 1)) (.one set)) fun text =>
      (leading? set text).map fun _ => longest set (most + 1) text := by
  constructor
  · intro place
    rw [first?, ends_counted, Place.head?_distinct, forward, List.head?_flatMap]
    cases rest : place.rest with
    | nil =>
        rw [ends_one_of_nil rest]
        rfl
    | cons c behind =>
        rw [ends_one_of_cons rest, leading?]
        split_ifs with member
        · obtain ⟨stop, ended, further⟩ :=
            Option.map_eq_some_iff.mp (head?_runs set most { before := some c, rest := behind })
          simp [forward, ended, longest, member, further]
        · rfl
  · intro text front told
    obtain ⟨-, -, rfl⟩ := Option.map_eq_some_iff.mp told
    exact (List.take_prefix _ _).trans (List.takeWhile_prefix _)

/-! ## Taken texts -/

/-- Between a place and an end of a pattern stands a text of some form. -/
def Takes (pattern : Pattern) (form : Text → Prop) : Prop :=
  ∀ place, ∀ stop ∈ ends pattern place, ∃ front, place.rest = front ++ stop.rest ∧ form front

theorem Takes.mono {pattern : Pattern} {form wider : Text → Prop} (takes : Takes pattern form)
    (within : ∀ front, form front → wider front) : Takes pattern wider := by
  intro place stop member
  obtain ⟨front, split, formed⟩ := takes place stop member
  exact ⟨front, split, within front formed⟩

theorem takes_empty : Takes .empty (· = []) := by
  intro place stop member
  obtain rfl := List.mem_singleton.mp member
  exact ⟨[], rfl, rfl⟩

theorem takes_one (set : CharSet) :
    Takes (.one set) fun front => ∃ c, front = [c] ∧ set.member c := by
  intro place stop member
  rcases ends_one set place with none | ⟨c, next, follows, inSet, one⟩
  · exact absurd member (by simp [none])
  · obtain rfl : stop = next := by simpa [one] using member
    exact ⟨[c], (Place.next?_eq_some_iff.mp follows).1, c, rfl, inSet⟩

theorem Takes.seq {first second : Pattern} {form further : Text → Prop} (before : Takes first form)
    (behind : Takes second further) : Takes (.seq first second) fun front =>
      ∃ one other, front = one ++ other ∧ form one ∧ further other := by
  intro place stop member
  rw [ends] at member
  obtain ⟨middle, reached, ended⟩ := List.mem_flatMap.mp (Place.mem_of_mem_distinct member)
  obtain ⟨one, split, formed⟩ := before place middle reached
  obtain ⟨other, splitBehind, formedBehind⟩ := behind middle stop ended
  exact ⟨one ++ other, by rw [split, splitBehind, List.append_assoc], one, other, rfl, formed,
    formedBehind⟩

theorem Takes.concat_cons {first : Pattern} {patterns : List Pattern} {form further : Text → Prop}
    (before : Takes first form) (behind : Takes (.concat patterns) further) :
    Takes (.concat (first :: patterns)) fun front =>
      ∃ one other, front = one ++ other ∧ form one ∧ further other := by
  cases patterns with
  | nil =>
      obtain ⟨nothing, split, closed⟩ := behind (Place.start []) _ List.mem_cons_self
      obtain rfl : nothing = [] := (List.append_eq_nil_iff.mp split.symm).1
      refine before.mono ?_
      intro front formed
      exact ⟨front, [], (List.append_nil front).symm, formed, closed⟩
  | cons second patterns => exact before.seq behind

theorem Takes.choice {first second : Pattern} {form : Text → Prop} (one : Takes first form)
    (other : Takes second form) : Takes (.choice first second) form := by
  intro place stop member
  rw [ends] at member
  rcases List.mem_append.mp (Place.mem_of_mem_distinct member) with before | behind
  · exact one place stop before
  · exact other place stop behind

theorem Takes.optional {pattern : Pattern} {form : Text → Prop} (takes : Takes pattern form) :
    Takes (.optional true pattern) fun front => front = [] ∨ form front := by
  intro place stop member
  rw [ends_optional] at member
  rcases List.mem_append.mp (Place.mem_of_mem_distinct member) with further | here
  · obtain ⟨front, split, formed⟩ := takes place stop further
    exact ⟨front, split, .inr formed⟩
  · obtain rfl := List.mem_singleton.mp here
    exact ⟨[], rfl, .inl rfl⟩

theorem takes_firstOf {patterns : List Pattern} {form : Text → Prop}
    (takes : ∀ pattern ∈ patterns, Takes pattern form) : Takes (.firstOf patterns) form := by
  induction patterns with
  | nil =>
      refine (takes_one _).mono ?_
      rintro front ⟨c, -, member⟩
      exact absurd member nofun
  | cons first patterns inductionHypothesis =>
      obtain ⟨here, behind⟩ := List.forall_mem_cons.mp takes
      cases patterns with
      | nil => exact here
      | cons second patterns => exact here.choice (inductionHypothesis behind)

theorem exists_front_of_mem_forward {set : CharSet} {count : Nat}
    (member : stop ∈ forward set count place) : ∃ front, place.rest = front ++ stop.rest ∧
      front.length = count ∧ ∀ c ∈ front, set.member c := by
  induction count generalizing place with
  | zero =>
      obtain rfl := List.mem_singleton.mp member
      exact ⟨[], rfl, rfl, nofun⟩
  | succ count inductionHypothesis =>
      obtain ⟨next, first, further⟩ := List.mem_flatMap.mp member
      obtain ⟨-, split, c, rfl, inSet⟩ := takes_one set place next first
      obtain ⟨front, splitBehind, length, members⟩ := inductionHypothesis further
      refine ⟨c :: front, by rw [split, splitBehind]; rfl, by simp [length], ?_⟩
      exact List.forall_mem_cons.mpr ⟨inSet, members⟩

theorem exists_front_of_mem_runs {set : CharSet} {count : Nat}
    (member : stop ∈ runs set count place) : ∃ front, place.rest = front ++ stop.rest ∧
      front.length ≤ count ∧ ∀ c ∈ front, set.member c := by
  induction count generalizing place with
  | zero =>
      obtain rfl := List.mem_singleton.mp member
      exact ⟨[], rfl, Nat.le_refl 0, nofun⟩
  | succ count inductionHypothesis =>
      rcases List.mem_append.mp member with further | here
      · obtain ⟨next, first, further⟩ := List.mem_flatMap.mp further
        obtain ⟨-, split, c, rfl, inSet⟩ := takes_one set place next first
        obtain ⟨front, splitBehind, length, members⟩ := inductionHypothesis further
        refine ⟨c :: front, by rw [split, splitBehind]; rfl, by simpa using length, ?_⟩
        exact List.forall_mem_cons.mpr ⟨inSet, members⟩
      · obtain rfl := List.mem_singleton.mp here
        exact ⟨[], rfl, Nat.zero_le _, nofun⟩

theorem takes_counted {least most : Nat} (ordered : least ≤ most) (set : CharSet) :
    Takes (.repeated true least (some most) (.one set)) fun front =>
      least ≤ front.length ∧ front.length ≤ most ∧ ∀ c ∈ front, set.member c := by
  intro place stop member
  rw [ends_counted] at member
  obtain ⟨middle, before, behind⟩ := List.mem_flatMap.mp (Place.mem_of_mem_distinct member)
  obtain ⟨front, split, length, members⟩ := exists_front_of_mem_forward before
  obtain ⟨further, splitBehind, bound, membersBehind⟩ := exists_front_of_mem_runs behind
  refine ⟨front ++ further, by rw [split, splitBehind, List.append_assoc], ?_, ?_,
    List.forall_mem_append.mpr ⟨members, membersBehind⟩⟩
  · simp only [List.length_append]
    omega
  · simp only [List.length_append]
    omega

/-! ## Matches -/

theorem ends_begun (pattern : Pattern) (text : Text) :
    ends (.seq (.assert .textStart) pattern) (Place.start text) =
      Place.distinct (ends pattern (Place.start text)) := by
  show Place.distinct ([Place.start text].flatMap (ends pattern)) = _
  rw [List.flatMap_singleton]

/-- Bound to the beginning of a text, a pattern finds what its scanner tells. -/
theorem Scans.find?_eq {pattern : Pattern} {front? : Text → Option Text}
    (scans : Scans pattern front?) (text : Text) :
    Pattern.find? (.seq (.assert .textStart) pattern) text = front? text := by
  have reached := scans.ends (Place.start text)
  have begun : (Pattern.ends (.seq (.assert .textStart) pattern) (Place.start text)).head? =
      first? pattern (Place.start text) := by
    rw [ends_begun, Place.head?_distinct, first?]
  rw [find?_of_begins begins_start.seq, matchAt?, begun]
  cases told : front? text with
  | none =>
      have nowhere : first? pattern (Place.start text) = none := by
        simpa [Place.start, told] using reached
      rw [nowhere]
      rfl
  | some front =>
      obtain ⟨rest, rfl⟩ := scans.begins text front told
      obtain ⟨stop, ended, behind⟩ : ∃ stop,
          first? pattern (Place.start (front ++ rest)) = some stop ∧ stop.rest = rest := by
        simpa [Place.start, told, Option.map_eq_some_iff] using reached
      rw [ended, Option.map_some, stop.left_eq, behind]
      simp [Place.start]

theorem of_mem_ends_finished {pattern : Pattern}
    (member : stop ∈ ends (.seq pattern (.assert .textEnd)) place) :
    stop ∈ ends pattern place ∧ stop.rest = [] := by
  rw [ends] at member
  obtain ⟨last, reached, finished⟩ := List.mem_flatMap.mp (Place.mem_of_mem_distinct member)
  rw [ends] at finished
  split_ifs at finished with none
  · obtain rfl := List.mem_singleton.mp finished
    exact ⟨reached, List.isEmpty_iff.mp none⟩
  · exact absurd finished List.not_mem_nil

theorem exists_mem_ends_finished {pattern : Pattern} (member : stop ∈ ends pattern place)
    (rest : stop.rest = []) : ∃ other, other ∈ ends (.seq pattern (.assert .textEnd)) place := by
  have finished : stop ∈ ends (.assert .textEnd) stop := by simp [ends, Place.holds, rest]
  obtain ⟨other, inside, -⟩ :=
    Place.exists_mem_distinct (List.mem_flatMap.mpr ⟨stop, member, finished⟩)
  exact ⟨other, inside⟩

theorem take_to_end {text : Text} {stop : Place} (finished : stop.rest = []) :
    (Place.start text).rest.take ((Place.start text).left - stop.left) = text := by
  simp [stop.left_eq, finished, Place.start]

/-- Bound to both ends of a text, a pattern finds the whole text or nothing. -/
theorem find?_whole {pattern : Pattern} {text found : Text} :
    find? (.seq (.seq (.assert .textStart) pattern) (.assert .textEnd)) text = some found ↔
      found = text ∧ ∃ stop ∈ ends pattern (Place.start text), stop.rest = [] := by
  rw [find?_of_begins begins_start.seq.seq, matchAt?, Option.map_eq_some_iff]
  constructor
  · rintro ⟨stop, ended, rfl⟩
    obtain ⟨reached, rest⟩ := of_mem_ends_finished (List.mem_of_head? ended)
    rw [ends_begun] at reached
    exact ⟨take_to_end rest, stop, Place.mem_of_mem_distinct reached, rest⟩
  · rintro ⟨rfl, stop, within, rest⟩
    obtain ⟨twin, reached, sameLeft⟩ := Place.exists_mem_distinct within
    rw [← ends_begun] at reached
    have twinRest : twin.rest = [] := by
      rw [← List.length_eq_zero_iff, ← twin.left_eq, sameLeft, stop.left_eq, rest]
      rfl
    obtain ⟨other, member⟩ := exists_mem_ends_finished reached twinRest
    obtain ⟨last, ended⟩ := Option.ne_none_iff_exists'.mp fun none =>
      List.ne_nil_of_mem member (List.head?_eq_none_iff.mp none)
    exact ⟨last, ended, take_to_end (of_mem_ends_finished (List.mem_of_head? ended)).2⟩

end Pattern
end SafeMarkup
