import SafeMarkup.Proofs.Numerals
import SafeMarkup.Proofs.Shapes

/-!
Contract: the built-in grammars where numbers may have no sign.

Owns: what is left of a pattern without the matches that have a sign in them, the grammar of
unsigned colors, and that numbers, lengths and sizes are unsigned where they have to be, as colors
are only where this grammar matches.

Does not own: which numbers a grammar matches.
-/

namespace SafeMarkup

/-! ## Unsigned texts -/

/-- Whether a text has no sign of a number in it. -/
def isUnsigned (text : Text) : Bool := text.all fun c => c != '+' && c != '-'

theorem isUnsigned_iff {text : Text} : isUnsigned text ↔ ∀ c ∈ text, c ∉ ("+-" : Text) := by
  simp [isUnsigned]

@[simp] theorem isUnsigned_append (front rest : Text) :
    isUnsigned (front ++ rest) = (isUnsigned front && isUnsigned rest) :=
  List.all_append

/-- The text between a place and the one where a number of characters is left. -/
def Place.upTo (place : Place) (left : Nat) : Text := place.rest.take (place.left - left)

theorem Place.upTo_eq {place stop : Place} {front : Text}
    (split : place.rest = front ++ stop.rest) : place.upTo stop.left = front := by
  rw [upTo, place.left_eq, stop.left_eq, split, List.length_append, Nat.add_sub_cancel,
    List.take_left]

/-- Whether a set holds none of some marks. -/
def CharSet.avoids (marks : Text) (set : CharSet) : Bool := marks.all fun mark => !set.member mark

theorem CharSet.notMem_of_avoids {marks : Text} {set : CharSet} (avoids : set.avoids marks)
    {c : Char} (member : set.member c) : c ∉ marks := by
  intro listed
  have outside := List.all_eq_true.mp avoids c listed
  simp [member] at outside

theorem CharSet.avoids_of_subset {marks fewer : Text} {set : CharSet} (avoids : set.avoids marks)
    (listed : fewer ⊆ marks) : set.avoids fewer :=
  List.all_eq_true.mpr fun mark member => List.all_eq_true.mp avoids mark (listed member)

namespace Pattern

variable {pattern other : Pattern} {place stop : Place} {ended : Prop} {marks : Text}

theorem Plain.takes (plain : Plain (fun set => set.avoids marks) ended pattern) :
    Takes pattern fun front => ∀ c ∈ front, c ∉ marks := fun _ _ member =>
  plain.reaches (fun _ avoids _ inSet => CharSet.notMem_of_avoids avoids inSet) member

/-! ## Patterns without signs -/

/-- A pattern, and another one for its matches that have no sign in them. -/
inductive Unsigns : Pattern → Pattern → Prop
  | same {pattern : Pattern} (plain : Plain (fun set => set.avoids "+-") True pattern) :
      Unsigns pattern pattern
  | sign {pattern other : Pattern} (rest : Unsigns pattern other) :
      Unsigns (.seq Grammar.sign pattern) other
  | seq {first second other further : Pattern} (before : Unsigns first other)
      (behind : Unsigns second further) : Unsigns (.seq first second) (.seq other further)
  | choice {first second other further : Pattern} (before : Unsigns first other)
      (behind : Unsigns second further) : Unsigns (.choice first second) (.choice other further)

theorem takes_sign : Takes Grammar.sign fun _ => True :=
  (takes_one _).optional.mono fun _ _ => True.intro

theorem Unsigns.takes (unsigns : Unsigns pattern other) : Takes pattern fun _ => True := by
  induction unsigns with
  | same plain => exact plain.takes.mono fun _ _ => True.intro
  | sign _ rest => exact (takes_sign.seq rest).mono fun _ _ => True.intro
  | seq _ _ first second => exact (first.seq second).mono fun _ _ => True.intro
  | choice _ _ first second => exact first.choice second

/-- The ends of a pattern without those that have a sign before them. -/
def unsignedEnds (pattern : Pattern) (place : Place) : List Place :=
  (ends pattern place).filter fun stop => isUnsigned (place.upTo stop.left)

theorem unsignedEnds_sign (place : Place) : unsignedEnds Grammar.sign place = [place] := by
  have here : isUnsigned (place.upTo place.left) := by
    rw [Place.upTo_eq (List.nil_append place.rest).symm]
    rfl
  have signed : unsignedEnds (.one (.union (.single '+') (.single '-'))) place = [] := by
    rw [unsignedEnds, List.filter_eq_nil_iff]
    intro stop member
    obtain ⟨-, split, c, rfl, inSet⟩ := takes_one _ place stop member
    rw [Place.upTo_eq split]
    rcases (Grammar.member_signs c).mp inSet with rfl | rfl <;> decide
  rw [unsignedEnds] at signed
  rw [unsignedEnds, Grammar.sign, ends_optional,
    Place.filter_distinct fun left => isUnsigned (place.upTo left), List.filter_append, signed,
    List.filter_cons, if_pos here]
  rfl

theorem flatMap_of_kept {kept : Place → Bool} {step : Place → List Place} (places : List Place) :
    places.flatMap (fun place => if kept place then step place else []) =
      (places.filter kept).flatMap step := by
  induction places with
  | nil => rfl
  | cons first places inductionHypothesis =>
      rw [List.flatMap_cons, inductionHypothesis, List.filter_cons]
      split_ifs <;> rfl

/-- A row is unsigned where its parts are, so that the ends of its first part can be left out before
it goes on from them. -/
theorem unsignedEnds_seq {first second : Pattern} (takes : Takes first fun _ => True)
    (further : Takes second fun _ => True) (place : Place) :
    unsignedEnds (.seq first second) place =
      Place.distinct ((unsignedEnds first place).flatMap (unsignedEnds second)) := by
  have parts (middle : Place) (reached : middle ∈ ends first place) :
      (ends second middle).filter (fun stop => isUnsigned (place.upTo stop.left)) =
        if isUnsigned (place.upTo middle.left) then unsignedEnds second middle else [] := by
    obtain ⟨front, split, -⟩ := takes place middle reached
    have both : ∀ stop ∈ ends second middle, isUnsigned (place.upTo stop.left) =
        (isUnsigned (place.upTo middle.left) && isUnsigned (middle.upTo stop.left)) := by
      intro stop member
      obtain ⟨behind, splitBehind, -⟩ := further middle stop member
      have whole : place.rest = (front ++ behind) ++ stop.rest := by
        rw [split, splitBehind, List.append_assoc]
      rw [Place.upTo_eq split, Place.upTo_eq splitBehind, Place.upTo_eq whole, isUnsigned_append]
    rw [List.filter_congr both]
    split_ifs with unsigned
    · simp only [unsigned, Bool.true_and]
      rfl
    · simp [unsigned]
  rw [unsignedEnds, ends, Place.filter_distinct fun left => isUnsigned (place.upTo left),
    List.filter_flatMap, List.flatMap_congr parts, flatMap_of_kept]
  rfl

theorem unsignedEnds_choice (first second : Pattern) (place : Place) :
    unsignedEnds (.choice first second) place =
      Place.distinct (unsignedEnds first place ++ unsignedEnds second place) := by
  rw [unsignedEnds, ends, Place.filter_distinct fun left => isUnsigned (place.upTo left),
    List.filter_append]
  rfl

/-- The other pattern ends where the pattern does without a sign, and prefers the same. -/
theorem Unsigns.ends_eq (unsigns : Unsigns pattern other) (place : Place) :
    ends other place = unsignedEnds pattern place := by
  induction unsigns generalizing place with
  | same plain =>
      symm
      rw [unsignedEnds, List.filter_eq_self]
      intro stop member
      obtain ⟨front, split, unsigned⟩ := plain.takes place stop member
      rw [Place.upTo_eq split]
      exact isUnsigned_iff.mpr unsigned
  | sign rest inductionHypothesis =>
      rw [unsignedEnds_seq takes_sign rest.takes, unsignedEnds_sign, List.flatMap_singleton,
        ← inductionHypothesis, distinct_ends]
  | seq before behind first second =>
      rw [ends, first, funext second, unsignedEnds_seq before.takes behind.takes]
  | choice _ _ first second => rw [ends, first, second, unsignedEnds_choice]

/-- Where a sign leaves only one choice, the other pattern finds what the pattern does, unless there
is a sign in it. -/
theorem Unsigns.matchAt?_eq (unsigns : Unsigns pattern other)
    (settled : ∀ first ∈ ends pattern place, isUnsigned (place.upTo first.left) = false →
      ∀ last ∈ ends pattern place, place.upTo last.left = place.upTo first.left) :
    matchAt? other place = (matchAt? pattern place).filter isUnsigned := by
  rw [matchAt?, matchAt?, unsigns.ends_eq, unsignedEnds]
  cases reached : ends pattern place with
  | nil => rfl
  | cons first others =>
      rw [reached] at settled
      cases unsigned : isUnsigned (place.upTo first.left) with
      | true =>
          rw [List.filter_cons, if_pos unsigned]
          exact (if_pos unsigned).symm
      | false =>
          have none : (first :: others).filter (fun stop => isUnsigned (place.upTo stop.left)) =
              [] := by
            rw [List.filter_eq_nil_iff]
            intro last member
            rw [settled first List.mem_cons_self unsigned last member, unsigned]
            exact Bool.false_ne_true
          rw [none]
          exact (if_neg (ne_true_of_eq_false unsigned)).symm

end Pattern

namespace Grammar

open Pattern

/-! ## Alphabets -/

theorem alphabet_avoids {avoided marks : Text} (few : avoided ⊆ ("+-)#" : Text))
    (apart : ∀ mark ∈ marks, mark ∉ avoided) (foldCase : Bool) :
    Alphabet (fun set => set.avoids avoided) foldCase marks := by
  have lettersAvoid : (letters.all fun c => (CharSet.single c).avoids "+-)#" &&
      (eitherCase c).avoids "+-)#") = true := by
    decide
  constructor
  case digit => exact CharSet.avoids_of_subset (by decide) few
  case mark =>
    intro mark listed
    refine List.all_eq_true.mpr fun c within => ?_
    have other : mark ≠ c := by
      rintro rfl
      exact apart mark listed within
    simp [member_single, other]
  case letter =>
    intro c listed
    have avoids := List.all_eq_true.mp lettersAvoid c listed
    rw [Bool.and_eq_true] at avoids
    cases foldCase with
    | true =>
        rw [if_pos rfl, folded_letter listed]
        exact CharSet.avoids_of_subset avoids.2 few
    | false => exact CharSet.avoids_of_subset avoids.1 few
  case hexDigit =>
    rw [folded_hexDigits, ite_self]
    exact CharSet.avoids_of_subset (by decide) few

theorem alphabet_unsigned (foldCase : Bool) :
    Alphabet (fun set => set.avoids "+-") foldCase "%.(,)#" :=
  alphabet_avoids (by decide) (by simp) foldCase

/-- The alphabet of color functions up to the closing parenthesis. -/
theorem alphabet_open (foldCase : Bool) :
    Alphabet (fun set => set.avoids ")#") foldCase "%.(," :=
  alphabet_avoids (by decide) (by simp) foldCase

/-! ## Unsigned colors -/

def unsignedChannel : Pattern := .concat [digits, percent]

def unsignedAlpha : Pattern :=
  .choice (.concat [.optional true digits, .one (.single '.'), digits]) unsignedChannel

/-- A color whose channels have no sign. -/
def unsignedColor (foldCase : Bool) : Pattern :=
  .firstOf
    [call foldCase ["rgb", "hsl"] [unsignedChannel, unsignedChannel, unsignedChannel],
      call foldCase ["rgba", "hsla"]
        [unsignedChannel, unsignedChannel, unsignedChannel, unsignedAlpha],
      hexadecimal foldCase 6, hexadecimal foldCase 3]

variable {foldCase : Bool}

theorem unsigns_channel : Unsigns channel unsignedChannel :=
  .sign (.same (.seq (alphabet_unsigned true).plain_digits
    ((alphabet_unsigned true).plain_percent (by decide))))

theorem unsigns_alpha : Unsigns alpha unsignedAlpha :=
  .choice (.same ((alphabet_unsigned true).plain_fraction (by decide))) unsigns_channel

theorem unsigns_call {names : List Text} (nonempty : names ≠ [])
    (named : ∀ name ∈ names, name ⊆ letters) {arguments others : List Pattern}
    (separated : Unsigns (.concat (arguments.intersperse (.one (.single ','))))
      (.concat (others.intersperse (.one (.single ','))))) :
    Unsigns (call foldCase names arguments) (call foldCase names others) :=
  .seq (.same ((alphabet_unsigned foldCase).plain_words nonempty named))
    (.seq (.same ((alphabet_unsigned foldCase).plain_mark (by decide)))
      (.seq separated (.same ((alphabet_unsigned foldCase).plain_mark (by decide)))))

theorem unsigns_color : Unsigns (color foldCase) (unsignedColor foldCase) := by
  have comma : Unsigns (.one (.single ',')) (.one (.single ',')) :=
    .same ((alphabet_unsigned foldCase).plain_mark (by decide))
  have hexadecimals count : Unsigns (hexadecimal foldCase count) (hexadecimal foldCase count) :=
    .same ((alphabet_unsigned foldCase).plain_hexadecimal (by decide) count)
  have channels {last other : Pattern} (behind : Unsigns last other) :
      Unsigns (.seq channel (.seq (.one (.single ',')) last))
        (.seq unsignedChannel (.seq (.one (.single ',')) other)) :=
    .seq unsigns_channel (.seq comma behind)
  refine .choice (unsigns_call (by decide) (by decide) ?_)
    (.choice (unsigns_call (by decide) (by decide) ?_)
      (.choice (hexadecimals 6) (hexadecimals 3)))
  · exact channels (channels unsigns_channel)
  · exact channels (channels (channels unsigns_alpha))

/-! ## Forms of colors -/

/-- A text up to and with its only closing parenthesis, as color functions are. -/
def IsCall (text : Text) : Prop :=
  ∃ inside, text = inside ++ [')'] ∧ ∀ c ∈ inside, c ∉ (")#" : Text)

theorem takes_call {names : List Text} (nonempty : names ≠ [])
    (named : ∀ name ∈ names, name ⊆ letters) {arguments : List Pattern}
    (plain : ∀ argument ∈ arguments, Plain (fun set => set.avoids ")#") True argument) :
    Takes (call foldCase names arguments) IsCall := by
  have words : Plain _ True _ := (alphabet_open foldCase).plain_words nonempty named
  have opening : Plain _ True (.one (.single '(')) :=
    (alphabet_open foldCase).plain_mark (by decide)
  have separated : Plain _ True _ := (alphabet_open foldCase).plain_arguments (by decide) plain
  refine (words.takes.seq (opening.takes.seq (separated.takes.seq (takes_one _)))).mono ?_
  rintro - ⟨name, -, rfl, inName, mark, -, rfl, isMark, inner, -, rfl, inInner, c, rfl, closing⟩
  rw [member_single, beq_iff_eq] at closing
  subst closing
  refine ⟨name ++ mark ++ inner, by simp, ?_⟩
  exact List.forall_mem_append.mpr ⟨List.forall_mem_append.mpr ⟨inName, isMark⟩, inInner⟩

theorem takes_hexadecimal (count : Nat) : Takes (hexadecimal foldCase count) fun front =>
    front.head? = some '#' ∧ isUnsigned front := by
  have digits : Plain (fun set => set.avoids "+-") True
      (.repeated true count (some count) (oneOf foldCase hexDigits)) :=
    .counted (alphabet_unsigned foldCase).hexDigit
  refine ((takes_one _).seq digits.takes).mono ?_
  rintro - ⟨-, others, rfl, ⟨c, rfl, mark⟩, unsigned⟩
  rw [member_single, beq_iff_eq] at mark
  subst mark
  refine ⟨rfl, isUnsigned_iff.mpr ?_⟩
  exact List.forall_mem_cons.mpr ⟨by decide, unsigned⟩

/-- A color is a call, or hexadecimal and unsigned. -/
theorem takes_color : Takes (color foldCase) fun front =>
    IsCall front ∨ front.head? = some '#' ∧ isUnsigned front := by
  have signs : Plain (fun set => set.avoids ")#") True sign := .optional (.one (by decide))
  have channels : Plain _ True channel := (alphabet_open foldCase).plain_channel signs (by decide)
  have alphas : Plain _ True alpha :=
    .choice ((alphabet_open foldCase).plain_fraction (by decide)) channels
  have calls {names : List Text} (nonempty : names ≠ []) (named : ∀ name ∈ names, name ⊆ letters)
      {arguments : List Pattern} (listed : arguments ⊆ [channel, alpha]) :
      Takes (call foldCase names arguments) fun front =>
        IsCall front ∨ front.head? = some '#' ∧ isUnsigned front := by
    refine (takes_call nonempty named ?_).mono fun _ => Or.inl
    intro argument member
    have either := listed member
    simp only [List.mem_cons, List.not_mem_nil, or_false] at either
    rcases either with rfl | rfl
    · exact channels
    · exact alphas
  have hexadecimals count : Takes (hexadecimal foldCase count) fun front =>
      IsCall front ∨ front.head? = some '#' ∧ isUnsigned front :=
    (takes_hexadecimal count).mono fun _ => Or.inr
  exact (calls (by decide) (by decide) (by simp)).choice
    ((calls (by decide) (by decide) (by simp)).choice ((hexadecimals 6).choice (hexadecimals 3)))

/-- A text begins with one call at most, and then not with a number sign. -/
theorem IsCall.eq_of_append_eq {call other rest behind : Text} (isCall : IsCall call)
    (form : IsCall other ∨ other.head? = some '#') (same : call ++ rest = other ++ behind) :
    other = call := by
  obtain ⟨inside, rfl, within⟩ := isCall
  have upToClosing {inside : Text} (within : ∀ c ∈ inside, c ∉ (")#" : Text)) (rest : Text) :
      (inside ++ [')'] ++ rest).takeWhile (· ≠ ')') = inside := by
    have unclosed : ∀ c ∈ inside, decide (c ≠ ')') = true := fun c member => by
      simpa using fun closing : c = ')' => within c member (by simp [closing])
    rw [List.append_assoc, List.takeWhile_append_of_pos unclosed]
    exact List.append_nil inside
  rcases form with ⟨otherInside, rfl, otherWithin⟩ | marked
  · have equal := congrArg (List.takeWhile (· ≠ ')')) same
    rw [upToClosing within, upToClosing otherWithin] at equal
    rw [equal]
  · have first : (inside ++ [')'] ++ rest).head? = some '#' := by
      rw [same, List.head?_append, marked]
      rfl
    cases inside with
    | nil =>
        obtain closing : ')' = '#' := Option.some.inj first
        exact absurd closing (by decide)
    | cons c inside =>
        obtain rfl := Option.some.inj first
        exact absurd (within '#' List.mem_cons_self) (by decide)

/-- A sign in a color leaves only one choice, since it is in a call. -/
theorem eq_of_signed {place first last : Place} (reached : first ∈ ends (color foldCase) place)
    (signed : isUnsigned (place.upTo first.left) = false)
    (ended : last ∈ ends (color foldCase) place) :
    place.upTo last.left = place.upTo first.left := by
  obtain ⟨front, split, form⟩ := takes_color place first reached
  obtain ⟨other, splitOther, otherForm⟩ := takes_color place last ended
  rw [Place.upTo_eq split] at signed ⊢
  rw [Place.upTo_eq splitOther]
  rcases form with isCall | ⟨-, unsigned⟩
  · exact isCall.eq_of_append_eq (otherForm.imp_right And.left) (split.symm.trans splitOther)
  · exact absurd unsigned (ne_true_of_eq_false signed)

/-! ## Grammars -/

/-- The grammar of a shape where numbers have no sign: for colors, one whose channels have none. -/
def unsignedShape (shape : Shape) (settings : GrammarSettings) : Grammar :=
  match shape with
  | .color => bound (unsignedColor (!settings.caseSensitive)) settings
  | shape => ofShape shape settings

variable {shape : Shape} {settings : GrammarSettings} {pattern other : Pattern}

theorem mem_ends_of_bound {text : Text} {stop : Place}
    (member : stop ∈ ends (bound pattern settings).pattern (Place.start text)) :
    stop ∈ ends pattern (Place.start text) := by
  unfold bound at member
  cases trims : settings.trimGarbage with
  | true =>
      rw [trims, if_pos rfl, ends_begun, distinct_ends] at member
      exact member
  | false =>
      rw [trims, if_neg Bool.false_ne_true] at member
      have begun := (of_mem_ends_finished member).1
      rwa [ends_begun, distinct_ends] at begun

theorem unsigns_bound (unsigns : Unsigns pattern other) :
    Unsigns (bound pattern settings).pattern (bound other settings).pattern := by
  unfold bound
  cases settings.trimGarbage with
  | true => exact .seq (.same .start) unsigns
  | false => exact .seq (.seq (.same .start) unsigns) (.same (.finish True.intro))

/-- Bound to the beginning of a value, the other pattern finds what the pattern does, unless there
is a sign in it. -/
theorem matched?_bound (unsigns : Unsigns pattern other) (value : Text)
    (settled : ∀ place, ∀ first ∈ ends pattern place, isUnsigned (place.upTo first.left) = false →
      ∀ last ∈ ends pattern place, place.upTo last.left = place.upTo first.left) :
    (bound other settings).matched? value =
      ((bound pattern settings).matched? value).filter isUnsigned := by
  have candidate : (bound other settings).candidate value =
      (bound pattern settings).candidate value := rfl
  rw [Grammar.matched?, Grammar.matched?, find?_of_begins (begins_bound _ _),
    find?_of_begins (begins_bound _ _), candidate]
  refine (unsigns_bound unsigns).matchAt?_eq ?_
  intro first reached signed last ended
  exact settled _ first (mem_ends_of_bound reached) signed last (mem_ends_of_bound ended)

/-- Where they may have no sign, the patterns of numbers are made of sets without one. -/
theorem plain_numeric (unsigned : settings.allowSign = false) (numeric : shape ≠ .color) :
    Plain (fun set => set.avoids "+-") True (ofShapePattern shape settings) := by
  refine (alphabet_unsigned _).plain_ofShapePattern shape rfl ?_ (List.Subset.refl _)
  rintro (colored | allowed)
  · exact absurd colored numeric
  · exact absurd allowed (ne_true_of_eq_false unsigned)

theorem matched?_numeric (unsigned : settings.allowSign = false) (numeric : shape ≠ .color)
    (value : Text) : (ofShape shape settings).matched? value =
      ((ofShape shape settings).matched? value).filter isUnsigned := by
  have plain := plain_numeric unsigned numeric
  refine matched?_bound (.same plain) value ?_
  intro place first reached signed
  obtain ⟨front, split, within⟩ := plain.takes place first reached
  rw [Place.upTo_eq split, isUnsigned_iff.mpr within] at signed
  exact absurd signed nofun

theorem matched?_eq_plainEnds (shape : Shape) (settings : GrammarSettings) (value : Text) :
    (ofShape shape settings).matched? value =
      let start := Place.start ((ofShape shape settings).candidate value)
      ((plainEnds (ofShape shape settings).pattern start).head?).map fun stop =>
        start.upTo stop.left := by
  rw [Grammar.matched?, find?_of_begins (begins_ofShape shape settings), matchAt?,
    (plain_ofShape shape settings).ends_eq]
  rfl

/-- The channels of colors have signs whether numbers may have them or not. -/
theorem matched?_color_signed :
    (ofShape .color .color).matched? "rgb(-1, +2, 3)" = some "rgb(-1,+2,3)" := by
  rw [matched?_eq_plainEnds]
  decide +kernel

/-- Where numbers may have no sign, numbers, lengths and sizes have none. Colors do not keep to
that: from a value the grammar of unsigned colors matches what the grammar of colors does, unless
there is a sign in it, and then nothing. -/
theorem matched?_unsigned {settings : GrammarSettings} (unsigned : settings.allowSign = false)
    (shape : Shape) (value : Text) :
    (shape ≠ .color → ∀ found, (ofShape shape settings).matched? value = some found →
      '+' ∉ found ∧ '-' ∉ found) ∧
    (unsignedShape shape settings).matched? value =
      ((ofShape shape settings).matched? value).filter isUnsigned := by
  constructor
  · intro numeric found matched
    have kept := matched?_numeric unsigned numeric value
    rw [matched] at kept
    have spared : ∀ c ∈ found, c ∉ ("+-" : Text) :=
      isUnsigned_iff.mp (Option.filter_eq_some_iff.mp kept.symm).2
    exact ⟨fun plus => spared _ plus (by decide), fun minus => spared _ minus (by decide)⟩
  · cases shape with
    | color => exact matched?_bound unsigns_color value fun _ _ reached signed _ ended =>
        eq_of_signed reached signed ended
    | number => exact matched?_numeric unsigned (by decide) value
    | length => exact matched?_numeric unsigned (by decide) value
    | size => exact matched?_numeric unsigned (by decide) value

theorem matched?_unsigned_sized :
    GrammarSettings.color.allowSign = false ∧ Shape.size ≠ .color ∧
      (ofShape .size .color).matched? "10 px-1" = some "10px" ∧
      ('+' ∉ ("10px" : Text) ∧ '-' ∉ ("10px" : Text)) ∧
      (unsignedShape .color .color).matched? "rgb(-1, +2, 3)" = none := by
  have unsigned : GrammarSettings.color.allowSign = false := rfl
  have sized : (ofShape .size .color).matched? "10 px-1" = some "10px" := by
    rw [matched?_eq_plainEnds]
    decide +kernel
  refine ⟨unsigned, by decide, sized, ?_, ?_⟩
  · exact (matched?_unsigned unsigned .size "10 px-1").1 (by decide) _ sized
  · rw [(matched?_unsigned unsigned .color "rgb(-1, +2, 3)").2, matched?_color_signed]
    rfl

theorem matched?_keeps_signs :
    ¬∀ (shape : Shape) (settings : GrammarSettings), settings.allowSign = false →
      ∀ value found, (ofShape shape settings).matched? value = some found →
        '+' ∉ found ∧ '-' ∉ found := by
  intro unsigned
  have spared := unsigned .color .color rfl _ _ matched?_color_signed
  exact absurd spared.1 (by decide)

end Grammar
end SafeMarkup
