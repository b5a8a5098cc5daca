import SafeMarkup.Proofs.Blanks
import SafeMarkup.Proofs.Pieces
import SafeMarkup.Proofs.Settling
import Mathlib.Data.List.Forall2

/-!
Contract: values of several parts, asked again about what they gave out.

Owns: the parts that are found again in a text that was joined from parts; that blanks around a part
do not matter to a check that drops them; and the law about whole validators of freely matched parts
and of widths.

Does not own: parts that are matched against slots.
-/

namespace SafeMarkup

/-! ## Joined texts -/

namespace Text

variable {mark : Char} {joiner gap : Text} {pieces : List Text}

theorem join_cons_cons (first second : Text) (pieces : List Text) :
    join joiner (first :: second :: pieces) = first ++ joiner ++ join joiner (second :: pieces) :=
  rfl

theorem append_join_cons (front piece : Text) (pieces : List Text) :
    front ++ join joiner (piece :: pieces) = join joiner ((front ++ piece) :: pieces) := by
  cases pieces with
  | nil => rfl
  | cons second pieces => simp only [join_cons_cons, List.append_assoc]

theorem splitOn_of_not_mem {piece : Text} (unmarked : mark ∉ piece) :
    splitOn [mark] piece = [piece] := by
  induction piece with
  | nil => rfl
  | cons c piece inductionHypothesis =>
      obtain ⟨other, unmarkedRest⟩ := not_or.mp (List.mem_cons.not.mp unmarked)
      rw [splitOn_mark_cons, if_neg (Ne.symm other), inductionHypothesis unmarkedRest]
      rfl

/-- What stands behind a mark in the joiner is found in front of the piece that follows. -/
theorem splitOn_join {first : Text} (unmarked : ∀ piece ∈ first :: pieces, mark ∉ piece)
    (gapUnmarked : mark ∉ gap) :
    splitOn [mark] (join (mark :: gap) (first :: pieces)) = first :: pieces.map (gap ++ ·) := by
  induction pieces generalizing first with
  | nil => exact splitOn_of_not_mem (unmarked first List.mem_cons_self)
  | cons second pieces inductionHypothesis =>
      obtain ⟨here, behind⟩ := List.forall_mem_cons.mp unmarked
      obtain ⟨next, others⟩ := List.forall_mem_cons.mp behind
      have nextUnmarked : mark ∉ gap ++ second := by simp [gapUnmarked, next]
      have split := inductionHypothesis (List.forall_mem_cons.mpr ⟨nextUnmarked, others⟩)
      rw [join_cons_cons, List.append_assoc, List.cons_append, append_join_cons,
        splitOn_append_mark here, split, List.map_cons]

/-- A text that can stand between marks and be found again. -/
structure Part (mark : Char) (text : Text) : Prop where
  nonempty : text ≠ []
  unmarked : mark ∉ text
  trimmed : Trimmed text
  spaced : SingleSpaced text

theorem part_of_unblank {piece : Text} (nonempty : piece ≠ []) (unmarked : mark ∉ piece)
    (unblank : ∀ c ∈ piece, isBlank c = false) : Part mark piece :=
  ⟨nonempty, unmarked, trimmed_of_unblank unblank, singleSpaced_of_unblank unblank⟩

theorem Part.unblank {piece : Text} (part : Part ' ' piece) : ∀ c ∈ piece, isBlank c = false := by
  intro c member
  rw [Bool.eq_false_iff]
  intro blank
  obtain rfl := part.spaced.spaces c member blank
  exact part.unmarked member

theorem join_ne_nil {first : Text} (nonempty : first ≠ []) :
    join joiner (first :: pieces) ≠ [] := by
  cases pieces with
  | nil => exact nonempty
  | cons second pieces => simp [join_cons_cons, nonempty]

theorem trimmed_join (parts : ∀ piece ∈ pieces, Part mark piece) :
    Trimmed (join joiner pieces) := by
  induction pieces with
  | nil => exact ⟨nofun, nofun⟩
  | cons first pieces inductionHypothesis =>
      obtain ⟨here, behind⟩ := List.forall_mem_cons.mp parts
      cases pieces with
      | nil => exact here.trimmed
      | cons second pieces =>
          have further := (inductionHypothesis behind).last
          have nonempty : join joiner (second :: pieces) ≠ [] :=
            join_ne_nil (behind second List.mem_cons_self).nonempty
          rw [join_cons_cons]
          constructor
          · rw [List.append_assoc, List.head?_append_of_ne_nil _ here.nonempty]
            exact here.trimmed.first
          · rw [List.getLast?_append_of_ne_nil _ nonempty]
            exact further

theorem squeezeFrom_append_unblank {piece rest : Text} {inRun : Bool} (nonempty : piece ≠ [])
    (unblank : ∀ c ∈ piece, isBlank c = false) :
    squeezeFrom isBlank ' ' inRun (piece ++ rest) =
      piece ++ squeezeFrom isBlank ' ' false rest := by
  induction piece generalizing inRun with
  | nil => exact absurd rfl nonempty
  | cons c piece inductionHypothesis =>
      obtain ⟨here, behind⟩ := List.forall_mem_cons.mp unblank
      have further : squeezeFrom isBlank ' ' false (piece ++ rest) =
          piece ++ squeezeFrom isBlank ' ' false rest := by
        cases piece with
        | nil => rfl
        | cons d piece => exact inductionHypothesis (List.cons_ne_nil d piece) behind
      simp [squeezeFrom, here, further]

/-- Spaces between words become one space. -/
theorem squeezeFrom_join_space {inRun : Bool} (joins : joiner = [' '] ∨ joiner = [' ', ' '])
    (parts : ∀ piece ∈ pieces, Part ' ' piece) :
    squeezeFrom isBlank ' ' inRun (join joiner pieces) = join [' '] pieces := by
  have space : isBlank ' ' = true := by decide
  induction pieces generalizing inRun with
  | nil => rfl
  | cons first pieces inductionHypothesis =>
      obtain ⟨here, behind⟩ := List.forall_mem_cons.mp parts
      cases pieces with
      | nil => exact squeezeFrom_eq_self here.spaced fun _ => here.trimmed.first
      | cons second pieces =>
          have further : squeezeFrom isBlank ' ' true (join joiner (second :: pieces)) =
              join [' '] (second :: pieces) := inductionHypothesis behind
          have between : squeezeFrom isBlank ' ' false (joiner ++ join joiner (second :: pieces)) =
              ' ' :: join [' '] (second :: pieces) := by
            rw [← further]
            rcases joins with rfl | rfl
            · simp [squeezeFrom, space]
            · simp [squeezeFrom, space]
          rw [join_cons_cons, List.append_assoc,
            squeezeFrom_append_unblank here.nonempty here.unblank, between]
          simp [join_cons_cons]

/-- Pieces between marks that are no blanks have single spaces as they are. -/
theorem squeezeFrom_join_mark {inRun : Bool} (notBlank : isBlank mark = false)
    (joins : joiner = [mark] ∨ joiner = [mark, ' ']) (parts : ∀ piece ∈ pieces, Part mark piece) :
    squeezeFrom isBlank ' ' inRun (join joiner pieces) = join joiner pieces := by
  have space : isBlank ' ' = true := by decide
  induction pieces generalizing inRun with
  | nil => rfl
  | cons first pieces inductionHypothesis =>
      obtain ⟨here, behind⟩ := List.forall_mem_cons.mp parts
      have same : squeezeFrom isBlank ' ' inRun first = first :=
        squeezeFrom_eq_self here.spaced fun _ => here.trimmed.first
      cases pieces with
      | nil => exact same
      | cons second pieces =>
          have further (inRun : Bool) :
              squeezeFrom isBlank ' ' inRun (join joiner (second :: pieces)) =
                join joiner (second :: pieces) := inductionHypothesis behind
          rw [join_cons_cons, List.append_assoc]
          rcases joins with rfl | rfl
          · rw [List.singleton_append, squeezeFrom_append_mark same notBlank, further]
          · rw [List.cons_append, squeezeFrom_append_mark same notBlank]
            simp [squeezeFrom, space, further]

end Text

/-! ## Delimiters -/

/-- Delimiters that tell parts apart again: one character that is a space or no blank, perhaps with
a space behind it where parts are joined. -/
structure Delimiters.Apart (delimiters : Delimiters) (mark : Char) : Prop where
  plain : mark = ' ' ∨ Text.isBlank mark = false
  delimiter : delimiters.delimiter = [mark]
  joiner : delimiters.joiner = [mark] ∨ delimiters.joiner = [mark, ' ']
  appender : delimiters.appender = []

namespace Delimiters.Apart

variable {delimiters : Delimiters} {mark : Char} {pieces : List Text}

/-- A joined text keeps its marks, each with a space behind it or none. -/
theorem exists_gap (apart : delimiters.Apart mark)
    (parts : ∀ piece ∈ pieces, Text.Part mark piece) :
    ∃ gap, (gap = [] ∨ gap = [' ']) ∧ mark ∉ gap ∧
      spaced (Text.join delimiters.joiner pieces) = Text.join (mark :: gap) pieces := by
  rcases apart.plain with rfl | notBlank
  · have squeezed : Text.squeezeBlanks (Text.join delimiters.joiner pieces) =
        Text.join [' '] pieces := Text.squeezeFrom_join_space apart.joiner parts
    refine ⟨[], .inl rfl, List.not_mem_nil, ?_⟩
    rw [spaced, squeezed, Text.trim_eq_self (Text.trimmed_join parts)]
  · have squeezed : Text.squeezeBlanks (Text.join delimiters.joiner pieces) =
        Text.join delimiters.joiner pieces :=
      Text.squeezeFrom_join_mark notBlank apart.joiner parts
    have other : mark ≠ ' ' := by
      rintro rfl
      exact absurd notBlank (by decide)
    rw [spaced, squeezed, Text.trim_eq_self (Text.trimmed_join parts)]
    rcases apart.joiner with joins | joins
    · exact ⟨[], .inl rfl, List.not_mem_nil, by rw [joins]⟩
    · exact ⟨[' '], .inr rfl, by simpa using other, by rw [joins]⟩

/-- From a joined text the pieces are read again, perhaps with a space in front of them. -/
theorem splitOn_spaced (apart : delimiters.Apart mark) (nonempty : pieces ≠ [])
    (parts : ∀ piece ∈ pieces, Text.Part mark piece) :
    List.Forall₂ (fun part piece => Text.trim part = piece)
      (Text.splitOn delimiters.delimiter (spaced (Text.join delimiters.joiner pieces))) pieces := by
  obtain ⟨gap, short, unmarked, joined⟩ := apart.exists_gap parts
  obtain ⟨first, others, rfl⟩ := List.exists_cons_of_ne_nil nonempty
  have space : Text.isBlank ' ' = true := by decide
  have behindGap (piece : Text) (part : Text.Part mark piece) :
      Text.trim (gap ++ piece) = piece := by
    have itself := Text.trim_eq_self part.trimmed
    rcases short with rfl | rfl
    · exact itself
    · simpa [Text.trim, Text.trimmed, space] using itself
  obtain ⟨here, behind⟩ := List.forall_mem_cons.mp parts
  rw [apart.delimiter, joined, Text.splitOn_join (fun piece member => (parts piece member).unmarked)
    unmarked]
  refine .cons (Text.trim_eq_self here.trimmed) ?_
  rw [List.forall₂_map_left_iff, List.forall₂_same]
  intro piece member
  exact behindGap piece (behind piece member)

end Delimiters.Apart

/-! ## Blanks around a value -/

theorem Options.value_check_congr {options : Options} {kind : Text} {core : Core}
    {context : Context} {raw other : Option Text}
    (considered : (options.consider kind core context raw).value =
      (options.consider kind core context other).value) :
    (options.check kind core context raw).value =
      (options.check kind core context other).value := by
  have concluded (value : Text) : (options.conclude kind context raw value).value =
      (options.conclude kind context other value).value := by
    unfold Options.conclude
    split <;> simp
  rw [Options.check, Options.check, Reported.value_bind, Reported.value_bind, considered]
  split
  · exact concluded _
  · exact concluded _
  · rfl

namespace Validator

variable {validator : Validator} {context : Context}

/-- The value that a kind gives out does not depend on how the value was written. -/
theorem value_core (validator : Validator) (context : Context) (raw other value : Text) :
    (validator.core context raw value).value = (validator.core context other value).value := by
  have sequences (options : Options) (kind : Text) (delimiters : Delimiters) (matching : Matching) :
      (sequenceCore options kind delimiters matching context raw value).value =
        (sequenceCore options kind delimiters matching context other value).value := by
    simp only [sequenceCore, Reported.value_bind]
    split <;> simp
  cases validator with
  | simple options kind =>
      simp only [core, Simple.core]
      split <;> simp
  | sequence options delimiters item => exact sequences options _ delimiters _
  | indent options delimiters item => exact sequences options _ delimiters _
  | complex options delimiters slots => exact sequences options _ delimiters _
  | style options name properties equivalents =>
      simp only [core, StyleRules.core, Reported.value_bind]
      split <;> simp

/-- A validator that drops blanks gives out the same for a value with blanks around it. -/
theorem value_check_trim (strips : validator.options.strip) {raw value : Text}
    (around : Text.trim raw = value) (present : value ≠ []) :
    (validator.check context (some raw)).value = (validator.check context (some value)).value := by
  have rawPresent : raw ≠ [] := by
    rintro rfl
    exact present around.symm
  have considered {written : Text} (present : written ≠ []) :
      (validator.options.consider validator.kind validator.core context (some written)).value =
        (validator.core context written (Text.trim written)).value := by
    rw [Options.consider, if_neg (by simp [present]), if_pos strips]
  have trimmed : Text.trim value = value := by rw [← around, Text.trim_trim]
  rw [check_eq]
  refine Options.value_check_congr ?_
  rw [considered rawPresent, considered present, around, trimmed, validator.value_core]

end Validator

/-! ## Matching -/

/-- A check accepts a part as a value. -/
def Accepts (check : Check) (context : Context) (part value : Text) : Prop :=
  (check context (some part)).value = .ok value

namespace Matching

variable {check : Check} {context : Context} {parts values : List Text}

theorem eq_cons_of_map {value : Text} {answer : Except Rejection (List Text)}
    (matched : answer.map (value :: ·) = .ok values) :
    ∃ others, answer = .ok others ∧ value :: others = values := by
  cases answer with
  | error rejection => exact absurd matched nofun
  | ok others => exact ⟨others, rfl, Except.ok.inj matched⟩

theorem exists_part_of_free (matched : (free check context parts).value = .ok values) :
    ∀ value ∈ values, ∃ part, Accepts check context part value := by
  induction parts generalizing values with
  | nil =>
      obtain rfl := Except.ok.inj matched
      exact nofun
  | cons part parts inductionHypothesis =>
      rw [free, Reported.value_bind] at matched
      split at matched
      case h_1 value accepted =>
        rw [Reported.value_bind, Reported.value_pure] at matched
        obtain ⟨others, further, rfl⟩ := eq_cons_of_map matched
        exact List.forall_mem_cons.mpr ⟨⟨part, accepted⟩, inductionHypothesis further⟩
      case h_2 => exact inductionHypothesis matched
      case h_3 => exact absurd matched nofun
      case h_4 => exact absurd matched nofun

theorem free_of_accepted (accepted : List.Forall₂ (Accepts check context) parts values) :
    (free check context parts).value = .ok values := by
  induction accepted with
  | nil => rfl
  | cons here behind inductionHypothesis =>
      rw [Accepts] at here
      rw [free, Reported.value_bind, here]
      show Except.map _ (free check context _).value = _
      rw [inductionHypothesis]
      rfl

theorem all_eq_ok_iff : (all check context parts).value = .ok values ↔
    List.Forall₂ (Accepts check context) parts values := by
  constructor
  · intro matched
    induction parts generalizing values with
    | nil =>
        obtain rfl := Except.ok.inj matched
        exact .nil
    | cons part parts inductionHypothesis =>
        rw [all, Reported.value_bind] at matched
        split at matched
        case h_1 value accepted =>
          rw [Reported.value_bind, Reported.value_pure] at matched
          obtain ⟨others, further, rfl⟩ := eq_cons_of_map matched
          exact .cons accepted (inductionHypothesis further)
        case h_2 => exact absurd matched nofun
        case h_3 => exact absurd matched nofun
  · intro accepted
    induction accepted with
    | nil => rfl
    | cons here behind inductionHypothesis =>
        rw [Accepts] at here
        rw [all, Reported.value_bind, here]
        show Except.map _ (all check context _).value = _
        rw [inductionHypothesis]
        rfl

theorem exists_part_of_accepted (accepted : List.Forall₂ (Accepts check context) parts values) :
    ∀ value ∈ values, ∃ part, Accepts check context part value := by
  induction accepted with
  | nil => exact nofun
  | cons here _ inductionHypothesis =>
      exact List.forall_mem_cons.mpr ⟨⟨_, here⟩, inductionHypothesis⟩

/-- Every value that a matching gives out is that of some part, and the values are given out again
for parts that are accepted as them. -/
structure Recalls (matching : Matching) (check : Check) (context : Context) : Prop where
  source : ∀ {parts values}, (matching context parts).value = .ok values →
    ∀ value ∈ values, ∃ part, Accepts check context part value
  again : ∀ {parts values others}, (matching context parts).value = .ok values →
    List.Forall₂ (Accepts check context) others values →
    (matching context others).value = .ok values

theorem recalls_free (check : Check) (context : Context) : (free check).Recalls check context :=
  ⟨exists_part_of_free, fun _ accepted => free_of_accepted accepted⟩

/-- There are as many values as there were parts, so that their number fits again. -/
theorem recalls_indent (check : Check) (context : Context) :
    (indent check).Recalls check context := by
  have inverted {parts values : List Text}
      (matched : (indent check context parts).value = .ok values) :
      (parts.length = 1 ∨ parts.length = 2 ∨ parts.length = 4) ∧
        List.Forall₂ (Accepts check context) parts values := by
    unfold indent at matched
    split at matched
    case isTrue fits => exact ⟨fits, all_eq_ok_iff.mp matched⟩
    case isFalse => exact absurd matched nofun
  constructor
  · intro parts values matched
    exact exists_part_of_accepted (inverted matched).2
  · intro parts values others matched again
    obtain ⟨fits, accepted⟩ := inverted matched
    have sameLength : others.length = parts.length := again.length_eq.trans accepted.length_eq.symm
    unfold indent
    rw [if_pos (sameLength ▸ fits)]
    exact all_eq_ok_iff.mpr again

end Matching

/-! ## Sequences -/

theorem sequenceCore_eq_ok_iff {options : Options} {kind : Text} {delimiters : Delimiters}
    {matching : Matching} {context : Context} {raw value given : Text} :
    (sequenceCore options kind delimiters matching context raw value).value = .ok given ↔
      ∃ values, values ≠ [] ∧
        (matching context (Text.splitOn delimiters.delimiter (spaced value))).value = .ok values ∧
        Text.join delimiters.joiner values ++ delimiters.appender = given := by
  simp only [sequenceCore, Reported.value_bind]
  split
  case h_1 matched => simp [matched]
  case h_2 values nonempty matched => simp_all
  case h_3 matched => simp [matched]
  case h_4 other _ matched => simp [matched]

/-- What is accepted as a part can stand among the parts of a value, and is accepted as it is. -/
def Validator.GivesParts (item : Validator) (mark : Char) (context : Context) : Prop :=
  ∀ written part, (item.check context (some written)).value = .ok part →
    Text.Part mark part ∧ (item.check context (some part)).value = .ok part

/-- A list gives out its words. -/
theorem Validator.givesParts_list {words : List Text} {mark : Char}
    (parts : ∀ word ∈ words, Text.Part mark word) (context : Context) :
    (list words).GivesParts mark context := by
  intro written part accepted
  obtain ⟨-, replaced | ⟨raw, -, passed⟩⟩ := check_eq_ok accepted
  · exact absurd replaced nofun
  have found := Simple.accept_list.mp (Simple.accept_of_core passed)
  have standing := parts part (Vocabulary.mem_of_lookup? rfl found)
  have settling : (Simple.list ⟨words, false, true⟩).Settling context.environment.site := .list _
  exact ⟨standing, simple_settles settling nofun accepted (.inl standing.nonempty)⟩

/-- A matching that recalls values finds them again in the text they are joined to. -/
theorem sequenceCore_settles {options : Options} {kind : Text} {delimiters : Delimiters}
    {item : Validator} {matching : Matching} {mark : Char} {context : Context}
    (recalls : matching.Recalls item.check context) (apart : delimiters.Apart mark)
    (strips : item.options.strip) (givesParts : item.GivesParts mark context)
    {raw value given : Text} (accepted :
      (sequenceCore options kind delimiters matching context raw value).value = .ok given) :
    given ≠ [] ∧ Text.Trimmed given ∧ ∀ raw,
      (sequenceCore options kind delimiters matching context raw given).value = .ok given := by
  obtain ⟨values, nonempty, matched, joined⟩ := sequenceCore_eq_ok_iff.mp accepted
  have whole : Text.join delimiters.joiner values = given := by
    rw [← joined, apart.appender, List.append_nil]
  have sound : ∀ value ∈ values,
      Text.Part mark value ∧ (item.check context (some value)).value = .ok value := by
    intro value member
    obtain ⟨part, taken⟩ := recalls.source matched value member
    exact givesParts part value taken
  have parts : ∀ value ∈ values, Text.Part mark value := fun value member => (sound value member).1
  have split := apart.splitOn_spaced nonempty parts
  rw [whole] at split
  have again : List.Forall₂ (Accepts item.check context)
      (Text.splitOn delimiters.delimiter (spaced given)) values := by
    have paired := (List.forall₂_and_left values _).mpr ⟨sound, List.Forall₂.flip split⟩
    refine List.Forall₂.flip (paired.imp ?_)
    rintro value part ⟨⟨standing, itself⟩, trimmed⟩
    have same : (item.check context (some part)).value = (item.check context (some value)).value :=
      Validator.value_check_trim strips trimmed standing.nonempty
    exact same.trans itself
  obtain ⟨first, others, rfl⟩ := List.exists_cons_of_ne_nil nonempty
  refine ⟨?_, ?_, ?_⟩
  · rw [← whole]
    exact Text.join_ne_nil (parts first List.mem_cons_self).nonempty
  · rw [← whole]
    exact Text.trimmed_join parts
  · intro raw
    exact sequenceCore_eq_ok_iff.mpr ⟨_, nonempty, recalls.again matched again, joined⟩

/-- A value of parts is given out again as it is, if its delimiters tell its parts apart and what is
given out for a part is given out for itself. -/
theorem Validator.delimited_settles {validator item : Validator} {options : Options}
    {delimiters : Delimiters} {mark : Char} {context : Context} {written given : Text}
    (shape : validator = .sequence options delimiters item ∨
      validator = .indent options delimiters item)
    (undefaulted : ∀ usual, options.requirement ≠ .substitute usual)
    (apart : delimiters.Apart mark) (strips : item.options.strip)
    (givesParts : item.GivesParts mark context)
    (accepted : (validator.check context (some written)).value = .ok given) :
    (validator.check context (some given)).value = .ok given := by
  have settles {raw value : Text}
      (passed : (validator.core context raw value).value = .ok given) :
      given ≠ [] ∧ Text.Trimmed given ∧ ∀ raw,
        (validator.core context raw given).value = .ok given := by
    rcases shape with rfl | rfl
    · exact sequenceCore_settles (Matching.recalls_free _ _) apart strips givesParts passed
    · exact sequenceCore_settles (Matching.recalls_indent _ _) apart strips givesParts passed
  have owner : validator.options = options := by rcases shape with rfl | rfl <;> rfl
  obtain ⟨sound, replaced | ⟨raw, -, passed⟩⟩ := check_eq_ok accepted
  · exact absurd replaced (owner ▸ undefaulted given)
  obtain ⟨nonempty, trimmed, again⟩ := settles passed
  have looked : validator.options.looked given = given := by
    unfold Options.looked
    split
    case isTrue => exact Text.trim_eq_self trimmed
    case isFalse => rfl
  refine check_of_core sound (.inl nonempty) ?_
  rw [looked]
  exact again given

/-- Words that are written without regard to case and blanks, with one that is no word. -/
theorem Validator.delimited_settles_list :
    ((sequence (newOptions false) ⟨",", ", ", []⟩ (list ["left", "top"])).check
        ⟨"p", "align", true, .detached⟩ (some " TOP,  left,blue")).value = .ok "top, left" ∧
      ((sequence (newOptions false) ⟨",", ", ", []⟩ (list ["left", "top"])).check
        ⟨"p", "align", true, .detached⟩ (some "top, left")).value = .ok "top, left" := by
  have parts : ∀ word ∈ (["left", "top"] : List String).map String.toList, Text.Part ',' word := by
    have unblank : ∀ word ∈ (["left", "top"] : List String).map String.toList,
        word ≠ [] ∧ ',' ∉ word ∧ (word.any Text.isBlank) = false := by
      decide
    intro word member
    obtain ⟨nonempty, unmarked, noBlank⟩ := unblank word member
    refine Text.part_of_unblank nonempty unmarked ?_
    simpa using noBlank
  have apart : (Delimiters.mk "," ", " []).Apart ',' := ⟨.inr (by decide), rfl, .inr rfl, rfl⟩
  have accepted : ((sequence (newOptions false) ⟨",", ", ", []⟩ (list ["left", "top"])).check
      ⟨"p", "align", true, .detached⟩ (some " TOP,  left,blue")).value = .ok "top, left" := by
    decide +kernel
  exact ⟨accepted, delimited_settles (.inl rfl) nofun apart rfl (givesParts_list parts _) accepted⟩

end SafeMarkup
