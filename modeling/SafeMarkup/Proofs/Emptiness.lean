import SafeMarkup.Proofs.Lowercase
import SafeMarkup.Proofs.Preference
import SafeMarkup.Proofs.Rejoining
import Mathlib.Data.List.TakeWhile

/-!
Contract: values of nothing but blanks, asked of validators for which an empty value does not count.

Whether a value is empty is decided about the value as it was written, before its blanks are
dropped. A value of blanks therefore reaches the kind of a validator as the empty text.

Owns: which kinds refuse the empty text, and when a value of blanks comes to the same as an empty
value.

Does not own: what becomes of a refused value.
-/

namespace SafeMarkup

/-- A refusal that does not call the value invalid. -/
def Declined {α : Type} : Except Rejection α → Prop
  | .ok _ => False
  | .error rejection => rejection ≠ .invalid

namespace Text

theorem trim_eq_nil_iff {text : Text} : trim text = [] ↔ ∀ c ∈ text, isBlank c := by
  constructor
  · intro dropped c member
    have front : ∀ d ∈ text.dropWhile isBlank, isBlank d := by
      simpa [trim, trimmed, List.dropWhile_eq_nil_iff] using dropped
    have noneLeft : text.dropWhile isBlank = [] := by
      have unblank := List.head?_dropWhile_not isBlank text
      cases left : text.dropWhile isBlank with
      | nil => rfl
      | cons d rest =>
          rw [left] at front unblank
          exact absurd (front d List.mem_cons_self) (by simpa using unblank)
    exact List.dropWhile_eq_nil_iff.mp noneLeft c member
  · intro blank
    rw [trim, trimmed, List.dropWhile_eq_nil_iff.mpr blank]
    rfl

theorem toLower_eq_nil_iff {text : Text} : toLower text = [] ↔ text = [] := by
  constructor
  · intro lowered
    obtain ⟨blocks, related, whole⟩ := exists_lowered [] text
    cases related with
    | nil => rfl
    | cons here behind =>
        have empty := whole.symm.trans lowered
        rw [List.flatten_cons, List.append_eq_nil_iff] at empty
        cases here <;> exact absurd empty.1 nofun
  · rintro rfl
    rfl

/-- The empty text has one part, or two with an empty delimiter. -/
theorem splitOn_empty (delimiter : Text) :
    splitOn delimiter [] = List.replicate (if delimiter = [] then 2 else 1) [] := by
  cases delimiter with
  | nil => rfl
  | cons c delimiter => rfl

end Text

/-! ## Kinds without parts -/

namespace Grammar

variable {place : Place} {foldCase : Bool}

theorem ends_sign_finished (finished : place.rest = []) : sign.ends place = [place] := by
  rw [sign, Pattern.ends_optional, Pattern.ends_one_of_nil finished]
  rfl

theorem ends_digits_finished (finished : place.rest = []) : digits.ends place = [] := by
  simp [digits, Pattern.ends, Pattern.exactly, Place.next?_eq_none_iff.mpr finished,
    Place.distinct]

theorem ends_number_finished (settings : GrammarSettings) (finished : place.rest = []) :
    (number settings).ends place = [] := by
  have noDigits := ends_digits_finished finished
  unfold number
  split
  · simp [Pattern.ends, ends_sign_finished finished, noDigits, Place.distinct]
  · exact noDigits

theorem ends_seq_of_nil {first second : Pattern} (blocked : first.ends place = []) :
    (Pattern.seq first second).ends place = [] := by
  rw [Pattern.ends, blocked]
  rfl

theorem ends_concat_of_nil {first : Pattern} {patterns : List Pattern}
    (blocked : first.ends place = []) : (Pattern.concat (first :: patterns)).ends place = [] := by
  cases patterns with
  | nil => exact blocked
  | cons second patterns => exact ends_seq_of_nil blocked

theorem ends_firstOf_of_nil {patterns : List Pattern} (finished : place.rest = [])
    (blocked : ∀ pattern ∈ patterns, pattern.ends place = []) :
    (Pattern.firstOf patterns).ends place = [] := by
  induction patterns with
  | nil => exact Pattern.ends_one_of_nil finished
  | cons first patterns inductionHypothesis =>
      obtain ⟨here, behind⟩ := List.forall_mem_cons.mp blocked
      cases patterns with
      | nil => exact here
      | cons second patterns =>
          show Place.distinct (first.ends place ++
            (Pattern.firstOf (second :: patterns)).ends place) = []
          rw [here, inductionHypothesis behind]
          rfl

theorem ends_call_finished {names : List Text} {arguments : List Pattern} (named : [] ∉ names)
    (finished : place.rest = []) : (call foldCase names arguments).ends place = [] := by
  apply ends_concat_of_nil
  apply ends_firstOf_of_nil finished
  intro pattern member
  obtain ⟨name, listed, rfl⟩ := List.mem_map.mp member
  cases name with
  | nil => exact absurd listed named
  | cons c name =>
      apply ends_concat_of_nil
      exact Pattern.ends_one_of_nil finished

theorem ends_color_finished (finished : place.rest = []) : (color foldCase).ends place = [] := by
  have hash (count : Nat) : (hexadecimal foldCase count).ends place = [] :=
    ends_seq_of_nil (Pattern.ends_one_of_nil finished)
  apply ends_firstOf_of_nil finished
  simp only [List.forall_mem_cons, List.not_mem_nil, false_imp_iff, implies_true, and_true]
  exact ⟨ends_call_finished (by decide) finished, ends_call_finished (by decide) finished, hash 6,
    hash 3⟩

/-- Numbers, lengths, sizes and colors all need a character. -/
theorem ends_ofShapePattern_finished (shape : Shape) (settings : GrammarSettings)
    (finished : place.rest = []) : (ofShapePattern shape settings).ends place = [] := by
  have noNumber := ends_number_finished settings finished
  cases shape with
  | number => exact noNumber
  | length => exact ends_seq_of_nil noNumber
  | size => exact ends_seq_of_nil noNumber
  | color => exact ends_color_finished finished

theorem matched?_ofShape_empty (shape : Shape) (settings : GrammarSettings) :
    (ofShape shape settings).matched? [] = none := by
  have empty : (ofShape shape settings).candidate [] = [] := by
    unfold candidate
    split <;> rfl
  have begun : Pattern.ends (.seq (.assert .textStart) (ofShapePattern shape settings))
      (Place.start []) = [] := by
    have started : Pattern.ends (.assert .textStart) (Place.start []) = [Place.start []] := rfl
    have blocked : (ofShapePattern shape settings).ends (Place.start []) = [] :=
      ends_ofShapePattern_finished shape settings rfl
    rw [Pattern.ends, started, List.flatMap_singleton, blocked]
    rfl
  have nowhere : (ofShape shape settings).pattern.ends (Place.start []) = [] := by
    unfold ofShape
    split
    · exact begun
    · exact ends_seq_of_nil begun
  rw [matched?, empty, Pattern.find?_of_begins (begins_ofShape shape settings), Pattern.matchAt?,
    nowhere]
  rfl

end Grammar

theorem Vocabulary.lookup?_empty_eq_none_iff {vocabulary : Vocabulary} :
    vocabulary.lookup? [] = none ↔ [] ∉ vocabulary.words := by
  have noLetters : Text.toLower [] = [] := rfl
  have noneEmpty : (∀ word ∈ vocabulary.words, ¬word = []) ↔ [] ∉ vocabulary.words :=
    ⟨fun others member => others [] member rfl,
      fun missing _ member empty => missing (empty ▸ member)⟩
  unfold lookup?
  split <;> simpa [noLetters, Text.toLower_eq_nil_iff, List.find?_eq_none] using noneEmpty

/-- An empty reference is completed like any other. -/
theorem UrlRule.resolve_empty (rule : UrlRule) (site : Site) :
    rule.resolve site [] = .ok (if rule.localOnly then "/" else "http://") := by
  obtain ⟨localOnly, allowLocal, allowAnchor⟩ := rule
  cases localOnly <;> cases allowAnchor <;> rfl

namespace Simple

variable {kind : Simple}

/-- Whether a kind refuses the empty text. -/
def RefusesEmpty : Simple → Prop
  | .text | .url _ => False
  | .char => True
  | .list vocabulary => [] ∉ vocabulary.words
  | .number grammar => grammar.matched? [] = none
  | .listOrNumber vocabulary grammar => [] ∉ vocabulary.words ∧ grammar.matched? [] = none

theorem refusesEmpty_iff (site : Site) :
    kind.RefusesEmpty ↔ ∃ refused, kind.accept site [] = .error refused := by
  cases kind with
  | text => exact iff_of_false id (by rintro ⟨_, ⟨⟩⟩)
  | char => exact iff_of_true trivial ⟨[], rfl⟩
  | list vocabulary =>
      rw [RefusesEmpty, ← Vocabulary.lookup?_empty_eq_none_iff, accept]
      cases vocabulary.lookup? [] <;> simp
  | url rule =>
      have completed : accept site [] (.url rule) =
          .ok (if rule.localOnly then "/" else "http://") :=
        rule.resolve_empty site
      rw [completed]
      exact iff_of_false id (by rintro ⟨_, ⟨⟩⟩)
  | number grammar =>
      rw [RefusesEmpty, accept]
      cases grammar.matched? [] <;> simp
  | listOrNumber vocabulary grammar =>
      rw [RefusesEmpty, ← Vocabulary.lookup?_empty_eq_none_iff, accept]
      cases vocabulary.lookup? [] <;> cases grammar.matched? [] <;> simp

theorem declined_core_empty {options : Options} {context : Context} {raw : Text} :
    Declined (kind.core options context raw []).value ↔ kind.RefusesEmpty := by
  rw [refusesEmpty_iff context.environment.site, core]
  cases accepted : kind.accept context.environment.site [] with
  | ok value => simp [Declined]
  | error refused => simp [Declined, options.requirement.rejection_ne_invalid]

end Simple

/-! ## Kinds with parts -/

namespace Matching

variable {check : Check} {checks : List Check} {context : Context} {part : Text} {parts : List Text}

/-- A matching keeps no part, or its parts do not fit together. -/
def Fails (answer : Except Rejection (List Text)) : Prop :=
  answer = .ok [] ∨ Declined answer

theorem fails_of_accepted (count : Nat) {value : Text} {matching : Matching}
    (accepts : ∀ values, List.Forall₂ (Accepts check context) (List.replicate (count + 1) part)
      values → (matching context (List.replicate (count + 1) part)).value = .ok values)
    (accepted : Accepts check context part value) :
    ¬Fails (matching context (List.replicate (count + 1) part)).value := by
  have alike (length : Nat) : List.Forall₂ (Accepts check context) (List.replicate length part)
      (List.replicate length value) := by
    induction length with
    | zero => exact .nil
    | succ length inductionHypothesis => exact .cons accepted inductionHypothesis
  rw [accepts _ (alike (count + 1))]
  simp [Fails, Declined, List.replicate_succ]

theorem fails_free (count : Nat) :
    Fails (free check context (List.replicate (count + 1) part)).value ↔
      Declined (check context (some part)).value := by
  cases answer : (check context (some part)).value with
  | ok value =>
      have kept := fails_of_accepted count (fun _ => free_of_accepted) answer
      simpa [Declined] using kept
  | error rejection =>
      cases rejection with
      | absentOptional =>
          have dropped : (free check context (List.replicate (count + 1) part)).value = .ok [] := by
            generalize count + 1 = length
            induction length with
            | zero => rfl
            | succ length inductionHypothesis =>
                rw [List.replicate_succ, free, Reported.value_bind, answer]
                exact inductionHypothesis
          simp [Fails, Declined, dropped]
      | _ => simp [Fails, Declined, free, List.replicate_succ, answer]

theorem fails_indent {count : Nat} (few : count + 1 = 1 ∨ count + 1 = 2) :
    Fails (indent check context (List.replicate (count + 1) part)).value ↔
      Declined (check context (some part)).value := by
  have fits : (List.replicate (count + 1) part).length = 1 ∨
      (List.replicate (count + 1) part).length = 2 ∨
      (List.replicate (count + 1) part).length = 4 := by
    simp only [List.length_replicate]
    omega
  rw [indent, if_pos fits]
  cases answer : (check context (some part)).value with
  | ok value =>
      have kept := fails_of_accepted count (fun _ => all_eq_ok_iff.mpr) answer
      simpa [Declined] using kept
  | error rejection =>
      cases rejection <;> simp [Fails, Declined, all, List.replicate_succ, answer]

theorem slots_ne_nil : (slots context checks (part :: parts)).value ≠ .ok [] := by
  induction checks with
  | nil => exact nofun
  | cons slot later inductionHypothesis =>
      rw [slots, Reported.value_bind]
      split
      · rw [Reported.value_bind]
        split
        · exact nofun
        · exact nofun
        · exact inductionHypothesis
      · exact nofun
      · exact inductionHypothesis

/-- Equal parts do not fit the slots if too few of these take one, and none calls it invalid. -/
theorem declined_slots (count : Nat) :
    Declined (slots context checks (List.replicate count part)).value ↔
      (∀ slot ∈ checks, (slot context.quieted (some part)).value ≠ .error .invalid) ∧
      checks.countP (fun slot => (slot context.quieted (some part)).value.isOk) < count := by
  induction checks generalizing count with
  | nil =>
      cases count with
      | zero => simp [slots, Declined]
      | succ count => simp [slots, Declined, List.replicate_succ]
  | cons slot later inductionHypothesis =>
      cases count with
      | zero => simp [slots, Declined]
      | succ count =>
          have fewer := inductionHypothesis count
          have others := inductionHypothesis (count + 1)
          rw [List.replicate_succ] at others ⊢
          rw [slots, Reported.value_bind, List.forall_mem_cons, List.countP_cons]
          cases answer : (slot context.quieted (some part)).value with
          | ok value =>
              rw [Reported.value_bind]
              cases further : (slots context later (List.replicate count part)).value with
              | ok values =>
                  rw [further] at fewer
                  simpa [Declined, Except.isOk, Except.toBool] using fewer
              | error rejection =>
                  rw [further] at fewer
                  cases rejection with
                  | invalid => simpa [Declined, Except.isOk, Except.toBool] using fewer
                  | _ =>
                      obtain ⟨sound, few⟩ := fewer.mp (by simp [Declined])
                      have declined := others.mpr ⟨sound, few.trans (Nat.lt_succ_self count)⟩
                      simpa [Except.isOk, Except.toBool, declined] using And.intro sound few
          | error rejection =>
              cases rejection with
              | invalid => simp [Declined]
              | _ => simpa [Except.isOk, Except.toBool] using others

end Matching

theorem declined_sequenceCore {options : Options} {kind : Text} {delimiters : Delimiters}
    {matching : Matching} {context : Context} {raw : Text} :
    Declined (sequenceCore options kind delimiters matching context raw []).value ↔
      Matching.Fails (matching context (Text.splitOn delimiters.delimiter [])).value := by
  have spacedEmpty : spaced [] = [] := rfl
  have requirement := options.requirement.rejection_ne_invalid
  rw [sequenceCore, spacedEmpty, Reported.value_bind]
  cases (matching context (Text.splitOn delimiters.delimiter [])).value with
  | ok parts => cases parts <;> simp [Matching.Fails, Declined, requirement]
  | error rejection => cases rejection <;> simp [Matching.Fails, Declined, requirement]

namespace Validator

variable {validator : Validator} {context : Context} {value : Text}

/-- Whether a kind refuses the empty text, whose one part is empty, or whose two parts are. -/
def RefusesEmpty (context : Context) : Validator → Prop
  | .simple _ kind => kind.RefusesEmpty
  | .sequence _ _ item | .indent _ _ item => Declined (item.check context (some [])).value
  | .complex _ delimiters slots =>
    (∀ slot ∈ slots, (slot.check context.quieted (some [])).value ≠ .error .invalid) ∧
    slots.countP (fun slot => (slot.check context.quieted (some [])).value.isOk) <
      (Text.splitOn delimiters.delimiter []).length
  | .style .. => True

/-- Whether a refused value is replaced by what the kind would have given out for the empty text, or
whether neither is given out. -/
def Masks (context : Context) (validator : Validator) : Prop :=
  ∃ usual, validator.options.requirement = .substitute usual ∧
    (validator.options.invalid ∨ (validator.core context [] []).value = .ok usual)

theorem declined_core_empty {raw : Text} :
    Declined (validator.core context raw []).value ↔ validator.RefusesEmpty context := by
  cases validator with
  | simple options kind => exact Simple.declined_core_empty
  | sequence options delimiters item =>
      rw [core, declined_sequenceCore, Text.splitOn_empty]
      split
      · exact Matching.fails_free 1
      · exact Matching.fails_free 0
  | indent options delimiters item =>
      rw [core, declined_sequenceCore, Text.splitOn_empty]
      split
      · exact Matching.fails_indent (.inr rfl)
      · exact Matching.fails_indent (.inl rfl)
  | complex options delimiters slots =>
      have someParts : ∃ count, (if delimiters.delimiter = [] then 2 else 1) = count + 1 := by
        split
        · exact ⟨1, rfl⟩
        · exact ⟨0, rfl⟩
      obtain ⟨count, counted⟩ := someParts
      rw [core, declined_sequenceCore, RefusesEmpty, Text.splitOn_empty, counted,
        List.length_replicate, checkSlots_eq_map, Matching.Fails, List.replicate_succ,
        or_iff_right Matching.slots_ne_nil, ← List.replicate_succ, Matching.declined_slots,
        List.forall_mem_map, List.countP_map]
      rfl
  | style options name properties equivalents =>
      have requirement := options.requirement.rejection_ne_invalid
      have nothing : StyleRules.declarations (spaced []) = [] := rfl
      simp [core, RefusesEmpty, StyleRules.core, nothing, StyleRules.keepFrom, Declined,
        requirement]

end Validator

/-! ## Values of blanks -/

namespace Options

variable {options : Options} {kind : Text} {core : Core} {context : Context} {value : Text}

/-- What is given out in the end for what was made of a value. -/
def conclusion (options : Options) : Except Rejection Text → Except Rejection Text
  | .ok value => if options.invalid then .error .invalid else .ok value
  | .error .defaultApplied =>
    if options.invalid then .error .invalid else .ok options.requirement.replacement
  | .error rejection => .error rejection

theorem conclusion_ok (sound : options.invalid = false) :
    options.conclusion (.ok value) = .ok value := by
  simp [conclusion, sound]

theorem value_check {raw : Option Text} : (options.check kind core context raw).value =
    options.conclusion (options.consider kind core context raw).value := by
  have concluded (value : Text) : (options.conclude kind context raw value).value =
      if options.invalid then .error .invalid else .ok value := by
    unfold conclude
    split <;> simp
  rw [check, Reported.value_bind]
  cases (options.consider kind core context raw).value with
  | ok value => exact concluded value
  | error rejection =>
      cases rejection with
      | defaultApplied => exact concluded _
      | _ => rfl

theorem value_consider_blank (strips : options.strip) (present : value ≠ [])
    (blank : ∀ c ∈ value, Text.isBlank c) :
    (options.consider kind core context (some value)).value = (core context value []).value := by
  rw [consider, if_neg (by simp [present]), if_pos strips, Text.trim_eq_nil_iff.mpr blank]

theorem value_consider_empty (refuses : options.allowEmpty = false) :
    (options.consider kind core context (some [])).value =
      .error options.requirement.rejection := by
  rw [consider, if_pos (by simp [refuses]), value_refuse]

/-- An answer comes to the same as a refusal if it is one, or if what replaces a refused value is
the same. -/
theorem conclusion_eq_iff {answer : Except Rejection Text}
    (follows : ∀ rejection, answer = .error rejection →
      rejection = .invalid ∨ rejection = options.requirement.rejection) :
    options.conclusion answer = options.conclusion (.error options.requirement.rejection) ↔
      Declined answer ∨ ∃ usual, options.requirement = .substitute usual ∧
        (options.invalid ∨ answer = .ok usual) := by
  obtain ⟨requirement, strip, allowEmpty, invalid⟩ := options
  cases answer with
  | ok value =>
      cases requirement <;> cases invalid <;>
        simp [conclusion, Declined, Requirement.rejection, Requirement.replacement]
  | error rejection =>
      rcases follows rejection rfl with rfl | rfl
      · cases requirement <;> cases invalid <;>
          simp [conclusion, Declined, Requirement.rejection]
      · simp [Declined, requirement.rejection_ne_invalid]

end Options

namespace Validator

variable {validator : Validator} {context : Context} {value : Text}

theorem value_check_blank (strips : validator.options.strip) (present : value ≠ [])
    (blank : ∀ c ∈ value, Text.isBlank c) : (validator.check context (some value)).value =
      validator.options.conclusion (validator.core context [] []).value := by
  rw [check_eq, Options.value_check, Options.value_consider_blank strips present blank,
    validator.value_core context value [] []]

theorem value_check_empty (refuses : validator.options.allowEmpty = false) :
    (validator.check context (some [])).value =
      validator.options.conclusion (.error validator.options.requirement.rejection) := by
  rw [check_eq, Options.value_check, Options.value_consider_empty refuses]

theorem check_empty_ne_ok (refuses : validator.options.allowEmpty = false)
    (undefaulted : ∀ usual, validator.options.requirement ≠ .substitute usual) :
    (validator.check context (some [])).value ≠ .ok value := by
  rw [value_check_empty refuses]
  cases requirement : validator.options.requirement with
  | substitute usual => exact absurd requirement (undefaulted usual)
  | _ => exact nofun

/-- A text that must not be empty is given out as the empty text if nothing but blanks was written,
and only then. -/
theorem check_text_eq_empty_iff {options : Options} (shape : validator = .simple options .text)
    (refuses : validator.options.allowEmpty = false) (strips : validator.options.strip)
    (sound : validator.options.invalid = false)
    (undefaulted : ∀ usual, validator.options.requirement ≠ .substitute usual)
    {raw : Option Text} :
    (validator.check context raw).value = .ok [] ↔
      ∃ written, raw = some written ∧ written ≠ [] ∧ ∀ c ∈ written, Text.isBlank c := by
  constructor
  · intro accepted
    obtain ⟨-, replaced | ⟨written, rfl, passed⟩⟩ := check_eq_ok accepted
    · exact absurd replaced (undefaulted [])
    have dropped : validator.options.looked written = [] := by
      subst shape
      exact Except.ok.inj (Simple.accept_of_core passed)
    rw [Options.looked, if_pos strips] at dropped
    refine ⟨written, rfl, ?_, Text.trim_eq_nil_iff.mp dropped⟩
    rintro rfl
    exact check_empty_ne_ok refuses undefaulted accepted
  · rintro ⟨written, rfl, present, blank⟩
    have empty : (validator.core context [] []).value = .ok [] := by
      rw [shape]
      rfl
    rw [value_check_blank strips present blank, empty, Options.conclusion_ok sound]

theorem check_url_blank {options : Options} {rule : UrlRule}
    (shape : validator = .simple options (.url rule)) (strips : validator.options.strip)
    (sound : validator.options.invalid = false) (present : value ≠ [])
    (blank : ∀ c ∈ value, Text.isBlank c) :
    (validator.check context (some value)).value =
      .ok (if rule.localOnly then "/" else "http://") := by
  have completed : (validator.core context [] []).value =
      .ok (if rule.localOnly then "/" else "http://") := by
    rw [shape]
    exact Simple.core_of_accept (rule.resolve_empty _)
  rw [value_check_blank strips present blank, completed, Options.conclusion_ok sound]

/-- Where an empty value does not count and blanks are dropped, a value of blanks comes to the same
as an empty value if and only if the kind refuses the empty text, or a refused value is replaced by
the same. A text is given out as the empty text if and only if nothing but blanks was written, and a
reference of blanks is completed to an address without a host. -/
theorem check_blank_iff (refuses : validator.options.allowEmpty = false)
    (strips : validator.options.strip) (present : value ≠ [])
    (blank : ∀ c ∈ value, Text.isBlank c) :
    ((validator.check context (some value)).value = (validator.check context (some [])).value ↔
      validator.RefusesEmpty context ∨ validator.Masks context) ∧
    (∀ options, validator = .simple options .text → validator.options.invalid = false →
      (∀ usual, validator.options.requirement ≠ .substitute usual) → ∀ raw,
        ((validator.check context raw).value = .ok [] ↔
          ∃ written, raw = some written ∧ written ≠ [] ∧ ∀ c ∈ written, Text.isBlank c)) ∧
    ∀ options rule, validator = .simple options (.url rule) → validator.options.invalid = false →
      (validator.check context (some value)).value =
        .ok (if rule.localOnly then "/" else "http://") := by
  refine ⟨?_, ?_, ?_⟩
  · have follows := fun rejection => validator.follows_core context [] [] rejection
    rw [value_check_blank strips present blank, value_check_empty refuses,
      Options.conclusion_eq_iff follows, declined_core_empty]
    rfl
  · intro options shape sound undefaulted raw
    exact check_text_eq_empty_iff shape refuses strips sound undefaulted
  · intro options rule shape sound
    exact check_url_blank shape strips sound present blank

/-- A width and a side. -/
def placed : Validator := complexOf [size, list ["left", "right"]]

theorem check_blank_iff_placed :
    placed.options.allowEmpty = false ∧ placed.options.strip ∧ size.options.allowEmpty = false ∧
    size.options.strip ∧ (" \n" : Text) ≠ [] ∧ (∀ c ∈ (" \n" : Text), Text.isBlank c) ∧
    (placed.check ⟨"p", "style", true, .detached⟩ (some " \n")).value = .error .absentOptional ∧
    (size.check ⟨"p", "width", true, .detached⟩ (some " \n")).value = .error .absentOptional := by
  have blank : ∀ c ∈ (" \n" : Text), Text.isBlank c := List.all_eq_true.mp rfl
  have present : (" \n" : Text) ≠ [] := by decide
  have noSlot : placed.RefusesEmpty ⟨"p", "style", true, .detached⟩ := by
    constructor
    · decide
    · decide
  have noDigit : size.RefusesEmpty ⟨"p", "width", true, .detached⟩ :=
    Grammar.matched?_ofShape_empty .size .size
  exact ⟨rfl, rfl, rfl, rfl, present, blank,
    (check_blank_iff rfl rfl present blank).1.mpr (.inl noSlot),
    (check_blank_iff rfl rfl present blank).1.mpr (.inl noDigit)⟩

/-- A text of one blank is given out as the empty text, which is refused. -/
theorem content_gives_out_empty :
    content.options.allowEmpty = false ∧ content.options.strip ∧ Text.isBlank ' ' ∧
    (content.check ⟨"p", "title", true, .detached⟩ (some " ")).value = .ok [] ∧
    (content.check ⟨"p", "title", true, .detached⟩ (some [])).value = .error .absentOptional := by
  decide

end Validator
end SafeMarkup
