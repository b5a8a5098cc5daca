import SafeMarkup.Proofs.Preference
import SafeMarkup.Validator.Grammar

/-!
Contract: numbers, lengths and sizes as a scanner reads them, from left to right and without going
back.

Owns: the foldings of the letters in units, the scanner, the form of a whole number, and that the
built-in grammars match what the scanner reads: its reading where garbage is trimmed, and otherwise
a whole number or nothing.

Does not own: colors.
-/

namespace SafeMarkup.Text

/-! ## Folding of letters -/

theorem CaseRun.image_eq_nil {run : CaseRun} {code : Nat} (steps : 0 < run.stride)
    (outside : code < run.first ∨ run.last < code) : run.image (code, code) = [] := by
  have next : code ≤ run.first +
      (code - run.first + run.stride - 1) / run.stride * run.stride := by
    have ceiling := Nat.lt_div_mul_add steps (a := code - run.first + run.stride - 1)
    omega
  have nowhere : min run.last code < run.first +
      (code - run.first + run.stride - 1) / run.stride * run.stride := by
    omega
  rw [image]
  exact if_pos nowhere

theorem CaseRun.images_eq_nil {runs : List CaseRun} {code : Nat}
    (outside : ∀ run ∈ runs, 0 < run.stride ∧ (code < run.first ∨ run.last < code)) :
    images runs [(code, code)] = [] := by
  rw [images, List.flatMap_eq_nil_iff]
  intro run member
  rw [List.flatMap_singleton]
  exact image_eq_nil (outside run member).1 (outside run member).2

/-- Whether a run holds no small letter of ASCII but the k or the s. -/
def CaseRun.sparesLetters (run : CaseRun) : Bool :=
  0 < run.stride && (128 ≤ run.first || (65 ≤ run.first && run.last ≤ 90) ||
    (run.first == run.last && (run.first == 107 || run.first == 115)))

set_option maxRecDepth 4000 in
theorem sparesLetters_foldings :
    (foldingRuns ++ foldingRuns.tail.map CaseRun.inverse).all CaseRun.sparesLetters = true := by
  decide

theorem outside_foldings {run : CaseRun}
    (member : run ∈ foldingRuns ++ foldingRuns.tail.map CaseRun.inverse) {code : Nat}
    (small : code = 37 ∨ 97 ≤ code ∧ code ≤ 122) (other : code ≠ 107 ∧ code ≠ 115) :
    0 < run.stride ∧ (code < run.first ∨ run.last < code) := by
  have spares := List.all_eq_true.mp sparesLetters_foldings run member
  simp only [CaseRun.sparesLetters, Bool.and_eq_true, Bool.or_eq_true, decide_eq_true_eq,
    beq_iff_eq] at spares
  omega

/-- The k and the s alone have foldings outside of ASCII. -/
theorem foldClosure_small {code : Nat} (small : code = 37 ∨ 97 ≤ code ∧ code ≤ 122)
    (other : code ≠ 107 ∧ code ≠ 115) : foldClosure [(code, code)] =
      if code = 37 then [(37, 37)] else [(code - 32, code - 32), (code, code)] := by
  have folded : CaseRun.images foldingRuns [(code, code)] = [] :=
    CaseRun.images_eq_nil fun run member =>
      outside_foldings (List.mem_append_left _ member) small other
  have unfolded : CaseRun.images (foldingRuns.tail.map CaseRun.inverse) [(code, code)] = [] :=
    CaseRun.images_eq_nil fun run member =>
      outside_foldings (List.mem_append_right _ member) small other
  have capitals : CaseRun.images (foldingRuns.map CaseRun.inverse) [(code, code)] =
      (CaseRun.inverse ⟨0x41, 0x5A, 1, 32⟩).image (code, code) := by
    have split : foldingRuns = ⟨0x41, 0x5A, 1, 32⟩ :: foldingRuns.tail := rfl
    rw [split, List.map_cons, CaseRun.images, List.flatMap_cons, List.flatMap_singleton]
    exact (congrArg _ unfolded).trans (List.append_nil _)
  rw [foldClosure, folded, List.append_nil, capitals]
  rcases small with rfl | ⟨low, high⟩
  · rfl
  · have image : (CaseRun.inverse ⟨0x41, 0x5A, 1, 32⟩).image (code, code) =
        [(code - 32, code - 32)] := by
      have small : CaseRun.inverse ⟨0x41, 0x5A, 1, 32⟩ = ⟨97, 122, 1, -32⟩ := rfl
      have first : 97 + (code - 97 + 1 - 1) / 1 * 1 = code := by omega
      have last : min 122 code = code := Nat.min_eq_right high
      have moved : ((code : Int) + -32).toNat = code - 32 := by omega
      rw [small, CaseRun.image]
      simp only [first, last, moved, Nat.lt_irrefl, if_false, if_true]
    have letter : code ≠ 37 := by omega
    have order : ¬code ≤ code - 32 := by omega
    have gap : ¬code ≤ code - 32 + 1 := by omega
    rw [image, if_neg letter]
    simp [Ranges.ordered, Ranges.insert, Ranges.joinFrom, order, gap]

end SafeMarkup.Text

namespace SafeMarkup.Grammar

open Pattern

/-! ## The scanner -/

/-- The units of sizes. -/
def units : List Text := ["px", "cm", "mm", "in", "pt", "pc", "em", "ex", "%"]

/-- A text as it is compared: in small letters of ASCII unless case counts. -/
def compared (caseSensitive : Bool) (text : Text) : Text :=
  if caseSensitive then text else Text.toAsciiLower text

/-- Whether a text begins with a word. -/
def begins (caseSensitive : Bool) (word text : Text) : Bool :=
  (compared caseSensitive word).isPrefixOf (compared caseSensitive text)

/-- The sign that a text begins with. -/
def signOf (settings : GrammarSettings) : Text → Text
  | [] => []
  | c :: _ => if settings.allowSign ∧ (c = '+' ∨ c = '-') then [c] else []

/-- The longest run of up to seven digits that a text begins with. -/
def digitsOf (text : Text) : Text := (text.takeWhile Text.isDecimalDigit).take 7

/-- The unit that a text begins with: the first of the list that fits. -/
def unitOf (shape : Shape) (settings : GrammarSettings) (text : Text) : Text :=
  match shape with
  | .length => if text.head? = some '%' then ['%'] else []
  | .size =>
    text.take ((units.find? fun unit => begins settings.caseSensitive unit text).getD []).length
  | _ => []

/-- The number that a text begins with: a sign, digits and a unit. -/
def scan (shape : Shape) (settings : GrammarSettings) (text : Text) : Option Text :=
  let sign := signOf settings text
  let digits := digitsOf (text.drop sign.length)
  if digits = [] then none
  else some (sign ++ digits ++ unitOf shape settings (text.drop (sign ++ digits).length))

/-- A text is a unit of a shape, or empty. -/
def IsUnit (shape : Shape) (settings : GrammarSettings) (text : Text) : Prop :=
  match shape with
  | .length => text = [] ∨ text = ['%']
  | .size => text = [] ∨ compared settings.caseSensitive text ∈ units
  | _ => text = []

/-- A text is a number and nothing else: perhaps a sign, one to seven digits, perhaps a unit. -/
def IsNumeral (shape : Shape) (settings : GrammarSettings) (text : Text) : Prop :=
  ∃ sign digits unit, text = sign ++ digits ++ unit ∧
    (sign = [] ∨ settings.allowSign ∧ (sign = ['+'] ∨ sign = ['-'])) ∧
    (1 ≤ digits.length ∧ digits.length ≤ 7 ∧ ∀ c ∈ digits, Text.isDecimalDigit c) ∧
    IsUnit shape settings unit

/-! ## Letters -/

theorem toNat_toLower (c : Char) :
    c.toLower.toNat = if 65 ≤ c.toNat ∧ c.toNat ≤ 90 then c.toNat + 32 else c.toNat := by
  unfold Char.toLower
  simp only [ge_iff_le, UInt32.le_iff_toNat_le]
  split
  case isTrue capital =>
    have capital : 65 ≤ c.toNat ∧ c.toNat ≤ 90 := capital
    rw [if_pos capital]
    have sum : (c.val + ('a'.val - 'A'.val)).toNat = (c.val.toNat + 32) % 2 ^ 32 :=
      UInt32.toNat_add _ _
    show (c.val + ('a'.val - 'A'.val)).toNat = c.val.toNat + 32
    have bound : c.val.toNat ≤ 90 := capital.2
    omega
  case isFalse other =>
    have other : ¬(65 ≤ c.toNat ∧ c.toNat ≤ 90) := other
    rw [if_neg other]

/-- The characters of units. -/
def unitCharacters : Text := "pxcmintexe%"

theorem code_of_unitCharacter {c : Char} (listed : c ∈ unitCharacters) :
    (c.toNat = 37 ∨ 97 ≤ c.toNat ∧ c.toNat ≤ 122) ∧ c.toNat ≠ 107 ∧ c.toNat ≠ 115 := by
  have codes : (unitCharacters.all fun c =>
      decide ((c.toNat = 37 ∨ 97 ≤ c.toNat ∧ c.toNat ≤ 122) ∧ c.toNat ≠ 107 ∧ c.toNat ≠ 115)) =
        true := by
    decide
  exact of_decide_eq_true (List.all_eq_true.mp codes c listed)

theorem toLower_of_unitCharacter {c : Char} (listed : c ∈ unitCharacters) : c.toLower = c := by
  have code := code_of_unitCharacter listed
  rw [← Char.toNat_inj, toNat_toLower, if_neg (by omega)]

/-- Whether two characters are the same, or the same but for case. -/
def sameLetter (caseSensitive : Bool) (c d : Char) : Bool :=
  if caseSensitive then c == d else c.toLower == d.toLower

theorem begins_cons (caseSensitive : Bool) (c d : Char) (word text : Text) :
    begins caseSensitive (c :: word) (d :: text) =
      (sameLetter caseSensitive c d && begins caseSensitive word text) := by
  cases caseSensitive <;> rfl

theorem member_single (c d : Char) : (CharSet.single c).member d = (c == d) := by
  have inside : (CharSet.single c).member d =
      (decide (c.toNat ≤ d.toNat) && decide (d.toNat ≤ c.toNat)) :=
    Bool.or_false _
  rw [inside, Bool.eq_iff_iff, Bool.and_eq_true, decide_eq_true_iff, decide_eq_true_iff, beq_iff_eq]
  constructor
  · intro both
    apply Char.toNat_inj.mp
    omega
  · rintro rfl
    exact ⟨Nat.le_refl _, Nat.le_refl _⟩

/-- The character of a unit, closed under case if case is ignored, stands for the characters that
are the same. -/
theorem member_unitCharacter {caseSensitive : Bool} {c : Char} (listed : c ∈ unitCharacters)
    (d : Char) :
    CharSet.member (if !caseSensitive then (CharSet.single c).folded else .single c) d =
      sameLetter caseSensitive c d := by
  cases caseSensitive with
  | true => exact member_single c d
  | false =>
      have small := code_of_unitCharacter listed
      have folded : (CharSet.single c).folded = if c.toNat = 37 then [(37, 37)]
          else [(c.toNat - 32, c.toNat - 32), (c.toNat, c.toNat)] :=
        Text.foldClosure_small small.1 small.2
      have lowered : sameLetter false c d = true ↔ c.toLower.toNat = d.toLower.toNat := by
        simp [sameLetter, Char.toNat_inj]
      rw [Bool.eq_iff_iff, lowered, toLower_of_unitCharacter listed, toNat_toLower]
      simp only [Bool.not_false, if_true, folded, CharSet.member, Text.Ranges.member]
      rcases small.1 with percent | ⟨low, high⟩
      · simp [percent]
        split_ifs <;> omega
      · have letter : c.toNat ≠ 37 := by omega
        simp [letter]
        split_ifs <;> omega

variable {settings : GrammarSettings} {caseSensitive : Bool}

theorem length_compared (text : Text) : (compared caseSensitive text).length = text.length := by
  cases caseSensitive with
  | true => rfl
  | false => exact List.length_map _

theorem compared_eq_nil {text : Text} : compared caseSensitive text = [] ↔ text = [] := by
  rw [← List.length_eq_zero_iff, length_compared, List.length_eq_zero_iff]

theorem sizeUnits_eq : sizeUnits = units ++ [[]] := rfl

theorem compared_sizeUnit {word : Text} (listed : word ∈ sizeUnits) :
    compared caseSensitive word = word := by
  have small : ∀ word ∈ sizeUnits, Text.toAsciiLower word = word := by decide
  cases caseSensitive with
  | true => rfl
  | false => exact small word listed

/-! ## Patterns -/

theorem digitsOf_prefix (text : Text) : digitsOf text <+: text :=
  (List.take_prefix _ _).trans (List.takeWhile_prefix _)

theorem leading?_digits (text : Text) :
    ((leading? CharSet.digits text).map fun _ => digitsOf text) =
      if digitsOf text = [] then none else some (digitsOf text) := by
  cases text with
  | nil => rfl
  | cons c rest =>
      rw [leading?]
      by_cases digit : Text.isDecimalDigit c
      · have member : CharSet.digits.member c := digit
        simp [digitsOf, digit, member]
      · have other : ¬CharSet.digits.member c := digit
        simp [digitsOf, digit, other]

theorem scans_digits : Scans digits fun text =>
    if digitsOf text = [] then none else some (digitsOf text) :=
  (scans_counted CharSet.digits 6).congr leading?_digits

theorem first?_digits_of_sign {place : Place} {c : Char} {rest : Text}
    (split : place.rest = c :: rest) (sign : c = '+' ∨ c = '-') : first? digits place = none := by
  have other : Text.isDecimalDigit c = false := by rcases sign with rfl | rfl <;> rfl
  have reached := scans_digits.ends place
  simpa [split, digitsOf, other] using reached

theorem member_signs (c : Char) :
    (CharSet.union (.single '+') (.single '-')).member c ↔ c = '+' ∨ c = '-' := by
  have ranges : CharSet.union (.single '+') (.single '-') = [(43, 43), (45, 45)] := by decide
  have same (d : Char) : c = d ↔ d.toNat ≤ c.toNat ∧ c.toNat ≤ d.toNat := by
    rw [← Char.toNat_inj]
    omega
  rw [same '+', same '-', ranges]
  simp [CharSet.member, Text.Ranges.member]

theorem scans_sign (signed : settings.allowSign) :
    Scans sign fun text => some (signOf settings text) := by
  refine (scans_one _).optional.congr ?_
  intro text
  cases text with
  | nil => rfl
  | cons c rest =>
      simp only [leading?, member_signs, signOf, signed, true_and]
      split_ifs <;> rfl

/-- Where no digit follows a sign, none follows the place before the sign. -/
theorem first?_sign_digits (place : Place) :
    first? (.seq sign digits) place = (first? sign place).bind (first? digits) := by
  rw [first?_seq, first?, sign, ends_optional]
  cases rest : place.rest with
  | nil => simp [ends_one_of_nil rest, Place.distinct]
  | cons c behind =>
      rw [ends_one_of_cons rest]
      split_ifs with signed
      · have nowhere : first? digits place = none :=
          first?_digits_of_sign rest ((member_signs c).mp signed)
        rw [List.singleton_append, Place.distinct_eq, Place.distinctFrom, if_neg (by simp),
          Place.distinctFrom]
        split_ifs
        · simp [Place.distinctFrom]
        · cases further : first? digits { before := some c, rest := behind } with
          | none => simp [Place.distinctFrom, nowhere, further]
          | some stop => simp [Place.distinctFrom, further]
      · simp [Place.distinct]

theorem scans_number (settings : GrammarSettings) : Scans (number settings) fun text =>
    if digitsOf (text.drop (signOf settings text).length) = [] then none
    else some (signOf settings text ++ digitsOf (text.drop (signOf settings text).length)) := by
  cases allowed : settings.allowSign with
  | false =>
      have bare (text : Text) : signOf settings text = [] := by
        cases text <;> simp [signOf, allowed]
      rw [number, allowed, if_neg Bool.false_ne_true]
      refine scans_digits.congr ?_
      intro text
      simp [bare]
  | true =>
      have signs := scans_sign allowed
      rw [number, allowed, if_pos rfl]
      constructor
      · intro place
        obtain ⟨middle, ended, split⟩ : ∃ middle, first? sign place = some middle ∧
            middle.rest = place.rest.drop (signOf settings place.rest).length := by
          simpa [Option.map_eq_some_iff] using signs.ends place
        have reached := scans_digits.ends middle
        rw [first?_sign_digits, ended, Option.bind_some, reached, split]
        split_ifs
        · rfl
        · simp [List.drop_drop]
      · intro text front told
        split_ifs at told
        obtain rfl := Option.some.inj told
        have split := List.prefix_iff_eq_append.mp (signs.begins text _ rfl)
        have behind := digitsOf_prefix (text.drop (signOf settings text).length)
        have inFront := (List.prefix_append_right_inj (signOf settings text)).mpr behind
        rwa [split] at inFront

/-- A word is taken where a text begins with it. -/
theorem scans_exactly {word : Text} (listed : word ⊆ unitCharacters) :
    Scans (exactly (!caseSensitive) word) fun text =>
      if begins caseSensitive word text then some (text.take word.length) else none := by
  constructor
  · intro place
    induction word generalizing place with
    | nil =>
        have always : begins caseSensitive [] place.rest = true := by cases caseSensitive <;> rfl
        rw [always]
        rfl
    | cons c word inductionHypothesis =>
        obtain ⟨here, behind⟩ := List.cons_subset.mp listed
        rw [exactly, List.map_cons, first?_concat_cons, oneOf]
        cases rest : place.rest with
        | nil =>
            rw [ends_one_of_nil rest]
            cases caseSensitive <;> rfl
        | cons d text =>
            rw [ends_one_of_cons rest, member_unitCharacter here, begins_cons]
            cases sameLetter caseSensitive c d with
            | true =>
                have further := inductionHypothesis behind { before := some d, rest := text }
                rw [exactly] at further
                simpa using further
            | false => rfl
  · intro text front told
    split_ifs at told
    obtain rfl := Option.some.inj told
    exact List.take_prefix _ _

/-- Of some words the first one is taken that a text begins with. -/
theorem scans_words {words : List Text} (listed : ∀ word ∈ words, word ⊆ unitCharacters) :
    Scans (.firstOf (words.map (exactly (!caseSensitive)))) fun text =>
      (words.find? fun word => begins caseSensitive word text).map fun word =>
        text.take word.length := by
  constructor
  · intro place
    rw [first?_firstOf, List.findSome?_map]
    induction words with
    | nil => rfl
    | cons word words inductionHypothesis =>
        obtain ⟨here, behind⟩ := List.forall_mem_cons.mp listed
        have scans : Scans (exactly (!caseSensitive) word) _ := scans_exactly here
        have reached := scans.ends place
        rw [List.findSome?_cons, List.find?_cons]
        cases taken : begins caseSensitive word place.rest with
        | true =>
            obtain ⟨stop, ended, further⟩ : ∃ stop,
                first? (exactly (!caseSensitive) word) place = some stop ∧
                  stop.rest = place.rest.drop (place.rest.take word.length).length := by
              simpa [taken, Option.map_eq_some_iff] using reached
            simp [ended, further]
        | false =>
            have none : first? (exactly (!caseSensitive) word) place = none := by
              simpa [taken] using reached
            simpa [none] using inductionHypothesis behind
  · intro text front told
    obtain ⟨word, -, rfl⟩ := Option.map_eq_some_iff.mp told
    exact List.take_prefix _ _

theorem scans_percent (settings : GrammarSettings) :
    Scans percent fun text => some (unitOf .length settings text) := by
  refine (scans_one _).optional.congr ?_
  intro text
  cases text with
  | nil => rfl
  | cons c rest =>
      simp only [leading?, member_single, unitOf, List.head?_cons, Option.some.injEq, beq_iff_eq]
      by_cases same : c = '%'
      · simp [same]
      · simp [same, Ne.symm same]

/-- The last of the units is empty, so that one of them is always taken. -/
theorem scans_units : Scans (.firstOf (sizeUnits.map (exactly (!settings.caseSensitive))))
    fun text => some (unitOf .size settings text) := by
  have listed : ∀ word ∈ sizeUnits, word ⊆ unitCharacters := by decide
  refine (scans_words listed).congr ?_
  intro text
  have always : begins settings.caseSensitive [] text = true := by
    cases settings.caseSensitive <;> rfl
  rw [sizeUnits_eq, List.find?_append, unitOf]
  cases units.find? fun unit => begins settings.caseSensitive unit text with
  | none => simp [always]
  | some unit => rfl

/-! ## The built-in grammars -/

variable {shape : Shape}

theorem scans_ofShapePattern (numeric : shape ≠ .color) :
    Scans (ofShapePattern shape settings) (scan shape settings) := by
  cases shape with
  | number =>
      refine (scans_number settings).congr ?_
      intro text
      rw [scan]
      split_ifs
      · rfl
      · simp [unitOf]
  | length =>
      refine ((scans_number settings).seq (scans_percent settings)).congr ?_
      intro text
      rw [scan]
      split_ifs <;> rfl
  | size =>
      refine ((scans_number settings).seq scans_units).congr ?_
      intro text
      rw [scan]
      split_ifs <;> rfl
  | color => exact absurd rfl numeric

theorem takes_number (settings : GrammarSettings) : Takes (number settings) fun front =>
    ∃ sign digits, front = sign ++ digits ∧
      (sign = [] ∨ settings.allowSign ∧ (sign = ['+'] ∨ sign = ['-'])) ∧
      (1 ≤ digits.length ∧ digits.length ≤ 7 ∧ ∀ c ∈ digits, Text.isDecimalDigit c) := by
  have takesDigits : Takes digits fun front =>
      1 ≤ front.length ∧ front.length ≤ 7 ∧ ∀ c ∈ front, Text.isDecimalDigit c :=
    takes_counted (by decide) CharSet.digits
  rw [number]
  split_ifs with allowed
  · have takesSign : Takes sign fun front =>
        front = [] ∨ settings.allowSign ∧ (front = ['+'] ∨ front = ['-']) := by
      refine (takes_one _).optional.mono ?_
      rintro front (rfl | ⟨c, rfl, member⟩)
      · exact .inl rfl
      · rcases (member_signs c).mp member with rfl | rfl
        · exact .inr ⟨allowed, .inl rfl⟩
        · exact .inr ⟨allowed, .inr rfl⟩
    exact takesSign.seq takesDigits
  · refine takesDigits.mono ?_
    intro front formed
    exact ⟨[], front, rfl, .inl rfl, formed⟩

theorem takes_exactly {word : Text} (listed : word ⊆ unitCharacters) :
    Takes (exactly (!caseSensitive) word) fun front =>
      compared caseSensitive front = compared caseSensitive word := by
  induction word with
  | nil =>
      refine takes_empty.mono ?_
      rintro front rfl
      rfl
  | cons c word inductionHypothesis =>
      obtain ⟨here, behind⟩ := List.cons_subset.mp listed
      refine ((takes_one _).concat_cons (inductionHypothesis behind)).mono ?_
      rintro front ⟨-, other, rfl, ⟨d, rfl, member⟩, same⟩
      rw [member_unitCharacter here] at member
      cases caseSensitive with
      | true => simp_all [sameLetter, compared]
      | false => simp_all [sameLetter, compared, Text.toAsciiLower]

theorem takes_units : Takes (.firstOf (sizeUnits.map (exactly (!settings.caseSensitive))))
    (IsUnit .size settings) := by
  have listed : ∀ word ∈ sizeUnits, word ⊆ unitCharacters := by decide
  apply takes_firstOf
  intro pattern member
  obtain ⟨word, inside, rfl⟩ := List.mem_map.mp member
  refine (takes_exactly (listed word inside)).mono ?_
  intro front same
  rw [compared_sizeUnit inside] at same
  rw [sizeUnits_eq] at inside
  rcases List.mem_append.mp inside with unit | last
  · exact .inr (same ▸ unit)
  · rw [List.mem_singleton.mp last, compared_eq_nil] at same
    exact .inl same

theorem takes_ofShapePattern (numeric : shape ≠ .color) :
    Takes (ofShapePattern shape settings) (IsNumeral shape settings) := by
  cases shape with
  | number =>
      refine (takes_number settings).mono ?_
      rintro front ⟨sign, digits, rfl, signed, counted⟩
      exact ⟨sign, digits, [], (List.append_nil _).symm, signed, counted, rfl⟩
  | length =>
      have takesPercent : Takes percent (IsUnit .length settings) := by
        refine (takes_one _).optional.mono ?_
        rintro front (rfl | ⟨c, rfl, member⟩)
        · exact .inl rfl
        · rw [member_single, beq_iff_eq] at member
          exact .inr (by rw [member])
      refine ((takes_number settings).seq takesPercent).mono ?_
      rintro - ⟨-, unit, rfl, ⟨sign, digits, rfl, signed, counted⟩, measured⟩
      exact ⟨sign, digits, unit, rfl, signed, counted, measured⟩
  | size =>
      refine ((takes_number settings).seq takes_units).mono ?_
      rintro - ⟨-, unit, rfl, ⟨sign, digits, rfl, signed, counted⟩, measured⟩
      exact ⟨sign, digits, unit, rfl, signed, counted, measured⟩
  | color => exact absurd rfl numeric

/-! ## Numbers read back -/

/-- A digit of ASCII has one of ten codes, so that no character of a unit is one in any case. -/
theorem not_isDecimalDigit_of_sameLetter {c d : Char} (listed : c ∈ unitCharacters)
    (same : sameLetter caseSensitive c d) : Text.isDecimalDigit d = false := by
  have lowered : c.toLower.toNat = d.toLower.toNat := by
    cases caseSensitive with
    | true => rw [show c = d from beq_iff_eq.mp same]
    | false => rw [show c.toLower = d.toLower from beq_iff_eq.mp same]
  have others : (Text.decimalDigits.tail.all fun range => 128 ≤ range.1) = true := by decide
  have code := code_of_unitCharacter listed
  rw [toNat_toLower, toNat_toLower] at lowered
  have outside : d.toNat < 48 ∨ 57 < d.toNat := by split_ifs at lowered <;> omega
  have low : d.toNat < 128 := by split_ifs at lowered <;> omega
  have split : Text.decimalDigits = (48, 57) :: Text.decimalDigits.tail := rfl
  rw [Text.isDecimalDigit, split, Text.Ranges.member, List.any_cons, Bool.or_eq_false_iff]
  constructor
  · have above : 48 ≤ d.toNat → 57 < d.toNat := by omega
    simpa using above
  · rw [List.any_eq_false]
    intro range member
    have first := of_decide_eq_true (List.all_eq_true.mp others range member)
    have above : range.1 ≤ d.toNat → range.2 < d.toNat := by omega
    simpa using above

/-- A unit does not begin with a digit. -/
theorem not_isDecimalDigit_of_isUnit {c : Char} {rest : Text}
    (measured : IsUnit shape settings (c :: rest)) : Text.isDecimalDigit c = false := by
  cases shape with
  | length =>
      rcases measured with none | percent
      · exact absurd none nofun
      · obtain rfl := (List.cons.inj percent).1
        decide
  | size =>
      have listed : ∀ unit ∈ units, unit ⊆ unitCharacters := by decide
      rcases measured with none | unit
      · exact absurd none nofun
      · cases sensitive : settings.caseSensitive with
        | true =>
            rw [sensitive] at unit
            have here : c ∈ unitCharacters := listed _ unit List.mem_cons_self
            have same : sameLetter true c c := beq_self_eq_true c
            exact not_isDecimalDigit_of_sameLetter here same
        | false =>
            rw [sensitive] at unit
            have here : c.toLower ∈ unitCharacters := listed _ unit List.mem_cons_self
            have same : sameLetter false c.toLower c :=
              beq_iff_eq.mpr (toLower_of_unitCharacter here)
            exact not_isDecimalDigit_of_sameLetter here same
  | number => exact absurd measured nofun
  | color => exact absurd measured nofun

theorem signOf_append {sign behind : Text}
    (signed : sign = [] ∨ settings.allowSign ∧ (sign = ['+'] ∨ sign = ['-']))
    (next : ∀ c ∈ behind.head?, Text.isDecimalDigit c) :
    signOf settings (sign ++ behind) = sign := by
  rcases signed with rfl | ⟨allowed, rfl | rfl⟩
  · cases behind with
    | nil => rfl
    | cons c rest =>
        have digit : Text.isDecimalDigit c := next c rfl
        have unsigned : ¬(c = '+' ∨ c = '-') := by
          rintro (rfl | rfl) <;> exact absurd digit (by decide)
        simp [signOf, unsigned]
  · simp [signOf, allowed]
  · simp [signOf, allowed]

theorem digitsOf_append {digits unit : Text} (few : digits.length ≤ 7)
    (all : ∀ c ∈ digits, Text.isDecimalDigit c) (measured : IsUnit shape settings unit) :
    digitsOf (digits ++ unit) = digits := by
  have stops : unit.takeWhile Text.isDecimalDigit = [] := by
    cases unit with
    | nil => rfl
    | cons c rest => simp [not_isDecimalDigit_of_isUnit measured]
  rw [digitsOf, List.takeWhile_append_of_pos all, stops, List.append_nil,
    List.take_of_length_le few]

theorem unitOf_of_isUnit {unit : Text} (measured : IsUnit shape settings unit) :
    unitOf shape settings unit = unit := by
  cases shape with
  | length =>
      rcases measured with rfl | rfl
      · rfl
      · rfl
  | size =>
      have same (text : Text) :
          units.find? (fun other => begins settings.caseSensitive other text) =
            units.find? (fun other => other.isPrefixOf (compared settings.caseSensitive text)) := by
        rw [← List.head?_filter, ← List.head?_filter]
        apply congrArg
        apply List.filter_congr
        intro other listed
        rw [begins, compared_sizeUnit (List.mem_append_left _ listed)]
      have itself : ∀ unit ∈ units,
          units.find? (fun other => other.isPrefixOf unit) = some unit := by
        decide
      rw [unitOf, same]
      rcases measured with rfl | listed
      · exact List.take_nil
      · rw [itself _ listed, Option.getD_some, length_compared, List.take_length]
  | number => exact measured.symm
  | color => exact measured.symm

/-- The scanner reads the whole of a number. -/
theorem scan_of_isNumeral {text : Text} (numeral : IsNumeral shape settings text) :
    scan shape settings text = some text := by
  obtain ⟨sign, digits, unit, rfl, signed, ⟨least, few, all⟩, measured⟩ := numeral
  have some : digits ≠ [] := List.length_pos_iff.mp least
  have signs : signOf settings (sign ++ (digits ++ unit)) = sign := by
    refine signOf_append signed ?_
    rw [List.head?_append_of_ne_nil _ some]
    intro c first
    exact all c (List.mem_of_head? first)
  have numbers := digitsOf_append few all measured
  simp [scan, signs, numbers, some, unitOf_of_isUnit measured]

theorem exists_end_of_scan (numeric : shape ≠ .color) {text : Text}
    (read : scan shape settings text = some text) :
    ∃ stop ∈ ends (ofShapePattern shape settings) (Place.start text), stop.rest = [] := by
  have scans : Scans (ofShapePattern shape settings) _ := scans_ofShapePattern numeric
  obtain ⟨stop, ended, rest⟩ : ∃ stop,
      first? (ofShapePattern shape settings) (Place.start text) = some stop ∧ stop.rest = [] := by
    simpa [Place.start, read, Option.map_eq_some_iff] using scans.ends (Place.start text)
  exact ⟨stop, List.mem_of_head? ended, rest⟩

theorem isNumeral_of_end (numeric : shape ≠ .color) {text : Text} {stop : Place}
    (member : stop ∈ ends (ofShapePattern shape settings) (Place.start text))
    (rest : stop.rest = []) : IsNumeral shape settings text := by
  obtain ⟨front, split, numeral⟩ := takes_ofShapePattern numeric (Place.start text) stop member
  obtain rfl : text = front := by simpa [Place.start, rest] using split
  exact numeral

theorem scan_eq_self_iff (numeric : shape ≠ .color) {text : Text} :
    scan shape settings text = some text ↔ IsNumeral shape settings text := by
  constructor
  · intro read
    obtain ⟨stop, member, rest⟩ := exists_end_of_scan numeric read
    exact isNumeral_of_end numeric member rest
  · exact scan_of_isNumeral

/-! ## Matches -/

/-- A built-in grammar of numbers gives out what the scanner reads from the front of a value. Where
garbage is not trimmed it gives out the whole value if the scanner reads all of it, that is, if the
value is a number and nothing else. -/
theorem matched?_scan (settings : GrammarSettings) (value : Text) {shape : Shape}
    (numeric : shape ≠ .color) :
    let text := if settings.removeBlanks then Text.removeBlanks value else value
    (ofShape shape settings).matched? value =
        (if settings.trimGarbage then scan shape settings text
        else if scan shape settings text = some text then some text else none) ∧
      (∀ front, scan shape settings text = some front → front <+: text) ∧
      (scan shape settings text = some text ↔ IsNumeral shape settings text) := by
  intro text
  have scans : Scans (ofShapePattern shape settings) _ := scans_ofShapePattern numeric
  refine ⟨?_, scans.begins text, scan_eq_self_iff numeric⟩
  have matched : (ofShape shape settings).matched? value =
      find? (ofShape shape settings).pattern text := rfl
  cases trims : settings.trimGarbage with
  | true =>
      have begun : (ofShape shape settings).pattern =
          .seq (.assert .textStart) (ofShapePattern shape settings) := by
        simp [ofShape, trims]
      rw [matched, begun, if_pos rfl]
      exact scans.find?_eq text
  | false =>
      have bound : (ofShape shape settings).pattern =
          .seq (.seq (.assert .textStart) (ofShapePattern shape settings)) (.assert .textEnd) := by
        simp [ofShape, trims]
      rw [matched, bound, if_neg Bool.false_ne_true]
      apply Option.ext
      intro found
      rw [find?_whole]
      split_ifs with read
      · constructor
        · rintro ⟨rfl, -⟩
          rfl
        · rintro same
          obtain rfl := Option.some.inj same
          exact ⟨rfl, exists_end_of_scan numeric read⟩
      · constructor
        · rintro ⟨-, stop, member, rest⟩
          exact absurd (scan_of_isNumeral (isNumeral_of_end numeric member rest)) read
        · exact nofun

/-- Of a size in capitals with blanks in it and garbage behind it the size is kept. -/
theorem matched?_scan_size : Shape.size ≠ .color ∧
    (ofShape .size .size).matched? "-1 0 PX;" = some "-10PX" ∧
    (ofShape .size { GrammarSettings.size with trimGarbage := false }).matched? "-1 0 PX;" = none :=
  ⟨by decide, (matched?_scan .size "-1 0 PX;" (by decide)).1.trans (by decide),
    (matched?_scan { GrammarSettings.size with trimGarbage := false } "-1 0 PX;"
      (by decide)).1.trans (by decide)⟩

end SafeMarkup.Grammar
