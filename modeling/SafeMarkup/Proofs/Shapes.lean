import SafeMarkup.Proofs.Truncation
import SafeMarkup.Proofs.Lowercase
import SafeMarkup.Validator.Grammar

/-!
Contract: the built-in grammars of numbers, lengths, sizes and colors.

Owns: their patterns are plain, their sets hold no blanks and, where case is ignored, are respected
by lower-casing. So what a grammar matches it matches again, in any case that it ignores.

Does not own: which numbers a grammar matches.
-/

namespace SafeMarkup

/-! ## Sets -/

/-- Whether a set holds no blanks and, if case is to be ignored, is respected by lower-casing. -/
def CharSet.isFit (foldCase : Bool) (set : CharSet) : Bool :=
  set.apart Text.blankRanges && (!foldCase || set.keepsCase)

theorem CharSet.not_isBlank_of_isFit {foldCase : Bool} {set : CharSet} (fits : set.isFit foldCase)
    {c : Char} (member : set.member c) : Text.isBlank c = false := by
  simp only [CharSet.isFit, Bool.and_eq_true] at fits
  rw [← Text.member_blankRanges]
  exact Text.Ranges.not_both_of_apart fits.1 member

theorem CharSet.keepsCase_of_isFit {set : CharSet} (fits : set.isFit true) : set.keepsCase := by
  simp only [CharSet.isFit, Bool.and_eq_true, Bool.not_true, Bool.false_or] at fits
  exact fits.2

theorem CharSet.isFit_of_true {set : CharSet} (fits : set.isFit true) (foldCase : Bool) :
    set.isFit foldCase := by
  simp only [CharSet.isFit, Bool.and_eq_true, Bool.not_true, Bool.false_or] at fits ⊢
  exact ⟨fits.1, by simp [fits.2]⟩

namespace Grammar

/-- The letters of units and of the names of color functions, and the percent sign. -/
def letters : Text := "pxcmintexrgbhsla%"

def hexDigits : CharSet := .unions [.range '0' '9', .range 'a' 'f', .range 'A' 'F']

/-- A character in either case; there is a third form of one letter. -/
def eitherCase (c : Char) : CharSet :=
  .unions [.single c.toUpper, .single c, if c = 's' then .single '\u017f' else .single c]

theorem folded_letter {c : Char} (listed : c ∈ letters) :
    (CharSet.single c).folded = eitherCase c := by
  have alike : (letters.all fun c => (CharSet.single c).folded == eitherCase c) = true := by
    decide +kernel
  exact eq_of_beq (List.all_eq_true.mp alike c listed)

theorem folded_hexDigits : hexDigits.folded = hexDigits := by decide

/-- The sets of the built-in patterns are good: those of digits and of letters, in any case if case
is ignored, and those of some marks. -/
structure Alphabet (good : CharSet → Prop) (foldCase : Bool) (marks : Text) : Prop where
  digit : good .digits
  mark : ∀ mark ∈ marks, good (.single mark)
  letter : ∀ c ∈ letters, good (if foldCase then (CharSet.single c).folded else .single c)
  hexDigit : good (if foldCase then hexDigits.folded else hexDigits)

variable {good : CharSet → Prop} {foldCase : Bool} {marks : Text} {ended : Prop}

theorem plain_concat {patterns : List Pattern}
    (plain : ∀ pattern ∈ patterns, Pattern.Plain good ended pattern) :
    Pattern.Plain good ended (.concat patterns) := by
  induction patterns with
  | nil => exact .empty
  | cons first patterns inductionHypothesis =>
      obtain ⟨here, behind⟩ := List.forall_mem_cons.mp plain
      cases patterns with
      | nil => exact here
      | cons second patterns => exact .seq here (inductionHypothesis behind)

theorem plain_firstOf {patterns : List Pattern} (nonempty : patterns ≠ [])
    (plain : ∀ pattern ∈ patterns, Pattern.Plain good ended pattern) :
    Pattern.Plain good ended (.firstOf patterns) := by
  induction patterns with
  | nil => exact absurd rfl nonempty
  | cons first patterns inductionHypothesis =>
      obtain ⟨here, behind⟩ := List.forall_mem_cons.mp plain
      cases patterns with
      | nil => exact here
      | cons second patterns => exact .choice here (inductionHypothesis nofun behind)

namespace Alphabet

variable (alphabet : Alphabet good foldCase marks)

include alphabet

/-! ## Patterns of numbers -/

theorem plain_digits : Pattern.Plain good ended digits := .counted alphabet.digit

theorem plain_mark {mark : Char} (listed : mark ∈ marks) :
    Pattern.Plain good ended (.one (.single mark)) :=
  .one (alphabet.mark mark listed)

theorem plain_percent (listed : '%' ∈ marks) : Pattern.Plain good ended percent :=
  .optional (alphabet.plain_mark listed)

theorem plain_number (settings : GrammarSettings)
    (signed : settings.allowSign → Pattern.Plain good ended sign) :
    Pattern.Plain good ended (number settings) := by
  unfold number
  split_ifs with allowed
  · exact .seq (signed allowed) alphabet.plain_digits
  · exact alphabet.plain_digits

theorem plain_words {words : List Text} (nonempty : words ≠ [])
    (listed : ∀ word ∈ words, word ⊆ letters) :
    Pattern.Plain good ended (.firstOf (words.map (exactly foldCase))) := by
  refine plain_firstOf (mt List.map_eq_nil_iff.mp nonempty) ?_
  intro pattern member
  obtain ⟨word, inside, rfl⟩ := List.mem_map.mp member
  apply plain_concat
  intro pattern member
  obtain ⟨c, within, rfl⟩ := List.mem_map.mp member
  exact .one (alphabet.letter c (listed word inside within))

/-! ## Patterns of colors -/

theorem plain_channel (signed : Pattern.Plain good ended sign) (listed : '%' ∈ marks) :
    Pattern.Plain good ended channel := by
  apply plain_concat
  simp [signed, alphabet.plain_digits, alphabet.plain_percent listed]

theorem plain_fraction (listed : '.' ∈ marks) :
    Pattern.Plain good ended (.concat [.optional true digits, .one (.single '.'), digits]) := by
  apply plain_concat
  simp [Pattern.Plain.optional, alphabet.plain_digits, alphabet.plain_mark listed]

theorem plain_arguments (listed : ',' ∈ marks) {arguments : List Pattern}
    (plain : ∀ argument ∈ arguments, Pattern.Plain good ended argument) :
    Pattern.Plain good ended (.concat (arguments.intersperse (.one (.single ',')))) := by
  apply plain_concat
  induction arguments with
  | nil => exact nofun
  | cons first arguments inductionHypothesis =>
      obtain ⟨here, behind⟩ := List.forall_mem_cons.mp plain
      cases arguments with
      | nil => exact plain
      | cons second arguments =>
          exact List.forall_mem_cons.mpr ⟨here,
            List.forall_mem_cons.mpr ⟨alphabet.plain_mark listed, inductionHypothesis behind⟩⟩

theorem plain_call {names : List Text} {arguments : List Pattern} (nonempty : names ≠ [])
    (named : ∀ name ∈ names, name ⊆ letters) (listed : ['(', ',', ')'] ⊆ marks)
    (plain : ∀ argument ∈ arguments, Pattern.Plain good ended argument) :
    Pattern.Plain good ended (call foldCase names arguments) := by
  have words : Pattern.Plain good ended _ := alphabet.plain_words nonempty named
  have separated : Pattern.Plain good ended _ :=
    alphabet.plain_arguments (listed (by simp)) plain
  have opening : Pattern.Plain good ended _ := alphabet.plain_mark (listed (by simp : '(' ∈ _))
  have closing : Pattern.Plain good ended _ := alphabet.plain_mark (listed (by simp : ')' ∈ _))
  exact .seq words (.seq opening (.seq separated closing))

theorem plain_hexadecimal (listed : '#' ∈ marks) (count : Nat) :
    Pattern.Plain good ended (hexadecimal foldCase count) :=
  .seq (alphabet.plain_mark listed) (.counted alphabet.hexDigit)

theorem plain_color (signed : Pattern.Plain good ended sign)
    (listed : ("%.(,)#" : Text) ⊆ marks) : Pattern.Plain good ended (color foldCase) := by
  have channels : Pattern.Plain good ended channel :=
    alphabet.plain_channel signed (listed (by simp))
  have alphas : Pattern.Plain good ended alpha :=
    .choice (alphabet.plain_fraction (listed (by simp))) channels
  have hexadecimals count : Pattern.Plain good ended (hexadecimal foldCase count) :=
    alphabet.plain_hexadecimal (listed (by simp)) count
  have marked : ['(', ',', ')'] ⊆ marks := List.Subset.trans (by decide) listed
  refine .choice (alphabet.plain_call nofun (by decide) marked ?_)
    (.choice (alphabet.plain_call nofun (by decide) marked ?_)
      (.choice (hexadecimals 6) (hexadecimals 3)))
  · simp [channels]
  · simp [channels, alphas]

/-! ## Grammars -/

theorem plain_ofShapePattern (shape : Shape) {settings : GrammarSettings}
    (folds : (!settings.caseSensitive) = foldCase)
    (signed : shape = .color ∨ settings.allowSign → Pattern.Plain good ended sign)
    (listed : ("%.(,)#" : Text) ⊆ marks) :
    Pattern.Plain good ended (ofShapePattern shape settings) := by
  subst folds
  have numbers : Pattern.Plain good ended (number settings) :=
    alphabet.plain_number settings fun allowed => signed (.inr allowed)
  cases shape with
  | number => exact numbers
  | length => exact .seq numbers (alphabet.plain_percent (listed (by simp)))
  | size => exact .seq numbers (alphabet.plain_words nofun (by decide))
  | color => exact alphabet.plain_color (signed (.inl rfl)) listed

end Alphabet

variable {shape : Shape} {settings : GrammarSettings} {value found : Text}

/-- The marks of the grammars have no case. -/
theorem alphabet_isFit (foldCase : Bool) :
    Alphabet (fun set => set.isFit foldCase) foldCase "%.(,)#" := by
  have marked : (("%.(,)#" : Text).all fun mark => (CharSet.single mark).isFit true) = true := by
    decide
  have small : (letters.all fun c =>
      (CharSet.single c).isFit false && (eitherCase c).isFit true) = true := by
    decide +kernel
  have hexadecimal : hexDigits.isFit true := by decide
  constructor
  case digit => exact CharSet.isFit_of_true (by decide +kernel) foldCase
  case mark =>
    intro mark listed
    exact CharSet.isFit_of_true (List.all_eq_true.mp marked mark listed) foldCase
  case letter =>
    intro c listed
    have fits := List.all_eq_true.mp small c listed
    rw [Bool.and_eq_true] at fits
    cases foldCase with
    | true =>
        rw [if_pos rfl, folded_letter listed]
        exact fits.2
    | false => exact fits.1
  case hexDigit =>
    rw [folded_hexDigits, ite_self]
    exact CharSet.isFit_of_true hexadecimal foldCase

theorem isFit_signs (foldCase : Bool) :
    (CharSet.union (.single '+') (.single '-')).isFit foldCase :=
  CharSet.isFit_of_true (by decide) foldCase

/-- A pattern bound to the beginning of a value, and to its end unless garbage is trimmed. -/
def bound (pattern : Pattern) (settings : GrammarSettings) : Grammar :=
  ⟨if settings.trimGarbage then .seq (.assert .textStart) pattern
    else .seq (.seq (.assert .textStart) pattern) (.assert .textEnd), settings.removeBlanks⟩

theorem begins_bound (pattern : Pattern) (settings : GrammarSettings) :
    Pattern.Begins (bound pattern settings).pattern := by
  unfold bound
  cases settings.trimGarbage with
  | true => exact Pattern.begins_start.seq
  | false => exact Pattern.begins_start.seq.seq

theorem plain_bound {pattern : Pattern}
    (plain : Pattern.Plain good (settings.trimGarbage = false) pattern) :
    Pattern.Plain good (settings.trimGarbage = false) (bound pattern settings).pattern := by
  unfold bound
  split_ifs with trims
  · exact .seq .start plain
  · exact .seq (.seq .start plain) (.finish (eq_false_of_ne_true trims))

theorem plain_ofShape (shape : Shape) (settings : GrammarSettings) :
    Pattern.Plain (fun set => set.isFit (!settings.caseSensitive)) (settings.trimGarbage = false)
      (ofShape shape settings).pattern :=
  plain_bound <| (alphabet_isFit _).plain_ofShapePattern shape rfl
    (fun _ => .optional (.one (isFit_signs _))) (List.Subset.refl _)

theorem begins_ofShape (shape : Shape) (settings : GrammarSettings) :
    Pattern.Begins (ofShape shape settings).pattern :=
  begins_bound (ofShapePattern shape settings) settings

theorem ends_ofShape (whole : settings.trimGarbage = false) (place : Place) :
    ∀ stop ∈ (ofShape shape settings).pattern.ends place, stop.rest = [] := by
  intro stop member
  unfold ofShape at member
  rw [whole] at member
  obtain ⟨last, -, atEnd⟩ := List.mem_flatMap.mp (Place.mem_of_mem_distinct member)
  rw [Pattern.ends] at atEnd
  split_ifs at atEnd with ended
  · obtain rfl := List.mem_singleton.mp atEnd
    exact List.isEmpty_iff.mp ended
  · exact absurd atEnd List.not_mem_nil

theorem removeBlanks_eq_self {text : Text} (unblank : ∀ c ∈ text, Text.isBlank c = false) :
    Text.removeBlanks text = text :=
  List.filter_eq_self.mpr fun c member => by simp [unblank c member]

theorem candidate_eq_self (grammar : Grammar) {text : Text}
    (unblank : ∀ c ∈ text, Text.isBlank c = false) : grammar.candidate text = text := by
  unfold candidate
  split
  · exact removeBlanks_eq_self unblank
  · rfl

/-- What a built-in grammar matches holds no blanks, and characters whose case is kept apart where
case is ignored. -/
theorem mem_of_matched? (matched : (ofShape shape settings).matched? value = some found) :
    ∀ c ∈ found, Text.isBlank c = false ∧ (settings.caseSensitive = false → Text.KeepsCase c) := by
  have members : ∀ set : CharSet, set.isFit (!settings.caseSensitive) → ∀ c, set.member c →
      Text.isBlank c = false ∧ (settings.caseSensitive = false → Text.KeepsCase c) := by
    intro set fits c member
    refine ⟨CharSet.not_isBlank_of_isFit fits member, fun insensitive => ?_⟩
    rw [insensitive] at fits
    exact ⟨set, CharSet.keepsCase_of_isFit fits, member⟩
  obtain ⟨-, -, -, taken⟩ :=
    (plain_ofShape shape settings).find?_eq_some (begins_ofShape shape settings) members matched
  exact taken

/-- What a built-in grammar matches it matches as it is. -/
theorem matched?_found (matched : (ofShape shape settings).matched? value = some found) :
    (ofShape shape settings).matched? found = some found := by
  have unblank c member := (mem_of_matched? matched c member).1
  rw [Grammar.matched?, candidate_eq_self _ unblank]
  exact (plain_ofShape shape settings).find?_found (begins_ofShape shape settings) ends_ofShape
    (fun _ _ _ _ same => congrArg _ same) matched (List.forall₂_refl found)

/-- Where case is ignored, it matches it in any other case, too. -/
theorem matched?_of_toLower_eq (insensitive : settings.caseSensitive = false)
    (matched : (ofShape shape settings).matched? value = some found) {word : Text}
    (same : Text.toLower word = Text.toLower found) :
    (ofShape shape settings).matched? word = some word := by
  have keeps c member := (mem_of_matched? matched c member).2 insensitive
  have paired := Text.forall₂_of_toLower_eq keeps same
  have unblank : ∀ c ∈ word, Text.isBlank c = false := by
    intro c member
    obtain ⟨index, bound, rfl⟩ := List.getElem_of_mem member
    have foundBound : index < found.length := paired.length_eq ▸ bound
    have alike : Text.lowerChar found[index] = Text.lowerChar word[index] :=
      paired.get foundBound bound
    have source := (mem_of_matched? matched _ (List.getElem_mem foundBound)).1
    rw [← Text.isBlank_lowerChar, ← alike, Text.isBlank_lowerChar]
    exact source
  rw [Grammar.matched?, candidate_eq_self _ unblank]
  refine (plain_ofShape shape settings).find?_found (begins_ofShape shape settings) ends_ofShape
    ?_ matched paired
  intro set fits c d same
  rw [insensitive] at fits
  have keepsCase := CharSet.keepsCase_of_isFit fits
  have here := Text.Ranges.member_lowerChar keepsCase c
  have there := Text.Ranges.member_lowerChar keepsCase d
  calc set.member c = Text.Ranges.member set (Text.lowerChar c).toNat := here.symm
    _ = Text.Ranges.member set (Text.lowerChar d).toNat := by rw [same]
    _ = set.member d := there

end Grammar

end SafeMarkup
