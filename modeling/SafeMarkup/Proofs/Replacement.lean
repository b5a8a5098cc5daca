import SafeMarkup.Proofs.PlainText

/-!
Contract: escaping and unescaping undo each other.

Owns: replacing single characters by texts one after another, and when that is the same as replacing
them all at once; and that escaping and unescaping, which are such replacements in opposite orders,
are inverse to each other.

Does not own: which texts are escaped when.
-/

namespace SafeMarkup

/-! ## Characters replaced in turn -/

/-- Text with the text of its entry in the place of each character of a table, one entry after
another. -/
def writeInTurn (table : List (Char × Text)) (text : Text) : Text :=
  table.foldl (fun text (mark, written) => Text.replaceAll [mark] written text) text

/-- Text with the character of its entry in the place of each text of a table, one entry after
another. -/
def readInTurn (table : List (Char × Text)) (text : Text) : Text :=
  table.foldl (fun text (mark, written) => Text.replaceAll written [mark] text) text

/-- What a character is written as by a table. -/
def writtenBy (table : List (Char × Text)) (c : Char) : Text := (table.lookup c).getD [c]

theorem writtenBy_nil (c : Char) : writtenBy [] c = [c] := rfl

theorem writtenBy_cons (mark : Char) (written : Text) (table : List (Char × Text)) (c : Char) :
    writtenBy ((mark, written) :: table) c = if c = mark then written else writtenBy table c := by
  by_cases same : c = mark
  · subst same
    rw [if_pos rfl, writtenBy, List.lookup_cons_self]
    rfl
  · have other : (c == mark) = false := beq_false_of_ne same
    rw [if_neg same, writtenBy, List.lookup_cons, other]
    rfl

theorem replaceAll_singleton (mark : Char) (written text : Text) :
    Text.replaceAll [mark] written text =
      text.flatMap fun c => if c = mark then written else [c] := by
  unfold Text.replaceAll
  induction text with
  | nil => rfl
  | cons c rest inductionHypothesis =>
      rw [Text.replaceFrom, List.flatMap_cons]
      by_cases same : c = mark
      · have begins : ([mark].isPrefixOf (c :: rest)) = true := by simp [same]
        rw [if_pos begins, if_pos same]
        exact congrArg (written ++ ·) inductionHypothesis
      · have other : ¬([mark].isPrefixOf (c :: rest)) = true := by simpa using Ne.symm same
        rw [if_neg other, if_neg same, inductionHypothesis]
        rfl

theorem flatMap_writtenBy_of_absent {table : List (Char × Text)} {text : Text}
    (absent : ∀ entry ∈ table, entry.1 ∉ text) : text.flatMap (writtenBy table) = text := by
  induction text with
  | nil => rfl
  | cons c rest inductionHypothesis =>
      have unlisted : table.lookup c = none := by
        refine List.lookup_eq_none_iff.mpr fun entry member => ?_
        have other : entry.1 ≠ c := by
          rintro rfl
          exact absent entry member List.mem_cons_self
        simpa using Ne.symm other
      have behind : ∀ entry ∈ table, entry.1 ∉ rest := fun entry member inside =>
        absent entry member (List.mem_cons_of_mem _ inside)
      rw [List.flatMap_cons, inductionHypothesis behind, writtenBy, unlisted]
      rfl

/-- If no text of a table holds a character that is replaced later, replacing in turn is replacing
all at once. -/
theorem writeInTurn_eq {table : List (Char × Text)}
    (later : table.Pairwise fun first second => second.1 ∉ first.2) (text : Text) :
    writeInTurn table text = text.flatMap (writtenBy table) := by
  induction table generalizing text with
  | nil => exact (List.flatMap_singleton' text).symm
  | cons entry table inductionHypothesis =>
      obtain ⟨mark, written⟩ := entry
      obtain ⟨absent, laterBehind⟩ := List.pairwise_cons.mp later
      have first : writeInTurn ((mark, written) :: table) text =
          writeInTurn table (Text.replaceAll [mark] written text) := rfl
      rw [first, inductionHypothesis laterBehind, replaceAll_singleton, List.flatMap_assoc]
      refine List.flatMap_congr fun c _ => ?_
      rw [writtenBy_cons]
      by_cases same : c = mark
      · rw [if_pos same, if_pos same, flatMap_writtenBy_of_absent absent]
      · rw [if_neg same, if_neg same, List.flatMap_singleton]

/-! ## Special characters -/

/-- Special characters with their entities, in the order in which they are replaced. The ampersand
comes first: those of the other entities are not written again. -/
def entityTable : List (Char × Text) :=
  [('&', "&amp;"), ('"', "&quot;"), ('\'', "&apos;"), ('<', "&lt;"), ('>', "&gt;")]

theorem writtenBy_entityTable (c : Char) : writtenBy entityTable c = escapeChar c := by
  simp only [entityTable, writtenBy_cons, writtenBy_nil]
  rfl

/-- Escaping in one pass is escaping in turn. -/
theorem writeInTurn_entityTable (text : Text) : writeInTurn entityTable text = escapeText text := by
  have later : entityTable.Pairwise fun first second => second.1 ∉ first.2 := by decide
  rw [writeInTurn_eq later, escapeText, funext writtenBy_entityTable]

/-- Unescaping in one pass is unescaping in turn, in the opposite order. -/
theorem readInTurn_entityTable (text : Text) :
    readInTurn entityTable.reverse text = unescapeText text := by
  rw [← unescapeInTurn_eq]
  rfl

theorem WellEscaped.escapeText_unescapeText {text : Text} (escaped : WellEscaped text) :
    SafeMarkup.escapeText (unescapeText text) = text := by
  obtain ⟨raw, rfl⟩ := wellEscaped_iff.mp escaped
  rw [unescapeText_escapeText]

/-- Escaping gives out well-escaped texts and unescaping reads them back; of a well-escaped text
escaping gives back what unescaping read; and no entity reaches over the end of a well-escaped text.
Both are the replacements of the special characters one after another, forwards and backwards. -/
theorem escape_unescape_inverse :
    (∀ raw, WellEscaped (escapeText raw) ∧ unescapeText (escapeText raw) = raw) ∧
    (∀ text, WellEscaped text → escapeText (unescapeText text) = text) ∧
    (∀ left right, WellEscaped left → WellEscaped right →
      unescapeText (left ++ right) = unescapeText left ++ unescapeText right) ∧
    ∀ text, escapeText text = writeInTurn entityTable text ∧
      unescapeText text = readInTurn entityTable.reverse text := by
  refine ⟨fun raw => ⟨.escapeText raw, unescapeText_escapeText raw⟩,
    fun text escaped => escaped.escapeText_unescapeText,
    fun left right escaped _ => escaped.unescapeText_append right, fun text => ?_⟩
  exact ⟨(writeInTurn_entityTable text).symm, (readInTurn_entityTable text).symm⟩

theorem escape_unescape_inverse_nested :
    WellEscaped "&amp;amp;gt;" ∧ WellEscaped "&lt;" ∧
      escapeText (unescapeText "&amp;amp;gt;") = "&amp;amp;gt;" ∧
      unescapeText ("&amp;amp;gt;" ++ "&lt;") = "&amp;gt;<" := by
  have nested : WellEscaped "&amp;amp;gt;" := wellEscaped_iff.mpr ⟨"&amp;gt;", rfl⟩
  have less : WellEscaped "&lt;" := wellEscaped_iff.mpr ⟨"<", rfl⟩
  obtain ⟨-, rewrites, joins, -⟩ := escape_unescape_inverse
  refine ⟨nested, less, rewrites _ nested, ?_⟩
  exact (joins _ _ nested less).trans rfl

end SafeMarkup
