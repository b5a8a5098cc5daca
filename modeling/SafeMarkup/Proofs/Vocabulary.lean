import SafeMarkup.Proofs.Lowercase
import SafeMarkup.Validator.Basic

/-!
Contract: the spellings that a vocabulary gives out.

Owns: a spelling is found again as it is, is the value but for case, and has blanks at its ends only
if the value has.

Does not own: what the words of a vocabulary are.
-/

namespace SafeMarkup

namespace Vocabulary

variable {vocabulary : Vocabulary} {value given : Text}

theorem find?_of_lookup? (sensitive : vocabulary.caseSensitive)
    (found : vocabulary.lookup? value = some given) : given = value ∧ value ∈ vocabulary.words := by
  rw [lookup?, if_pos sensitive] at found
  obtain rfl : given = value := by simpa using List.find?_some found
  exact ⟨rfl, List.mem_of_find?_eq_some found⟩

/-- Where case does not count, some word is the value but for case, and the spelling is that of the
word or that of the value. -/
theorem exists_word_of_lookup? (insensitive : vocabulary.caseSensitive = false)
    (found : vocabulary.lookup? value = some given) :
    ∃ word, (vocabulary.words.find? fun word => Text.toLower word = Text.toLower value) =
        some word ∧ Text.toLower word = Text.toLower value ∧
      given = if vocabulary.returnDefined then word else value := by
  rw [lookup?, if_neg (by simp [insensitive])] at found
  obtain ⟨word, first, same⟩ := Option.map_eq_some_iff.mp found
  have alike : Text.toLower word = Text.toLower value := by simpa using List.find?_some first
  exact ⟨word, first, alike, same.symm⟩

/-- A spelling that is given out is the value but for case. -/
theorem toLower_of_lookup? (found : vocabulary.lookup? value = some given) :
    Text.toLower given = Text.toLower value := by
  cases sensitive : vocabulary.caseSensitive with
  | true => rw [(find?_of_lookup? sensitive found).1]
  | false =>
      obtain ⟨word, -, alike, rfl⟩ := exists_word_of_lookup? sensitive found
      split
      · exact alike
      · rfl

theorem mem_of_lookup? (defined : vocabulary.returnDefined)
    (found : vocabulary.lookup? value = some given) : given ∈ vocabulary.words := by
  cases sensitive : vocabulary.caseSensitive with
  | true =>
      obtain ⟨rfl, word⟩ := find?_of_lookup? sensitive found
      exact word
  | false =>
      obtain ⟨word, first, -, rfl⟩ := exists_word_of_lookup? sensitive found
      rw [if_pos defined]
      exact List.mem_of_find?_eq_some first

/-- A spelling that is given out is found as it is. -/
theorem lookup?_lookup? (found : vocabulary.lookup? value = some given) :
    vocabulary.lookup? given = some given := by
  cases sensitive : vocabulary.caseSensitive with
  | true =>
      obtain ⟨rfl, -⟩ := find?_of_lookup? sensitive found
      exact found
  | false =>
      obtain ⟨word, first, alike, rfl⟩ := exists_word_of_lookup? sensitive found
      cases defined : vocabulary.returnDefined with
      | false => simpa [defined] using found
      | true =>
          rw [if_pos rfl, lookup?, if_neg (by simp [sensitive]), alike, first, defined]
          rfl

theorem trimmed_of_lookup? (found : vocabulary.lookup? value = some given)
    (trimmed : Text.Trimmed value) : Text.Trimmed given := by
  have same := toLower_of_lookup? found
  rw [← Text.trimmed_toLower, same, Text.trimmed_toLower]
  exact trimmed

end Vocabulary

theorem Simple.accept_list {site : Site} {vocabulary : Vocabulary} {value given : Text} :
    (Simple.list vocabulary).accept site value = .ok given ↔
      vocabulary.lookup? value = some given := by
  cases found : vocabulary.lookup? value with
  | none => simp [Simple.accept, found]
  | some word => simp [Simple.accept, found]

end SafeMarkup
