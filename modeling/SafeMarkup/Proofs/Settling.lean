import SafeMarkup.Proofs.Links
import SafeMarkup.Proofs.Shapes
import SafeMarkup.Proofs.Vocabulary

/-!
Contract: validators without parts, asked again about what they gave out.

Owns: for each kind of value, the accepted form is accepted as it is; a URL that is given out is one
that its rule gives out unchanged; and the law about whole validators, whatever their settings.

Does not own: links into the site, and grammars given by the text of a pattern.
-/

namespace SafeMarkup

/-! ## URLs -/

theorem percentEncode_eq_self {text : Text} (plain : UrlText text) : percentEncode text = text := by
  have single : ∀ c ∈ text, (if isUnsafeInUrl c then (String.utf8EncodeChar c).flatMap percentByte
      else [c]) = [c] := by
    intro c member
    rw [isUnsafeInUrl_eq_false_iff.mpr (plain c member)]
    rfl
  rw [percentEncode, List.flatMap_congr single, List.flatMap_singleton']

theorem UrlText.not_isBlank {text : Text} (plain : UrlText text) :
    ∀ c ∈ text, Text.isBlank c = false := by
  intro c member
  obtain ⟨low, high, -⟩ := plain c member
  rw [Bool.eq_false_iff]
  simp only [Text.isBlank, ne_eq, Bool.or_eq_true, Bool.and_eq_true, decide_eq_true_eq, beq_iff_eq]
  omega

namespace UrlRule

variable {rule : UrlRule} {site : Site} {url : Text}

theorem isAnchor_of_anchorUrl (anchor : AnchorUrl url) : isAnchor url := by
  obtain ⟨name, rfl, nonempty, named⟩ := anchor
  simp only [isAnchor, Bool.and_eq_true, List.all_eq_true]
  exact ⟨by simpa using nonempty, fun c member => by simpa using named c member⟩

theorem not_isAnchor_of_colon (colon : ':' ∈ url) : isAnchor url = false := by
  rw [Bool.eq_false_iff]
  intro anchor
  obtain ⟨name, rfl, -, named⟩ := anchorUrl_of_isAnchor anchor
  rcases List.mem_cons.mp colon with same | inName
  · exact absurd same (by decide)
  · exact absurd (named ':' inName) (by decide)

theorem not_isAnchor_of_path (path : PathUrl url) : isAnchor url = false := by
  obtain ⟨rest, rfl⟩ := path.rooted
  rfl

/-- A URL of a form that a rule may give out is given out as it is. -/
theorem resolve_of_harmless (anywhere : rule.localOnly = false) (plain : UrlText url)
    (harmless : Harmless rule url) : rule.resolve site url = .ok url := by
  have unblank : Text.removeBlanks url = url := Grammar.removeBlanks_eq_self plain.not_isBlank
  have encoded : percentEncode url = url := percentEncode_eq_self plain
  cases harmless with
  | anchor allowed anchor =>
      simp only [resolve, unblank, allowed, isAnchor_of_anchorUrl anchor, Bool.and_self, if_true]
  | path kept path noColon =>
      have notAnchor := not_isAnchor_of_path path
      have completed : rule.complete site url = .inl url := by
        obtain ⟨rest, whole⟩ := path.rooted
        obtain rfl : '/' :: rest = url := whole
        rw [complete_eq, withProtocol_eq_self path.sameHost]
        unfold settle
        rw [if_neg (fun listed => noColon (List.contains_iff_mem.mp listed))]
        exact if_pos kept
      simp only [resolve, unblank, notAnchor, Bool.and_false, Bool.false_eq_true, if_false, encoded,
        completed]
  | absolute scheme =>
      obtain ⟨name, rest, rfl, noColon, known⟩ := scheme
      have colon : ':' ∈ name ++ ':' :: rest := by simp
      have notAnchor := not_isAnchor_of_colon colon
      have sameHost : ¬['/', '/'] <+: name ++ ':' :: rest := by
        have unrooted : ∀ scheme ∈ urlSchemes, scheme.head? ≠ some '/' := by decide
        cases name with
        | nil => simp
        | cons c name =>
            intro slashes
            obtain rfl := (List.cons_prefix_cons.mp slashes).1
            exact unrooted _ known rfl
      have completed : rule.complete site (name ++ ':' :: rest) = .inr (name ++ ':' :: rest) := by
        rw [complete_eq, withProtocol_eq_self sameHost]
        unfold settle
        rw [if_pos (List.contains_iff_mem.mpr colon)]
      have schemed : urlSchemes.contains (schemeOf (name ++ ':' :: rest)) = true := by
        rw [schemeOf_append noColon]
        exact List.contains_iff_mem.mpr known
      simp only [resolve, unblank, notAnchor, Bool.and_false, Bool.false_eq_true, if_false, encoded,
        completed, anywhere, schemed, if_true]

end UrlRule

/-! ## Kinds -/

/-- The kinds of values whose accepted forms are accepted as they are, on a site. -/
inductive Simple.Settling (site : Site) : Simple → Prop
  | text : Settling site .text
  | char : Settling site .char
  | list (vocabulary : Vocabulary) : Settling site (.list vocabulary)
  | number (shape : Shape) (settings : GrammarSettings) :
      Settling site (.number (.ofShape shape settings))
  /-- No word is a number, and case counts for both or for neither. -/
  | listOrNumber {vocabulary : Vocabulary} {shape : Shape} {settings : GrammarSettings}
      (sameCase : vocabulary.caseSensitive = settings.caseSensitive)
      (apart : ∀ word ∈ vocabulary.words, (Grammar.ofShape shape settings).matched? word = none) :
      Settling site (.listOrNumber vocabulary (.ofShape shape settings))
  /-- Links to anywhere, from a site whose name can stand in a URL. -/
  | url {rule : UrlRule} (anywhere : rule.localOnly = false)
      (domain : ∀ c ∈ site.domain, isUnsafeInUrl c = false) : Settling site (.url rule)

namespace Simple

variable {site : Site} {value given : Text}

theorem accept_number {grammar : Grammar} : (Simple.number grammar).accept site value = .ok given ↔
    grammar.matched? value = some given := by
  cases matched : grammar.matched? value with
  | none => simp [accept, matched]
  | some found => simp [accept, matched]

theorem accept_listOrNumber {vocabulary : Vocabulary} {grammar : Grammar} :
    (Simple.listOrNumber vocabulary grammar).accept site value = .ok given ↔
      vocabulary.lookup? value = some given ∨
        vocabulary.lookup? value = none ∧ grammar.matched? value = some given := by
  cases found : vocabulary.lookup? value with
  | none => cases matched : grammar.matched? value <;> simp [accept, found, matched]
  | some word => simp [accept, found]

/-- A number is no word of a vocabulary without numbers. -/
theorem lookup?_of_matched? {vocabulary : Vocabulary} {shape : Shape} {settings : GrammarSettings}
    (sameCase : vocabulary.caseSensitive = settings.caseSensitive)
    (apart : ∀ word ∈ vocabulary.words, (Grammar.ofShape shape settings).matched? word = none)
    (matched : (Grammar.ofShape shape settings).matched? value = some given) :
    vocabulary.lookup? given = none := by
  by_contra found
  obtain ⟨spelling, found⟩ := Option.ne_none_iff_exists'.mp found
  cases sensitive : vocabulary.caseSensitive with
  | true =>
      obtain ⟨-, word⟩ := Vocabulary.find?_of_lookup? sensitive found
      have again := Grammar.matched?_found matched
      rw [apart given word] at again
      exact absurd again nofun
  | false =>
      obtain ⟨word, first, alike, -⟩ := Vocabulary.exists_word_of_lookup? sensitive found
      have again := Grammar.matched?_of_toLower_eq (sameCase ▸ sensitive) matched alike
      rw [apart word (List.mem_of_find?_eq_some first)] at again
      exact absurd again nofun

/-- An accepted form is accepted as it is, and has blanks at its ends only if the value has. -/
theorem Settling.accept {kind : Simple} (settling : kind.Settling site)
    (accepted : kind.accept site value = .ok given) :
    kind.accept site given = .ok given ∧ (Text.Trimmed value → Text.Trimmed given) := by
  cases settling with
  | text =>
      obtain rfl := Except.ok.inj accepted
      exact ⟨accepted, id⟩
  | char =>
      have whole : given = value := by
        rw [Simple.accept] at accepted
        split_ifs at accepted
        · exact (Except.ok.inj accepted).symm
      obtain rfl := whole
      exact ⟨accepted, id⟩
  | list vocabulary =>
      have found := accept_list.mp accepted
      exact ⟨accept_list.mpr (Vocabulary.lookup?_lookup? found),
        Vocabulary.trimmed_of_lookup? found⟩
  | number shape settings =>
      have matched := accept_number.mp accepted
      exact ⟨accept_number.mpr (Grammar.matched?_found matched),
        fun _ => Text.trimmed_of_unblank fun c member =>
          (Grammar.mem_of_matched? matched c member).1⟩
  | listOrNumber sameCase apart =>
      rcases accept_listOrNumber.mp accepted with found | ⟨-, matched⟩
      · exact ⟨accept_listOrNumber.mpr (.inl (Vocabulary.lookup?_lookup? found)),
          Vocabulary.trimmed_of_lookup? found⟩
      · have noWord := lookup?_of_matched? sameCase apart matched
        exact ⟨accept_listOrNumber.mpr (.inr ⟨noWord, Grammar.matched?_found matched⟩),
          fun _ => Text.trimmed_of_unblank fun c member =>
            (Grammar.mem_of_matched? matched c member).1⟩
  | url anywhere domain =>
      have host : UrlText site.domain := fun c member =>
        isUnsafeInUrl_eq_false_iff.mp (domain c member)
      obtain ⟨harmless, plain⟩ := UrlRule.harmless_of_resolve anywhere accepted
      have plain := plain (percentEncode_eq_self host)
      exact ⟨UrlRule.resolve_of_harmless anywhere plain harmless,
        fun _ => Text.trimmed_of_unblank plain.not_isBlank⟩

end Simple

/-! ## Validators -/

namespace Validator

/-- What a validator without parts and without a default gives out it gives out again, unless that
is empty and an empty value does not count. -/
theorem simple_settles {options : Options} {kind : Simple} {context : Context} {written given : Text}
    (settling : kind.Settling context.environment.site)
    (undefaulted : ∀ usual, options.requirement ≠ .substitute usual)
    (accepted : ((Validator.simple options kind).check context (some written)).value = .ok given)
    (present : given ≠ [] ∨ options.allowEmpty) :
    ((Validator.simple options kind).check context (some given)).value = .ok given := by
  obtain ⟨sound, replaced | ⟨raw, -, passed⟩⟩ := check_eq_ok accepted
  · exact absurd replaced (undefaulted given)
  obtain ⟨again, trimmed⟩ := settling.accept (Simple.accept_of_core passed)
  have looked : options.looked given = given := by
    unfold Options.looked
    split
    case isTrue strips =>
      have source : (Validator.simple options kind).options.looked raw = Text.trim raw :=
        if_pos strips
      rw [source] at trimmed
      exact Text.trim_eq_self (trimmed (Text.trimmed_trim raw))
    case isFalse => rfl
  refine check_of_core sound present (Simple.core_of_accept ?_)
  have same : (Validator.simple options kind).options.looked given = given := looked
  rw [same]
  exact again

/-- A path that is made absolute. -/
theorem simple_settles_path :
    ((ofSimple (.url (.of false false true))).check ⟨"a", "href", true, .detached⟩
        (some " /a b")).value = .ok "http://localhost/a%20b" ∧
      ((ofSimple (.url (.of false false true))).check ⟨"a", "href", true, .detached⟩
        (some "http://localhost/a%20b")).value = .ok "http://localhost/a%20b" := by
  have clean : ("localhost" : Text).any isUnsafeInUrl = false := by decide
  have settling : (Simple.url (.of false false true)).Settling Environment.detached.site :=
    .url rfl fun c member => by simpa using List.any_eq_false.mp clean c member
  have undefaulted (usual : Text) : (newOptions false).requirement ≠ .substitute usual := nofun
  have accepted : ((ofSimple (.url (.of false false true))).check ⟨"a", "href", true, .detached⟩
      (some " /a b")).value = .ok "http://localhost/a%20b" := by
    decide +kernel
  exact ⟨accepted, simple_settles settling undefaulted accepted (.inl (by decide))⟩

end Validator

end SafeMarkup
