import SafeMarkup.Proofs.Requirement

/-!
Contract: which URLs a validator gives out.

Owns: the characters of percent-encoded text; the ways in which a reference is completed; and the
forms that an accepted URL can have, for rules that keep links on the site and for rules that do
not.

Does not own: what a browser makes of a URL.
-/

namespace SafeMarkup

/-! ## Characters -/

/-- Printable ASCII without blanks, quotes, brackets of markup and the other characters that may not
stand in a URL. -/
def UrlText (text : Text) : Prop :=
  ∀ c ∈ text, 0x20 < c.toNat ∧ c.toNat < 0x7F ∧
    c ∉ ['"', '<', '>', '\\', '^', '\x60', '\x7b', '|', '\x7d']

theorem isUnsafeInUrl_eq_false_iff {c : Char} :
    isUnsafeInUrl c = false ↔ 0x20 < c.toNat ∧ c.toNat < 0x7F ∧
      c ∉ ['"', '<', '>', '\\', '^', '\x60', '\x7b', '|', '\x7d'] := by
  have space : c = ' ' ↔ c.toNat = 0x20 := Char.toNat_inj.symm
  have listed : (" \"<>\\^\x60\x7b|\x7d" : Text).contains c = true ↔
      c = ' ' ∨ c ∈ ['"', '<', '>', '\\', '^', '\x60', '\x7b', '|', '\x7d'] :=
    List.contains_iff_mem.trans List.mem_cons
  unfold isUnsafeInUrl
  rw [Bool.or_eq_false_iff, Bool.or_eq_false_iff, decide_eq_false_iff_not, decide_eq_false_iff_not,
    ← Bool.not_eq_true (List.contains _ _), listed, space]
  constructor
  · rintro ⟨⟨low, high⟩, unlisted⟩
    have notSpace := fun same => unlisted (.inl same)
    exact ⟨by omega, by omega, fun inside => unlisted (.inr inside)⟩
  · rintro ⟨low, high, unlisted⟩
    refine ⟨⟨by omega, by omega⟩, ?_⟩
    rintro (same | inside)
    · omega
    · exact unlisted inside

theorem isUnsafeInUrl_hexDigit :
    ∀ value < 16, isUnsafeInUrl (Text.hexDigit value).toUpper = false := by
  decide

theorem urlText_percentEncode (text : Text) : UrlText (percentEncode text) := by
  intro c member
  refine isUnsafeInUrl_eq_false_iff.mp ?_
  obtain ⟨written, _, encoded⟩ := List.mem_flatMap.mp member
  split at encoded
  case isTrue =>
    obtain ⟨byte, _, digit⟩ := List.mem_flatMap.mp encoded
    have small : byte.toNat < 256 := byte.toNat_lt
    simp only [percentByte, List.mem_cons, List.not_mem_nil, or_false] at digit
    rcases digit with rfl | rfl | rfl
    · decide
    · exact isUnsafeInUrl_hexDigit _ (by omega)
    · exact isUnsafeInUrl_hexDigit _ (by omega)
  case isFalse harmless =>
    obtain rfl := List.mem_singleton.mp encoded
    simpa using harmless

/-- Text without unsafe characters is what percent-encoding leaves as it is. -/
theorem urlText_of_percentEncode {text : Text} (same : percentEncode text = text) :
    UrlText text :=
  same ▸ urlText_percentEncode text

theorem UrlText.append {left right : Text} (first : UrlText left) (second : UrlText right) :
    UrlText (left ++ right) :=
  List.forall_mem_append.mpr ⟨first, second⟩

/-! ## Forms of URLs -/

/-- A place in the same document: a number sign and a name of ASCII letters, digits and
underscores. -/
def AnchorUrl (url : Text) : Prop :=
  ∃ name, url = '#' :: name ∧ name ≠ [] ∧ ∀ c ∈ name, c.isAlphanum ∨ c = '_'

/-- A path on the same host. Two slashes would begin with another host. -/
structure PathUrl (url : Text) : Prop where
  rooted : ['/'] <+: url
  sameHost : ¬['/', '/'] <+: url

/-- A URL with a scheme of the list, in any letter case. -/
def SchemeUrl (url : Text) : Prop :=
  ∃ scheme rest, url = scheme ++ ':' :: rest ∧ ':' ∉ scheme ∧ Text.toAsciiLower scheme ∈ urlSchemes

theorem PathUrl.cons {url : Text} (bare : ¬['/'] <+: url) : PathUrl ('/' :: url) where
  rooted := ⟨url, rfl⟩
  sameHost doubled := bare (List.cons_prefix_cons.mp doubled).2

theorem toNat_of_isAlphanum {c : Char} (named : c.isAlphanum) :
    0x20 < c.toNat ∧ c.toNat < 0x7F := by
  unfold Char.isAlphanum Char.isAlpha Char.isUpper Char.isLower Char.isDigit at named
  simp only [↓Char.isValue, Char.reduceVal, ge_iff_le, UInt32.le_iff_toNat_le, UInt32.reduceToNat,
    Char.toNat_val, Bool.decide_and, Bool.or_eq_true, Bool.and_eq_true, decide_eq_true_eq] at named
  omega

theorem AnchorUrl.urlText {url : Text} (anchor : AnchorUrl url) : UrlText url := by
  obtain ⟨name, rfl, _, named⟩ := anchor
  intro c member
  rcases List.mem_cons.mp member with rfl | member
  · decide
  · rcases named c member with named | rfl
    · obtain ⟨low, high⟩ := toNat_of_isAlphanum named
      refine ⟨low, high, fun listed => ?_⟩
      simp only [List.mem_cons, List.not_mem_nil, or_false] at listed
      rcases listed with rfl | rfl | rfl | rfl | rfl | rfl | rfl | rfl | rfl <;>
        exact absurd named (by decide)
    · decide

namespace UrlRule

theorem anchorUrl_of_isAnchor {url : Text} (anchor : isAnchor url) : AnchorUrl url := by
  unfold isAnchor at anchor
  split at anchor
  case h_1 name =>
    rw [Bool.and_eq_true, List.all_eq_true] at anchor
    obtain ⟨nonempty, named⟩ := anchor
    refine ⟨name, rfl, by simpa using nonempty, fun c member => ?_⟩
    simpa using named c member
  case h_2 => exact absurd anchor nofun

theorem schemeOf_append {scheme rest : Text} (first : ':' ∉ scheme) :
    schemeOf (scheme ++ ':' :: rest) = Text.toAsciiLower scheme := by
  have before : (scheme ++ ':' :: rest).takeWhile (· != ':') = scheme := by
    rw [List.takeWhile_append_of_pos]
    · simp
    · intro c member
      simp only [bne_iff_ne]
      rintro rfl
      exact first member
  rw [schemeOf, before]

theorem schemeUrl_of_contains {url : Text} (colon : ':' ∈ url)
    (known : urlSchemes.contains (schemeOf url)) : SchemeUrl url := by
  obtain ⟨scheme, rest, rfl, first⟩ := List.eq_append_cons_of_mem colon
  rw [schemeOf_append first] at known
  exact ⟨scheme, rest, rfl, first, List.contains_iff_mem.mp known⟩

/-! ## Completing a reference -/

/-- A reference that begins with a host gets the protocol of the web. -/
def withProtocol (value : Text) : Text :=
  match value with
  | '/' :: '/' :: _ => "http:" ++ value
  | _ => value

theorem withProtocol_eq_self {value : Text} (sameHost : ¬['/', '/'] <+: value) :
    withProtocol value = value := by
  unfold withProtocol
  split
  case h_1 rest => exact absurd ⟨rest, rfl⟩ sameHost
  case h_2 => rfl

/-- Where a reference leads that has its protocol, if it needs one. -/
def settle (rule : UrlRule) (site : Site) (value : Text) : Text ⊕ Text :=
  if value.contains ':' then .inr value
  else match value with
    | '/' :: _ => if rule.allowLocal then .inl value else .inr ("http://" ++ site.domain ++ value)
    | _ => if rule.localOnly then .inl ('/' :: value) else .inr ("http://" ++ value)

theorem complete_eq (rule : UrlRule) (site : Site) (value : Text) :
    rule.complete site value = rule.settle site (withProtocol value) := rfl

/-- What becomes of a reference before any scheme is looked at. -/
inductive Completed (rule : UrlRule) (site : Site) (value : Text) : Text ⊕ Text → Prop where
  | absolute (colon : ':' ∈ withProtocol value) :
      Completed rule site value (.inr (withProtocol value))
  | path (noColon : ':' ∉ value) (path : PathUrl value) (kept : rule.allowLocal = true) :
      Completed rule site value (.inl value)
  /-- A path where paths are made absolute. -/
  | expanded (noColon : ':' ∉ value) (path : PathUrl value) (notKept : rule.allowLocal = false) :
      Completed rule site value (.inr ("http://" ++ site.domain ++ value))
  /-- Other text where all links stay on the site. -/
  | rooted (bare : ¬['/'] <+: value) (only : rule.localOnly = true) :
      Completed rule site value (.inl ('/' :: value))
  /-- Other text, which begins with a host. -/
  | host (bare : ¬['/'] <+: value) (anywhere : rule.localOnly = false) :
      Completed rule site value (.inr ("http://" ++ value))

theorem completed (rule : UrlRule) (site : Site) (value : Text) :
    Completed rule site value (rule.complete site value) := by
  rw [complete_eq]
  unfold settle
  by_cases colon : ':' ∈ withProtocol value
  · rw [if_pos (List.contains_iff_mem.mpr colon)]
    exact .absolute colon
  · have sameHost : ¬['/', '/'] <+: value := by
      rintro ⟨rest, rfl⟩
      have protocol : ':' ∈ ("http:" : Text) := by decide
      exact colon (List.mem_append_left _ protocol)
    rw [if_neg (fun listed => colon (List.contains_iff_mem.mp listed))]
    rw [withProtocol_eq_self sameHost] at colon ⊢
    split
    case h_1 rest =>
      have path : PathUrl ('/' :: rest) := ⟨⟨rest, rfl⟩, sameHost⟩
      by_cases kept : rule.allowLocal
      · rw [if_pos kept]
        exact .path colon path kept
      · rw [if_neg kept]
        exact .expanded colon path (by simpa using kept)
    case h_2 other =>
      have bare : ¬['/'] <+: value := by
        rintro ⟨rest, rfl⟩
        exact other rest rfl
      by_cases only : rule.localOnly
      · rw [if_pos only]
        exact .rooted bare only
      · rw [if_neg only]
        exact .host bare (by simpa using only)

theorem Completed.colon {rule : UrlRule} {site : Site} {value url : Text}
    (completed : Completed rule site value (.inr url)) : ':' ∈ url := by
  have protocol : ':' ∈ ("http://" : Text) := by decide
  cases completed with
  | absolute colon => exact colon
  | expanded => exact List.mem_append_left _ (List.mem_append_left _ protocol)
  | host => exact List.mem_append_left _ protocol

theorem urlText_withProtocol {value : Text} (plain : UrlText value) :
    UrlText (withProtocol value) := by
  have protocol : UrlText "http:" := urlText_of_percentEncode (by decide)
  unfold withProtocol
  split
  · exact protocol.append plain
  · exact plain

theorem Completed.urlText {rule : UrlRule} {site : Site} {value url : Text}
    (completed : Completed rule site value (.inr url)) (domain : UrlText site.domain)
    (plain : UrlText value) : UrlText url := by
  have protocol : UrlText "http://" := urlText_of_percentEncode (by decide)
  cases completed with
  | absolute => exact urlText_withProtocol plain
  | expanded => exact (protocol.append domain).append plain
  | host => exact protocol.append plain

/-- What a rule gives out is an anchor, or comes from a completed reference: as it is, by its scheme,
or as the path on the site that it points at. -/
theorem resolve_eq_ok {rule : UrlRule} {site : Site} {value url : Text}
    (accepted : rule.resolve site value = .ok url) :
    (rule.allowAnchor = true ∧ AnchorUrl url) ∨
      rule.complete site (percentEncode value) = .inl url ∨
      ∃ absolute, rule.complete site (percentEncode value) = .inr absolute ∧
        (rule.localOnly = true ∧ site.localize absolute = some url ∨
          rule.localOnly = false ∧ urlSchemes.contains (schemeOf url) ∧ absolute = url) := by
  rw [resolve] at accepted
  split at accepted
  case isTrue anchor =>
    obtain ⟨allowed, named⟩ := Bool.and_eq_true_iff.mp anchor
    obtain rfl := Except.ok.inj accepted
    exact .inl ⟨allowed, anchorUrl_of_isAnchor named⟩
  case isFalse =>
    split at accepted
    case h_1 given completed =>
      obtain rfl := Except.ok.inj accepted
      exact .inr (.inl completed)
    case h_2 absolute completed =>
      refine .inr (.inr ⟨absolute, completed, ?_⟩)
      by_cases only : rule.localOnly
      · rw [if_pos only] at accepted
        split at accepted
        case h_1 path localized =>
          obtain rfl := Except.ok.inj accepted
          exact .inl ⟨only, localized⟩
        case h_2 => exact absurd accepted nofun
      · rw [if_neg only] at accepted
        by_cases known : urlSchemes.contains (schemeOf absolute)
        · rw [if_pos known] at accepted
          obtain rfl := Except.ok.inj accepted
          exact .inr ⟨by simpa using only, known, rfl⟩
        · rw [if_neg known] at accepted
          exact absurd accepted nofun

/-! ## Links to anywhere -/

/-- The forms of URLs that a rule may give out. -/
inductive Harmless (rule : UrlRule) (url : Text) : Prop where
  | anchor (allowed : rule.allowAnchor = true) (anchor : AnchorUrl url)
  | path (kept : rule.allowLocal = true) (path : PathUrl url) (noColon : ':' ∉ url)
  | absolute (scheme : SchemeUrl url)

theorem harmless_of_resolve {rule : UrlRule} {site : Site} {value url : Text}
    (anywhere : rule.localOnly = false) (accepted : rule.resolve site value = .ok url) :
    Harmless rule url ∧ (percentEncode site.domain = site.domain → UrlText url) := by
  have completed := completed rule site (percentEncode value)
  have plain := urlText_percentEncode value
  rcases resolve_eq_ok accepted with ⟨allowed, anchor⟩ | given | ⟨absolute, given, left⟩
  · exact ⟨.anchor allowed anchor, fun _ => anchor.urlText⟩
  · rw [given] at completed
    cases completed with
    | path noColon path kept => exact ⟨.path kept path noColon, fun _ => plain⟩
    | rooted bare only => exact absurd only (by simp [anywhere])
  · rw [given] at completed
    rcases left with ⟨only, _⟩ | ⟨_, known, rfl⟩
    · exact absurd only (by simp [anywhere])
    · exact ⟨.absolute (schemeUrl_of_contains completed.colon known),
        fun domain => completed.urlText (urlText_of_percentEncode domain) plain⟩

end UrlRule

/-! ## Links into the site -/

@[simp] theorem Text.length_toAsciiLower (text : Text) :
    (toAsciiLower text).length = text.length :=
  List.length_map _

theorem Text.toAsciiLower_take {lead text : Text}
    (leads : toAsciiLower lead <+: toAsciiLower text) :
    toAsciiLower (text.take lead.length) = toAsciiLower lead := by
  rw [List.prefix_iff_eq_take.mp leads, length_toAsciiLower]
  exact List.map_take

namespace Site

/-- The path that the rest of a URL is, behind the domain of a site. -/
def pathOf? : Text → Option Text
  | [] => some "/"
  | '/' :: path => some ('/' :: path)
  | _ :: _ => none

theorem pathOf?_eq_some_iff {rest path : Text} :
    pathOf? rest = some path ↔ rest = [] ∧ path = ['/'] ∨ ['/'] <+: rest ∧ path = rest := by
  cases rest with
  | nil => simp [pathOf?, eq_comm]
  | cons c rest =>
      by_cases slash : c = '/'
      · subst slash
        simp [pathOf?, eq_comm]
      · simp [pathOf?, Ne.symm slash]

theorem pathAfter?_eq (lead url : Text) :
    pathAfter? lead url =
      if (Text.toAsciiLower lead).isPrefixOf (Text.toAsciiLower url) then
        pathOf? (url.drop lead.length)
      else none :=
  rfl

/-- The path behind a lead, if it begins with the lead up to the case of ASCII letters and nothing
or a path follows. -/
theorem pathAfter?_eq_some_iff {lead url path : Text} :
    pathAfter? lead url = some path ↔
      ∃ front rest, url = front ++ rest ∧ Text.toAsciiLower front = Text.toAsciiLower lead ∧
        (rest = [] ∧ path = ['/'] ∨ ['/'] <+: rest ∧ path = rest) := by
  rw [pathAfter?_eq]
  constructor
  · intro found
    split at found
    case isFalse => cases found
    case isTrue leads =>
      have front := Text.toAsciiLower_take (List.isPrefixOf_iff_prefix.mp leads)
      exact ⟨url.take lead.length, url.drop lead.length, (List.take_append_drop _ _).symm, front,
        pathOf?_eq_some_iff.mp found⟩
  · rintro ⟨front, rest, rfl, lower, behind⟩
    have sameLength : lead.length = front.length := by
      rw [← Text.length_toAsciiLower lead, ← lower, Text.length_toAsciiLower]
    have leads : (Text.toAsciiLower lead).isPrefixOf (Text.toAsciiLower (front ++ rest)) := by
      rw [List.isPrefixOf_iff_prefix, ← lower]
      exact ⟨Text.toAsciiLower rest, List.map_append.symm⟩
    rw [if_pos leads, sameLength, List.drop_left]
    exact pathOf?_eq_some_iff.mpr behind

/-- A URL is an address of a site, over either web scheme and in any letter case, with `rest` behind
the domain. -/
def Addressed (domain url rest : Text) : Prop :=
  ∃ front, url = front ++ rest ∧
    (Text.toAsciiLower front = Text.toAsciiLower ("http://" ++ domain) ∨
      Text.toAsciiLower front = Text.toAsciiLower ("https://" ++ domain))

theorem localizeAt_eq_some {domain url path : Text} (localized : localizeAt domain url = some path) :
    PathUrl path ∨ ['/', '/'] <+: path ∧ Addressed domain url path := by
  have either : ∃ front rest, url = front ++ rest ∧
      (Text.toAsciiLower front = Text.toAsciiLower ("http://" ++ domain) ∨
        Text.toAsciiLower front = Text.toAsciiLower ("https://" ++ domain)) ∧
      (rest = [] ∧ path = ['/'] ∨ ['/'] <+: rest ∧ path = rest) := by
    rcases Option.or_eq_some_iff.mp localized with plain | ⟨_, secure⟩
    · obtain ⟨front, rest, split, lower, behind⟩ := pathAfter?_eq_some_iff.mp plain
      exact ⟨front, rest, split, .inl lower, behind⟩
    · obtain ⟨front, rest, split, lower, behind⟩ := pathAfter?_eq_some_iff.mp secure
      exact ⟨front, rest, split, .inr lower, behind⟩
  obtain ⟨front, rest, split, lower, ⟨_, rfl⟩ | ⟨rooted, rfl⟩⟩ := either
  · exact .inl ⟨List.prefix_rfl, by decide⟩
  · by_cases doubled : ['/', '/'] <+: path
    · exact .inr ⟨doubled, front, split, lower⟩
    · exact .inl ⟨rooted, doubled⟩

/-- A path that was made absolute with the domain of the site is that path. -/
theorem localizeAt_append {domain path : Text} (rooted : ['/'] <+: path) :
    localizeAt domain ("http://" ++ domain ++ path) = some path := by
  have found : pathAfter? ("http://" ++ domain) ("http://" ++ domain ++ path) = some path :=
    pathAfter?_eq_some_iff.mpr ⟨_, path, rfl, rfl, .inr ⟨rooted, rfl⟩⟩
  rw [localizeAt, found]
  rfl

end Site

namespace UrlRule

/-- The forms of URLs that a rule gives out where all links stay on the site. -/
inductive OnSite (rule : UrlRule) (domain value url : Text) : Prop where
  | anchor (allowed : rule.allowAnchor = true) (anchor : AnchorUrl url)
  | path (path : PathUrl url)
  /-- The value is an address of the site that goes on with two slashes behind the domain. What is
  given out are the slashes and all that follows, so it begins with another host. -/
  | doubled (slashes : ['/', '/'] <+: url)
      (address : Site.Addressed domain (withProtocol (percentEncode value)) url)

theorem onSite_of_resolve {rule : UrlRule} {domain value url : Text}
    (only : rule.localOnly = true) (accepted : rule.resolve (.fixed domain) value = .ok url) :
    OnSite rule domain value url := by
  have completed := completed rule (.fixed domain) (percentEncode value)
  rcases resolve_eq_ok accepted with ⟨allowed, anchor⟩ | given | ⟨absolute, given, left⟩
  · exact .anchor allowed anchor
  · rw [given] at completed
    cases completed with
    | path _ path _ => exact .path path
    | rooted bare _ => exact .path (.cons bare)
  · rcases left with ⟨_, localized⟩ | ⟨anywhere, _, _⟩
    · rw [given] at completed
      cases completed with
      | absolute =>
          rcases Site.localizeAt_eq_some localized with path | ⟨slashes, address⟩
          · exact .path path
          · exact .doubled slashes address
      | expanded _ path _ =>
          have same : some (percentEncode value) = some url :=
            (Site.localizeAt_append path.rooted).symm.trans localized
          exact .path (Option.some.inj same ▸ path)
      | host _ anywhere => exact absurd only (by simp [anywhere])
    · exact absurd only (by simp [anywhere])

end UrlRule

namespace Validator

variable {rule : UrlRule} {options : Options} {context : Context} {raw : Option Text} {url : Text}

/-- A validator of URLs without a default gives out what its rule makes of the value. -/
theorem resolve_of_check
    (noDefault : ∀ usual, options.requirement ≠ .substitute usual)
    (accepted : ((simple options (.url rule)).check context raw).value = .ok url) :
    ∃ written, raw = some written ∧
      rule.resolve context.environment.site (options.looked written) = .ok url := by
  obtain ⟨_, usual | ⟨written, rfl, given⟩⟩ := check_eq_ok accepted
  · exact absurd usual (noDefault url)
  · refine ⟨written, rfl, ?_⟩
    change ((Simple.url rule).core options context written _).value = .ok url at given
    unfold Simple.core Simple.accept at given
    split at given
    case h_1 value resolved =>
      obtain rfl := Except.ok.inj given
      exact resolved
    case h_2 =>
      rw [Options.value_refuse] at given
      exact absurd given nofun

/-- Where links may lead anywhere, what is given out is an anchor or a path, each only if the rule
allows it, or it has a scheme of the list. Nothing in it can end an attribute or a tag, unless the
domain of the site can. -/
theorem check_url_harmless (anywhere : rule.localOnly = false)
    (noDefault : ∀ usual, options.requirement ≠ .substitute usual)
    (accepted : ((simple options (.url rule)).check context raw).value = .ok url) :
    rule.Harmless url ∧
      (percentEncode context.environment.site.domain = context.environment.site.domain →
        UrlText url) := by
  obtain ⟨written, rfl, resolved⟩ := resolve_of_check noDefault accepted
  exact UrlRule.harmless_of_resolve anywhere resolved

/-- A link on a page of the site `x.y`. -/
def linkAtSite : Context := ⟨"a", "href", false, ⟨.fixed "x.y", false⟩⟩

/-- A path that is made absolute, with a quote in it. -/
theorem check_url_harmless_expanded :
    (UrlRule.of false false true).localOnly = false ∧
      (∀ usual, (newOptions false).requirement ≠ .substitute usual) ∧
      ((simple (newOptions false) (.url (.of false false true))).check linkAtSite
        (some " /a\"b")).value = .ok "http://x.y/a%22b" ∧
      (UrlRule.of false false true).Harmless "http://x.y/a%22b" ∧
      UrlText "http://x.y/a%22b" := by
  have noDefault : ∀ usual, (newOptions false).requirement ≠ .substitute usual := nofun
  have accepted : ((simple (newOptions false) (.url (.of false false true))).check linkAtSite
      (some " /a\"b")).value = .ok "http://x.y/a%22b" := rfl
  obtain ⟨harmless, plain⟩ := check_url_harmless rfl noDefault accepted
  exact ⟨rfl, noDefault, accepted, harmless, plain (by decide)⟩

/-- Where links stay on the site, what is given out is an anchor, if the rule allows it, or a path.
The exception is an address of the site with two slashes behind the domain. -/
theorem check_url_onSite {domain : Text} (only : rule.localOnly = true)
    (noDefault : ∀ usual, options.requirement ≠ .substitute usual)
    (atSite : context.environment.site = .fixed domain)
    (accepted : ((simple options (.url rule)).check context raw).value = .ok url) :
    ∃ written, raw = some written ∧ rule.OnSite domain (options.looked written) url := by
  obtain ⟨written, rfl, resolved⟩ := resolve_of_check noDefault accepted
  rw [atSite] at resolved
  exact ⟨written, rfl, UrlRule.onSite_of_resolve only resolved⟩

/-- An address of the site in capital letters. -/
theorem check_url_onSite_capitals :
    (UrlRule.of true false true).localOnly = true ∧
      (∀ usual, (newOptions false).requirement ≠ .substitute usual) ∧
      linkAtSite.environment.site = .fixed "x.y" ∧
      ((simple (newOptions false) (.url (.of true false true))).check linkAtSite
        (some "HTTPS://X.Y/a b ")).value = .ok "/a%20b" ∧
      ∃ written, some ("HTTPS://X.Y/a b " : Text) = some written ∧
        (UrlRule.of true false true).OnSite "x.y" ((newOptions false).looked written)
          "/a%20b" := by
  have noDefault : ∀ usual, (newOptions false).requirement ≠ .substitute usual := nofun
  have accepted : ((simple (newOptions false) (.url (.of true false true))).check linkAtSite
      (some "HTTPS://X.Y/a b ")).value = .ok "/a%20b" := rfl
  exact ⟨rfl, noDefault, rfl, accepted, check_url_onSite rfl noDefault rfl accepted⟩

/-- A link that has to stay on the site leaves it. -/
theorem check_url_leaves_site :
    (UrlRule.of true false true).localOnly = true ∧
      ((simple (newOptions false) (.url (.of true false true))).check linkAtSite
        (some "http://x.y//z.w")).value = .ok "//z.w" ∧
      ¬AnchorUrl "//z.w" ∧ ¬PathUrl "//z.w" := by
  refine ⟨rfl, rfl, ?_, ?_⟩
  · rintro ⟨name, begins, -⟩
    exact absurd (List.cons.inj begins).1 (by decide)
  · intro path
    exact path.sameHost ⟨"z.w", rfl⟩

end Validator
end SafeMarkup
