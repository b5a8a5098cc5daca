import SafeMarkup.Proofs.Bytes
import SafeMarkup.Proofs.Links
import SafeMarkup.Proofs.Numerals

/-!
Contract: the URLs that a site takes for its own, and where it cuts them.

Owns: the bytes of texts in small letters; a search for the path of a URL that compares and cuts
bytes; and the addresses of a site.

Does not own: texts by their bytes otherwise, and what a rule for links makes of a path.
-/

namespace SafeMarkup

namespace Text

/-! ## Case -/

/-- Letters of ASCII have one byte in either case, and nothing else has a case here. -/
theorem utf8Size_toLower (c : Char) : c.toLower.utf8Size = c.utf8Size := by
  have lowered := Grammar.toNat_toLower c
  have single (d : Char) (ascii : d.toNat ≤ 127) : d.utf8Size = 1 :=
    Char.utf8Size_eq_one_iff.mpr (UInt32.le_iff_toNat_le.mpr ascii)
  by_cases capital : 65 ≤ c.toNat ∧ c.toNat ≤ 90
  · rw [if_pos capital] at lowered
    rw [single c (by omega), single c.toLower (by omega)]
  · rw [if_neg capital] at lowered
    rw [Char.toNat_inj.mp lowered]

theorem length_bytes_toAsciiLower (text : Text) :
    (bytes (toAsciiLower text)).length = (bytes text).length := by
  induction text with
  | nil => rfl
  | cons c text inductionHypothesis =>
      rw [length_bytes_cons, ← inductionHypothesis, ← utf8Size_toLower]
      exact length_bytes_cons c.toLower (toAsciiLower text)

theorem toAsciiLower_append (front rest : Text) :
    toAsciiLower (front ++ rest) = toAsciiLower front ++ toAsciiLower rest :=
  List.map_append

end Text

namespace Site

/-! ## The search by bytes -/

/-- The path behind a lead in small letters, by bytes: those of the lead are compared with the first
ones of the URL in small letters, and the URL as it was given is cut at their number. There is no
answer at all if that is not a place between its characters. -/
def pathAfterBytes? (lead url : Text) : Option (Option Text) :=
  if (Text.bytes lead).isPrefixOf (Text.bytes (Text.toAsciiLower url)) then
    (Text.cutBytes? (Text.bytes lead).length url).map pathOf?
  else some none

/-- The path of a URL at a fixed domain by bytes, over one web scheme and then over the other. -/
def localizeBytes? (domain url : Text) : Option (Option Text) := do
  match ← pathAfterBytes? ("http://" ++ Text.toAsciiLower domain) url with
  | some path => return some path
  | none => pathAfterBytes? ("https://" ++ Text.toAsciiLower domain) url

/-- The URL has as many bytes in front of its rest as the lead has, so that the cut is between
characters. -/
theorem cutBytes?_of_lead {lead url : Text}
    (leads : Text.toAsciiLower lead <+: Text.toAsciiLower url) :
    Text.cutBytes? (Text.bytes (Text.toAsciiLower lead)).length url =
      some (url.drop lead.length) := by
  refine Text.cutBytes?_eq_some_iff.mpr ⟨url.take lead.length, (List.take_append_drop _ _).symm, ?_⟩
  rw [← Text.toAsciiLower_take leads, Text.length_bytes_toAsciiLower]

theorem pathAfterBytes?_eq (lead url : Text) :
    pathAfterBytes? (Text.toAsciiLower lead) url = some (pathAfter? lead url) := by
  have compared : (Text.bytes (Text.toAsciiLower lead)).isPrefixOf
      (Text.bytes (Text.toAsciiLower url)) =
        (Text.toAsciiLower lead).isPrefixOf (Text.toAsciiLower url) := by
    rw [Bool.eq_iff_iff, List.isPrefixOf_iff_prefix, List.isPrefixOf_iff_prefix,
      Text.bytes_prefix_iff]
  rw [pathAfterBytes?, pathAfter?_eq, compared]
  split_ifs with leads
  · rw [cutBytes?_of_lead (List.isPrefixOf_iff_prefix.mp leads), Option.map_some]
  · rfl

/-- Cutting by bytes always succeeds, and comes to the same as cutting between characters. -/
theorem localizeBytes?_eq (domain url : Text) :
    localizeBytes? domain url = some (localizeAt domain url) := by
  have plain : pathAfterBytes? ("http://" ++ Text.toAsciiLower domain) url =
      some (pathAfter? ("http://" ++ domain) url) :=
    pathAfterBytes?_eq ("http://" ++ domain) url
  have secure : pathAfterBytes? ("https://" ++ Text.toAsciiLower domain) url =
      some (pathAfter? ("https://" ++ domain) url) :=
    pathAfterBytes?_eq ("https://" ++ domain) url
  rw [localizeBytes?, plain, secure, localizeAt]
  cases pathAfter? ("http://" ++ domain) url <;> rfl

/-! ## Addresses -/

/-- What a lead of a scheme and a domain stands for is a scheme and a domain, each by itself. -/
theorem pathAfter?_append_eq_some_iff {lead domain url path : Text} :
    pathAfter? (lead ++ domain) url = some path ↔
      ∃ scheme host rest, url = scheme ++ host ++ rest ∧
        Text.toAsciiLower scheme = Text.toAsciiLower lead ∧
        Text.toAsciiLower host = Text.toAsciiLower domain ∧
        (rest = [] ∧ path = ['/'] ∨ ['/'] <+: rest ∧ path = rest) := by
  rw [pathAfter?_eq_some_iff]
  constructor
  · rintro ⟨front, rest, rfl, lower, behind⟩
    rw [Text.toAsciiLower_append] at lower
    obtain ⟨scheme, host, rfl, first, second⟩ := List.map_eq_append_iff.mp lower
    exact ⟨scheme, host, rest, rfl, first, second, behind⟩
  · rintro ⟨scheme, host, rest, rfl, first, second, behind⟩
    refine ⟨scheme ++ host, rest, rfl, ?_, behind⟩
    rw [Text.toAsciiLower_append, Text.toAsciiLower_append, first, second]

/-- The two schemes differ in their fifth character, so that no URL is an address by both. -/
theorem pathAfter?_plain_of_secure {domain url path : Text}
    (secure : pathAfter? ("https://" ++ domain) url = some path) :
    pathAfter? ("http://" ++ domain) url = none := by
  have fifth {lead : Text} {found : Text} (after : pathAfter? (lead ++ domain) url = some found)
      (long : 5 ≤ lead.length) :
      (Text.toAsciiLower url)[4]? = (Text.toAsciiLower lead)[4]? := by
    obtain ⟨scheme, host, rest, rfl, lower, -, -⟩ := pathAfter?_append_eq_some_iff.mp after
    have enough : 4 < (Text.toAsciiLower lead).length := by
      rw [Text.length_toAsciiLower]
      omega
    rw [List.append_assoc, Text.toAsciiLower_append, lower, List.getElem?_append_left enough]
  by_contra found
  obtain ⟨other, plain⟩ := Option.ne_none_iff_exists'.mp found
  have colon := (fifth plain (by decide)).symm.trans (fifth secure (by decide))
  exact absurd colon (by decide)

/-- A URL has a path at a fixed domain if and only if it is an address of that domain: a web scheme
and the domain, both in any case of ASCII letters, and behind them nothing or a path. Comparing and
cutting the URL by its bytes comes to the same and never fails: behind its scheme and domain it is
always cut between two characters or at its end. -/
theorem localizeAt_exact (domain url : Text) :
    (∀ path, localizeAt domain url = some path ↔
      ∃ scheme host rest, url = scheme ++ host ++ rest ∧
        (Text.toAsciiLower scheme = "http://".toList ∨
          Text.toAsciiLower scheme = "https://".toList) ∧
        Text.toAsciiLower host = Text.toAsciiLower domain ∧
        (rest = [] ∧ path = ['/'] ∨ ['/'] <+: rest ∧ path = rest)) ∧
    localizeBytes? domain url = some (localizeAt domain url) := by
  refine ⟨?_, localizeBytes?_eq domain url⟩
  intro path
  rw [localizeAt, Option.or_eq_some_iff]
  constructor
  · rintro (plain | ⟨-, secure⟩)
    · obtain ⟨scheme, host, rest, split, lower, others⟩ := pathAfter?_append_eq_some_iff.mp plain
      exact ⟨scheme, host, rest, split, .inl lower, others⟩
    · obtain ⟨scheme, host, rest, split, lower, others⟩ := pathAfter?_append_eq_some_iff.mp secure
      exact ⟨scheme, host, rest, split, .inr lower, others⟩
  · rintro ⟨scheme, host, rest, split, plain | secure, others⟩
    · exact .inl (pathAfter?_append_eq_some_iff.mpr ⟨scheme, host, rest, split, plain, others⟩)
    · have found : pathAfter? ("https://" ++ domain) url = some path :=
        pathAfter?_append_eq_some_iff.mpr ⟨scheme, host, rest, split, secure, others⟩
      exact .inr ⟨pathAfter?_plain_of_secure found, found⟩

-- A domain is compared by ASCII case alone: its other letters have to be the same.
example : localizeAt "b\u00fccher.example" "HTTPS://B\u00fcCHER.Example/a" = some "/a" ∧
    localizeAt "b\u00fccher.example" "https://b\u00dccher.example/a" = none := by
  decide

end Site
end SafeMarkup
