import SafeMarkup.Validator.Options

/-!
Contract: URLs in attribute values.

Characters that may not stand in a URL are percent-encoded first, so that every later decision is
about the text that is given out. A text without a colon is a path or a host; a text with one needs
a scheme of the list, or has to point at the site where only the site is allowed.
-/

namespace SafeMarkup

def urlSchemes : List Text :=
  ["http", "https", "shttp", "ftp", "sftp", "file", "mailto", "svn", "svn+ssh", "telnet", "mms",
   "ed2k"]

/-! ## Percent-encoding -/

/-- A percent sign and the two digits of a byte. -/
def percentByte (byte : UInt8) : Text :=
  ['%', (Text.hexDigit (byte.toNat / 16)).toUpper, (Text.hexDigit (byte.toNat % 16)).toUpper]

/-- Whether a character may not stand in a URL as it is. -/
def isUnsafeInUrl (c : Char) : Bool :=
  c.toNat < 32 || 127 ≤ c.toNat || (" \"<>\\^\x60\x7b|\x7d" : Text).contains c

/-- The bytes of unsafe characters percent-encoded; all others, reserved ones too, as they are. -/
def percentEncode (text : Text) : Text :=
  text.flatMap fun c =>
    if isUnsafeInUrl c then (String.utf8EncodeChar c).flatMap percentByte else [c]

/-! ## Rules -/

/-- Which references are kept. -/
structure UrlRule where
  /-- Only links into the site, always as paths. -/
  localOnly : Bool
  /-- Paths are kept instead of being made absolute. -/
  allowLocal : Bool
  /-- Links to a named place in the same document. -/
  allowAnchor : Bool
deriving DecidableEq, Repr

namespace UrlRule

/-- A rule; where only local links are allowed, they are allowed. -/
def of (localOnly allowLocal allowAnchor : Bool) : UrlRule :=
  ⟨localOnly, allowLocal || localOnly, allowAnchor⟩

def plain : UrlRule := of false true false

/-- Whether a text is a number sign and a name of ASCII letters, digits and underscores. -/
def isAnchor : Text → Bool
  | '#' :: name => !name.isEmpty && name.all fun c => c.isAlphanum || c = '_'
  | _ => false

/-- Where a reference leads before any scheme is looked at: a value to give out at once, or an
absolute URL. -/
def complete (rule : UrlRule) (site : Site) (value : Text) : Text ⊕ Text :=
  let value : Text := match value with
    | '/' :: '/' :: _ => "http:" ++ value
    | _ => value
  if value.contains ':' then .inr value
  else match value with
    | '/' :: _ => if rule.allowLocal then .inl value else .inr ("http://" ++ site.domain ++ value)
    | _ => if rule.localOnly then .inl ('/' :: value) else .inr ("http://" ++ value)

/-- The scheme of an absolute URL, in small letters. -/
def schemeOf (url : Text) : Text := Text.toAsciiLower (url.takeWhile (· != ':'))

/-- The URL to give out for a value; failing that, the URL that was refused. -/
def resolve (rule : UrlRule) (site : Site) (value : Text) : Except Text Text :=
  let anchor := Text.removeBlanks value
  if rule.allowAnchor && isAnchor anchor then .ok anchor
  else match rule.complete site (percentEncode value) with
    | .inl value => .ok value
    | .inr url =>
      if rule.localOnly then
        match site.localize url with
        | some path => .ok path
        | none => .error url
      else if urlSchemes.contains (schemeOf url) then .ok url
      else .error url

end UrlRule
end SafeMarkup
