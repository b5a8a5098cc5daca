import SafeMarkup.Text.Basic

/-!
Contract: the site that markup is embedded into.

Links are made relative to a site: its domain completes local paths, and a URL that points at the
site itself can be turned back into a path.
-/

namespace SafeMarkup

/-- A site: its bare domain, and the local path of a URL that points at it. -/
structure Site where
  domain : Text
  localize : Text → Option Text

namespace Site

/-- The path behind `lead` in a URL, comparing without regard to ASCII case. The rest keeps its
spelling; a rest that does not begin a path belongs to another host. -/
def pathAfter? (lead url : Text) : Option Text :=
  if (Text.toAsciiLower lead).isPrefixOf (Text.toAsciiLower url) then
    match url.drop lead.length with
    | [] => some "/"
    | '/' :: path => some ('/' :: path)
    | _ :: _ => none
  else none

/-- The path of a URL at a fixed domain, over either web scheme. -/
def localizeAt (domain url : Text) : Option Text :=
  (pathAfter? ("http://" ++ domain) url).or (pathAfter? ("https://" ++ domain) url)

def fixed (domain : Text) : Site := ⟨domain, localizeAt domain⟩

end Site
end SafeMarkup
