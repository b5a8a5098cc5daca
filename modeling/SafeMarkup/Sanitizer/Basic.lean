import SafeMarkup.Sanitizer.Forest

/-!
Contract: whole sanitization calls.

Markup is prepared and filtered until a filter pass gives back what it got. Input that is still
changing after a few passes is refused. Every call leaves one decision about its input.
-/

namespace SafeMarkup

/-- A compiled policy for a site, with the parser of markup. -/
structure Sanitizer where
  policy : Policy
  site : Site
  parse : Text → Fragment

/-- What comes out of a call. -/
structure Sanitized where
  markup : Text
  plainText : Text
deriving DecidableEq, Repr

namespace Sanitizer

/-- The sanitizer of a policy, for the policy's own site. -/
def ofPolicy (parse : Text → Fragment) (policy : Policy) : Sanitizer :=
  ⟨policy, .fixed policy.siteDomain, parse⟩

def summary (sanitizer : Sanitizer) : Text :=
  "HtmlSanitizer \x7b site: " ++ Text.quoted sanitizer.site.domain ++ ", elements: " ++
    Text.ofNat sanitizer.policy.elements.length ++ ", .. \x7d"

/-- The tree of a filter pass, from the tree of the parser. -/
def filterNodes (sanitizer : Sanitizer) (nodes : List Node) : Reported (List Node) := do
  let cleared ← sanitizer.policy.clear sanitizer.site nodes
  return sanitizer.policy.wrap (Policy.collapseRoot (sanitizer.policy.collapse cleared))

def filter (sanitizer : Sanitizer) (markup : Text) : Reported Sanitized := do
  let nodes ← (sanitizer.parse markup).report
  let nodes ← sanitizer.filterNodes nodes
  return ⟨Node.toMarkup nodes, Node.plainTextAll nodes⟩

def filterPasses : Nat := 3

/-- The line about a pass that gave back what it got. -/
def stableLine (iteration : Nat) : Text :=
  "Markup stable after " ++ Text.ofNat (iteration + 1) ++ " iteration(s)."

/-- The line about a pass that changed something. -/
def iterationLine (iteration : Nat) (before after : Text) : Text :=
  "Iteration " ++ Text.ofNat iteration ++ " rewrote " ++ Text.ofNat before.byteSize ++
    " bytes into " ++ Text.ofNat after.byteSize ++ " bytes."

/-- The line about markup that is refused. -/
def refusalLine : Text :=
  "Refusing markup that did not stabilize after " ++ Text.ofNat filterPasses ++ " iterations."

/-- Prepares and filters with some passes left. -/
def convergeWithin (sanitizer : Sanitizer) :
    Nat → Text → Reported (Except NonConvergence Sanitized)
  | 0, _ => do
    Reported.note (.progress refusalLine)
    return .error ⟨.filtering, filterPasses⟩
  | left + 1, markup => do
    match ← prepare markup with
    | .error failure => return .error failure
    | .ok source =>
      let iteration := filterPasses - (left + 1)
      let output ← sanitizer.filter source
      if output.markup = source then
        Reported.note (.progress (stableLine iteration))
        return .ok output
      else
        Reported.note (.progress (iterationLine iteration source output.markup))
        convergeWithin sanitizer left output.markup

def converge (sanitizer : Sanitizer) (raw : Text) : Reported (Except NonConvergence Sanitized) :=
  convergeWithin sanitizer filterPasses raw

def callDecision (raw : Text) : Except NonConvergence Sanitized → Decision
  | .ok output => ⟨true, "html", raw, output.markup⟩
  | .error failure => ⟨false, "html", raw, failure.message⟩

def sanitize (sanitizer : Sanitizer) (raw : Text) :
    Reported (Except NonConvergence Sanitized) := do
  let result ← sanitizer.converge raw
  Reported.note (.decision (callDecision raw result))
  return result

end Sanitizer
end SafeMarkup
