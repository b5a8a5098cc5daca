import SafeMarkup.Digest
import SafeMarkup.Policy.Compile
import SafeMarkup.Policy.Encode

/-!
Contract: compiled policies kept under a digest of what was compiled.

Policies that are written differently, if only in the order of their entries, are kept apart.
Entries are never dropped, so the place of an entry tells whether two answers are the same.
-/

namespace SafeMarkup

/-- Compiled policies by their keys, in the order they came. -/
structure PolicyCache where
  entries : Dictionary Policy

namespace PolicyCache

def empty : PolicyCache := ⟨[]⟩

/-- The key of a policy. -/
def key (policy : PolicySpec) : Text := Digest.sha256 policy.toJson

/-- The place of a key among the entries. -/
def place (key : Text) (entries : Dictionary Policy) : Nat :=
  (entries.takeWhile fun (name, _) => name != key).length

/-- A compiled policy with its place, compiled now unless it is there. A policy that does not
compile leaves nothing behind. -/
def getOrCompile (cache : PolicyCache) (policy : PolicySpec) :
    Reported (Except PolicyError (Nat × Policy) × PolicyCache) :=
  let name := key policy
  match Dictionary.get? name cache.entries with
  | some compiled => pure (.ok (place name cache.entries, compiled), cache)
  | none => do
    match ← policy.compile with
    | .error error => pure (.error error, cache)
    | .ok compiled =>
      pure (.ok (cache.entries.length, compiled),
        ⟨Dictionary.insert name compiled cache.entries⟩)

end PolicyCache
end SafeMarkup
