import SafeMarkup.Text.Basic

/-!
Contract: what a run reports besides its result.

Owns: decisions for the audit trail, the other notes, and results that carry notes.
Does not own: where notes go. Whoever runs the library sends decisions to a sink and shows or drops
the rest; no result depends on it.
-/

namespace SafeMarkup

/-- A decision worth keeping: whether something was accepted, what decided, on which input and with
which output. -/
structure Decision where
  accepted : Bool
  rule : Text
  input : Text
  output : Text
deriving DecidableEq, Repr

/-- The part of the library a warning comes from. -/
inductive Origin where
  | policy
  | compilation
  | markup
  | audit
  /-- The parser, whose warnings are about markup and not about policies. -/
  | parsing
deriving DecidableEq, Repr

/-- Something reported during a run. -/
inductive Note where
  /-- A line about a single check, for whoever follows the rules at work. -/
  | trace (line : Text)
  /-- A decision for the audit trail. -/
  | decision (decision : Decision)
  /-- A line about the progress of a whole run. -/
  | progress (line : Text)
  | warning (origin : Origin) (line : Text)
deriving DecidableEq, Repr

namespace Note

def decision? : Note → Option Decision
  | .decision made => some made
  | _ => none

def trace? : Note → Option Text
  | .trace line => some line
  | _ => none

def progress? : Note → Option Text
  | .progress line => some line
  | _ => none

/-- The line of a warning about policies and their use. -/
def warning? : Note → Option Text
  | .warning .parsing _ => none
  | .warning _ line => some line
  | _ => none

end Note

/-- A result with the notes made on the way to it, in order. -/
structure Reported (α : Type _) where
  value : α
  notes : List Note
deriving Repr

namespace Reported

variable {α β : Type _}

instance : Monad Reported where
  pure value := ⟨value, []⟩
  bind first next := ⟨(next first.value).value, first.notes ++ (next first.value).notes⟩

@[simp] theorem value_pure (value : α) : (pure value : Reported α).value = value := rfl

@[simp] theorem notes_pure (value : α) : (pure value : Reported α).notes = [] := rfl

@[simp] theorem value_bind (first : Reported α) (next : α → Reported β) :
    (first >>= next).value = (next first.value).value := rfl

@[simp] theorem notes_bind (first : Reported α) (next : α → Reported β) :
    (first >>= next).notes = first.notes ++ (next first.value).notes := rfl

instance : LawfulMonad Reported :=
  LawfulMonad.mk' Reported
    (fun first => by
      obtain ⟨value, notes⟩ := first
      exact congrArg (Reported.mk value) (List.append_nil notes))
    (fun _ _ => rfl)
    (fun first second third => congrArg (Reported.mk _) (List.append_assoc ..))

def note (note : Note) : Reported Unit := ⟨(), [note]⟩

/-- Makes a note if a condition holds. -/
def noteIf (condition : Bool) (entry : Note) : Reported Unit :=
  if condition then note entry else pure ()

def decisions (reported : Reported α) : List Decision := reported.notes.filterMap Note.decision?

end Reported
end SafeMarkup
