import SafeMarkup.Rule.Check

/-!
Contract: the part of a validation that is the same for all kinds of values.

A value that is absent, or empty where an empty value does not count, is refused before the kind of
the validator looks at it. Which rejection a refusal is depends on the requirement alone. A
validator that always refuses still computes its value first, so that the trail shows what was
attempted.
-/

namespace SafeMarkup

/-- What happens when a value cannot be accepted. -/
inductive Requirement where
  /-- The rules at hand do not apply. -/
  | required
  /-- The attribute is dropped. -/
  | optional
  /-- Another value takes its place. -/
  | substitute (value : Text)
deriving DecidableEq, Repr

/-- Settings of every validator. -/
structure Options where
  requirement : Requirement
  /-- Blanks at both ends are removed before the value is looked at. -/
  strip : Bool
  /-- An empty value counts as present. -/
  allowEmpty : Bool
  /-- Every value is refused as invalid once it was computed. -/
  invalid : Bool
deriving DecidableEq, Repr

/-- The check of one kind: the value as written, and the value to look at. -/
abbrev Core := Context → (raw value : Text) → Reported (Except Rejection Text)

namespace Requirement

def rejection : Requirement → Rejection
  | .required => .missingRequired
  | .optional => .absentOptional
  | .substitute _ => .defaultApplied

/-- The value that takes the place of a refused one. -/
def replacement : Requirement → Text
  | .substitute value => value
  | _ => []

end Requirement

/-- The line that describes a decision about a value. -/
def decisionLine (kind : Text) (context : Context) (raw : Option Text) (value : Text) : Text :=
  "<" ++ context.element ++ " " ++ context.key ++ "=" ++ Text.quoted (raw.getD []) ++ " : " ++
    Text.quoted value ++ " ~ " ++ kind ++ ">"

/-- Reports a rejection: a trace line, and a decision if the value is invalid. A quiet check says
nothing, and neither does the absence of an optional value. -/
def reportRejection (kind : Text) (context : Context) (raw : Option Text) (value : Text)
    (rejection : Rejection) : Reported (Except Rejection Text) :=
  if context.quiet || (rejection == .absentOptional && raw.isNone) then pure (.error rejection)
  else do
    let line := decisionLine kind context raw value
    Reported.noteIf context.environment.verbose (.trace (rejection.marker :: line))
    Reported.noteIf (rejection == .invalid) (.decision ⟨false, line, raw.getD [], value⟩)
    pure (.error rejection)

namespace Options

/-- Refuses a value in the way the requirement calls for. -/
def refuse (options : Options) (kind : Text) (context : Context) (raw : Option Text)
    (value : Text) : Reported (Except Rejection Text) :=
  reportRejection kind context raw value options.requirement.rejection

/-- Looks at a value if there is one to look at. -/
def consider (options : Options) (kind : Text) (core : Core) : Check
  | context, none => options.refuse kind context none []
  | context, some raw =>
    if raw.isEmpty && !options.allowEmpty then options.refuse kind context (some raw) []
    else core context raw (if options.strip then Text.trim raw else raw)

/-- Gives out a computed value, or refuses it where all are refused. -/
def conclude (options : Options) (kind : Text) (context : Context) (raw : Option Text)
    (value : Text) : Reported (Except Rejection Text) :=
  if options.invalid then reportRejection kind context raw value .invalid else pure (.ok value)

/-- A whole validation: consider the value, replace it if that is the rule, and conclude. -/
def check (options : Options) (kind : Text) (core : Core) : Check := fun context raw => do
  match ← options.consider kind core context raw with
  | .ok value => options.conclude kind context raw value
  | .error .defaultApplied =>
    options.conclude kind context raw options.requirement.replacement
  | .error rejection => pure (.error rejection)

end Options
end SafeMarkup
