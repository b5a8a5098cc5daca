import SafeMarkup.Validator.Options

/-!
Contract: values of several parts.

The parts of a value stand between delimiters. They are matched freely, as the one, two or four
widths around a box, or against slots in order, each of which may be left out.
-/

namespace SafeMarkup

/-- The texts between and behind parts. -/
structure Delimiters where
  /-- Separates the parts of a value that is read. -/
  delimiter : Text
  /-- Separates the parts of the value that is given out. -/
  joiner : Text
  /-- Ends the value that is given out. -/
  appender : Text
deriving DecidableEq, Repr

def Delimiters.spaces : Delimiters := ⟨" ", " ", []⟩

/-- A value with single spaces between its words. -/
def spaced (value : Text) : Text := Text.trim (Text.squeezeBlanks value)

/-- A matching of parts, with the value of each part that is kept. -/
abbrev Matching := Context → List Text → Reported (Except Rejection (List Text))

namespace Matching

/-- Every part by the same check. Parts that are dropped leave nothing behind. -/
def free (item : Check) : Matching
  | _, [] => pure (.ok [])
  | context, part :: parts => do
    match ← item context (some part) with
    | .ok value => return (← free item context parts).map (value :: ·)
    | .error .absentOptional => free item context parts
    | .error .invalid => pure (.error .invalid)
    | .error _ => pure (.error .sequenceInconsistent)

/-- Every part by the same check, and none dropped. -/
def all (item : Check) : Matching
  | _, [] => pure (.ok [])
  | context, part :: parts => do
    match ← item context (some part) with
    | .ok value => return (← all item context parts).map (value :: ·)
    | .error .invalid => pure (.error .invalid)
    | .error _ => pure (.error .sequenceInconsistent)

/-- One, two or four parts, none dropped. -/
def indent (item : Check) : Matching := fun context parts =>
  if parts.length = 1 ∨ parts.length = 2 ∨ parts.length = 4 then all item context parts
  else pure (.error .sequenceInconsistent)

/-- The parts in order against slots. A slot is left out if it refuses the part or if the other
parts do not fit behind it. -/
def slots (context : Context) : List Check → List Text → Reported (Except Rejection (List Text))
  | _, [] => pure (.ok [])
  | [], _ :: _ => pure (.error .sequenceInconsistent)
  | slot :: later, part :: parts => do
    match ← slot context.quieted (some part) with
    | .ok value =>
      match ← slots context later parts with
      | .ok values => pure (.ok (value :: values))
      | .error .invalid => pure (.error .invalid)
      | .error _ => slots context later (part :: parts)
    | .error .invalid => pure (.error .invalid)
    | .error _ => slots context later (part :: parts)

end Matching

/-- The trace line of parts that do not fit together. -/
def inconsistentLine (kind : Text) (context : Context) (value : Text) : Text :=
  Rejection.sequenceInconsistent.marker ::
    ("<" ++ context.element ++ " " ++ context.key ++ "=" ++ Text.quoted value ++ " ~ " ++ kind ++
      ">")

/-- The check of a value by a matching of its parts. -/
def sequenceCore (options : Options) (kind : Text) (delimiters : Delimiters)
    (matching : Matching) : Core := fun context raw value => do
  let value := spaced value
  match ← matching context (Text.splitOn delimiters.delimiter value) with
  | .ok [] => options.refuse kind context (some raw) value
  | .ok parts => pure (.ok (Text.join delimiters.joiner parts ++ delimiters.appender))
  | .error .invalid => pure (.error .invalid)
  | .error _ => do
    Reported.noteIf context.traces (.trace (inconsistentLine kind context value))
    options.refuse kind context (some raw) value

end SafeMarkup
