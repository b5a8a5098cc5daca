import SafeMarkup.Report
import SafeMarkup.Site
import SafeMarkup.Text.Latest

/-!
Contract: checks of single values.

A check gets the value of one attribute, or learns that there is none, and returns the value to
keep or the reason for keeping none. The reason decides what becomes of the tag.
-/

namespace SafeMarkup

/-- Why a value was not accepted. -/
inductive Rejection where
  /-- A value that has to be there is missing or refused: the rules at hand do not apply. -/
  | missingRequired
  /-- The value shows that the whole tag is hostile. -/
  | invalid
  /-- The attribute is to be dropped. -/
  | absentOptional
  /-- Another value is to be taken. No check returns this one. -/
  | defaultApplied
  /-- The parts of a value do not fit together. -/
  | sequenceInconsistent
deriving DecidableEq, Repr

namespace Rejection

/-- The character that marks a rejection in trace lines. -/
def marker : Rejection → Char
  | .missingRequired => '!'
  | .invalid => '$'
  | .absentOptional => '-'
  | .defaultApplied => '+'
  | .sequenceInconsistent => '~'

def description : Rejection → Text
  | .missingRequired => "missing required value"
  | .invalid => "structurally invalid value"
  | .absentOptional => "absent optional value"
  | .defaultApplied => "default value applied"
  | .sequenceInconsistent => "inconsistent sequence"

def all : List Rejection :=
  [.missingRequired, .invalid, .absentOptional, .defaultApplied, .sequenceInconsistent]

end Rejection

/-- What every check can reach: the site, and whether to trace. -/
structure Environment where
  site : Site
  verbose : Bool

namespace Environment

/-- The environment of values outside any document. -/
def detached : Environment := ⟨.fixed "localhost", false⟩

def summary (environment : Environment) : Text :=
  "Environment \x7b site: " ++ Text.quoted environment.site.domain ++ ", verbose: " ++
    (if environment.verbose then ("true" : Text) else "false") ++ ", .. \x7d"

end Environment

/-- Where a value comes from. A quiet check reports nothing. -/
structure Context where
  element : Text
  key : Text
  quiet : Bool
  environment : Environment

namespace Context

def quieted (context : Context) : Context := { context with quiet := true }

def traces (context : Context) : Bool := context.environment.verbose && !context.quiet

end Context

/-- A check of a value that may be absent. -/
abbrev Check := Context → Option Text → Reported (Except Rejection Text)

end SafeMarkup
