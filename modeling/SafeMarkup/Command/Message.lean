import SafeMarkup.Report

/-!
Contract: lines for whoever runs the program.

Owns: status lines, which are coloured where that can be seen, and log lines for notes.
Does not own: which of them a run shows.
-/

namespace SafeMarkup

/-- What a status line is about. -/
inductive StatusKind where
  | info
  | warning
  | error
deriving DecidableEq, Repr

namespace StatusKind

def label : StatusKind → Text
  | .info => "info"
  | .warning => "warning"
  | .error => "error"

/-- Text between two codes of a terminal. -/
def between (first last : String) (text : Text) : Text :=
  ('\x1b' :: '[' :: first.toList) ++ text ++ ('\x1b' :: '[' :: last.toList)

def bold (text : Text) : Text := between "1m" "0m" text

def coloured (colour : String) (text : Text) : Text := between colour "39m" text

/-- The line of a kind with a message. -/
def line (kind : StatusKind) (inColour : Bool) (message : Text) : Text :=
  let (label, message) : Text × Text :=
    if inColour then
      match kind with
      | .info => (coloured "36m" kind.label, message)
      | .warning => (bold (coloured "33m" kind.label), message)
      | .error => (bold (coloured "31m" kind.label), coloured "31m" message)
    else (kind.label, message)
  "[trustedhtml] " ++ label ++ ": " ++ message ++ ['\n']

end StatusKind

/-! ## Log lines -/

/-- How much is logged. -/
inductive LogLevel where
  | off
  | warnings
  /-- Everything there is. -/
  | all
deriving DecidableEq, Repr

/-- The part of the program a warning names. -/
def Origin.label : Origin → Text
  | .policy => "trustedhtml_core::config"
  | .compilation => "trustedhtml_core::sanitizers::compiler"
  | .markup => "trustedhtml_core::dom"
  | .audit => "trustedhtml_core::audit"
  | .parsing => "html5ever::tree_builder"

/-- A log line. The lines of a message behind its first are indented. -/
def logLine (level origin message : Text) : Text :=
  '[' :: (level ++ ' ' :: origin ++ "] " ++ Text.replaceAll ['\n'] "\n    " message ++ ['\n'])

namespace Note

/-- What is logged of a note; `tracing` where the lines about single checks are. -/
def logText (level : LogLevel) (tracing : Bool) : Note → Text
  | .warning origin line => if level = .off then [] else logLine "WARN " origin.label line
  | .trace line =>
    if tracing || level = .all then logLine "DEBUG" "trustedhtml_core::trace" line else []
  | .decision _ => []
  | .progress _ => []

end Note
end SafeMarkup
