import SafeMarkup.Command.Options

/-!
Contract: what is told about the command line itself.

Owns: the help, the version, and a line for each thing that is wrong with a command line.
Does not own: the options.
-/

namespace SafeMarkup

def versionText : Text := "trustedhtml 0.1.0\n"

def usageText : Text := "Usage: trustedhtml [OPTIONS]\n"

def helpText : Text :=
  "Sanitize untrusted HTML fragments against a whitelist policy\n\n" ++ usageText ++ "
Options:
  -i, --input <FILE>      Read input from a specified file instead of stdin.
  -o, --output <FILE>     Write output to a specified file instead of stdout.
      --policy <FILE>     Path to a custom policy file (YAML), merged over the default policy.
      --deny <ELEMENTS>   Remove these elements from the whitelist (comma-separated).
  -f, --format <FORMAT>   Output format: html, text or json.
      --audit-log <FILE>  Append audit events as JSON lines to this file.
      --trace             Log every accept/reject decision to stderr.
  -q, --quiet             Suppress all informational and debug messages.
  -d, --debug             Enable debug logging.
  -h, --help              Print help
  -V, --version           Print version
"

namespace UsageStop

def reason : UsageStop → Text
  | .invalidValue => "a value is missing or not allowed"
  | .unknownArgument => "unexpected argument found"
  | .repeatedOption => "an option cannot be used multiple times"
  | .unneededValue => "unexpected value for an option without one"
  | .help => "help was asked for"
  | .version => "the version was asked for"

def message : UsageStop → Text
  | .help => helpText
  | .version => versionText
  | stop => "error: " ++ stop.reason ++ "\n\n" ++ usageText

/-- Whether the text is what was asked for. -/
def isAnswer : UsageStop → Bool
  | .help => true
  | .version => true
  | _ => false

end UsageStop
end SafeMarkup
