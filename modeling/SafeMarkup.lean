import SafeMarkup.Main
import SafeMarkup.Proofs.Agreement
import SafeMarkup.Proofs.Aliases
import SafeMarkup.Proofs.Chain
import SafeMarkup.Proofs.Collapse
import SafeMarkup.Proofs.Convergence
import SafeMarkup.Proofs.Deciding
import SafeMarkup.Proofs.EscapedText
import SafeMarkup.Proofs.Links
import SafeMarkup.Proofs.PlainText
import SafeMarkup.Proofs.Preparation
import SafeMarkup.Proofs.Requirement
import SafeMarkup.Proofs.TopLevel
import SafeMarkup.Proofs.Verdict
import SafeMarkup.Proofs.VisibleText
import SafeMarkup.Proofs.Whitelist
import SafeMarkup.Proofs.Writing
import SafeMarkup.Proofs.Nesting
import SafeMarkup.Proofs.Journal
import SafeMarkup.Proofs.Disclosure
import SafeMarkup.Proofs.Observation
import SafeMarkup.Proofs.Compilation
import SafeMarkup.Proofs.Denial
import SafeMarkup.Proofs.Blanks
import SafeMarkup.Proofs.Lowercase
import SafeMarkup.Proofs.Slots
import SafeMarkup.Proofs.Pieces
import SafeMarkup.Proofs.Styles
import SafeMarkup.Proofs.Places
import SafeMarkup.Proofs.Truncation
import SafeMarkup.Proofs.Shapes
import SafeMarkup.Proofs.Settling
import SafeMarkup.Proofs.Vocabulary
import SafeMarkup.Proofs.PolicyData
import SafeMarkup.Proofs.Cache
import SafeMarkup.Proofs.Preference
import SafeMarkup.Proofs.Numerals
import SafeMarkup.Proofs.Reading
import SafeMarkup.Proofs.Rejoining
import SafeMarkup.Proofs.Brackets
import SafeMarkup.Proofs.Anchoring
import SafeMarkup.Proofs.Merging
import SafeMarkup.Proofs.Rewrapping
import SafeMarkup.Proofs.Replacement
import SafeMarkup.Proofs.Machine
import SafeMarkup.Proofs.Output
import SafeMarkup.Proofs.Delimiting
import SafeMarkup.Proofs.Emptiness
import SafeMarkup.Proofs.Renaming
import SafeMarkup.Proofs.Soundness
import SafeMarkup.Proofs.Ambiguity
import SafeMarkup.Proofs.Addresses
import SafeMarkup.Proofs.Runs
import SafeMarkup.Proofs.Logs
import SafeMarkup.Proofs.Signs
