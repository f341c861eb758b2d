import SqlProbe.Main
import SqlProbe.Proofs.Attempts
import SqlProbe.Proofs.Decision.Stages
import SqlProbe.Proofs.Decision.Parts
import SqlProbe.Proofs.Decision.Notes
import SqlProbe.Proofs.Decision.Thresholds
import SqlProbe.Proofs.Acceptance
import SqlProbe.Proofs.Validation
import SqlProbe.Proofs.Number.Sizes
import SqlProbe.Proofs.Number.Nearest
import SqlProbe.Proofs.Number.Rounding
import SqlProbe.Proofs.Number.Exactness
import SqlProbe.Proofs.Numeral.Grammar
import SqlProbe.Proofs.Numeral.Separators
import SqlProbe.Proofs.Numeral.Reader
import SqlProbe.Proofs.Numeral.Denotation
import SqlProbe.Proofs.Numeral.Exponents
import SqlProbe.Proofs.Numeral.Exact
import SqlProbe.Proofs.Numeral.Writing
import SqlProbe.Proofs.Numeral.Removal
import SqlProbe.Proofs.Numeral.Insertion
import SqlProbe.Proofs.Number.Truncation
import SqlProbe.Proofs.Threshold.Grammar
import SqlProbe.Proofs.Threshold.Saturation
import SqlProbe.Proofs.Number.Order
import SqlProbe.Proofs.Threshold.Canonical
import SqlProbe.Proofs.Threshold.Ranges
import SqlProbe.Proofs.Text.Quoted
import SqlProbe.Proofs.Text.Flanked
import SqlProbe.Proofs.Report
import SqlProbe.Proofs.Report.Lines
import SqlProbe.Proofs.Verbosity
import SqlProbe.Proofs.Switches.Union
import SqlProbe.Proofs.Switches.Uses
import SqlProbe.Proofs.Switches.Composition
import SqlProbe.Proofs.Switches.Value
import SqlProbe.Proofs.Switches.Spelling
import SqlProbe.Proofs.Switches.Written
import SqlProbe.Proofs.Yaml.Meaning
import SqlProbe.Proofs.Yaml.Blank
import SqlProbe.Proofs.Yaml.Quoting
import SqlProbe.Proofs.Yaml.Lines
import SqlProbe.Proofs.Yaml.Digits
import SqlProbe.Proofs.Yaml.Numbers
import SqlProbe.Proofs.Settings.Fields
import SqlProbe.Proofs.Settings.History
import SqlProbe.Proofs.Settings.Entries
import SqlProbe.Proofs.Settings.Mapping
import SqlProbe.Proofs.Settings.Sources
import SqlProbe.Proofs.Settings.BareThreshold
import SqlProbe.Proofs.Session
import SqlProbe.Proofs.Invocation
import SqlProbe.Proofs.Secrecy
