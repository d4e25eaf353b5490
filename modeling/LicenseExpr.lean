import LicenseExpr.CommandLine.Help
import LicenseExpr.CommandLine.Invocation
import LicenseExpr.CommandLine.Run
import LicenseExpr.CommandLine.Scan
import LicenseExpr.CommandLine.Usage
import LicenseExpr.CommandLine.Word
import LicenseExpr.Json.Reader
import LicenseExpr.Log.Session
import LicenseExpr.Main
import LicenseExpr.Parsing
import LicenseExpr.Proofs.Grammar.Derivation
import LicenseExpr.Settings.Discovery
import LicenseExpr.Settings.Layers
import LicenseExpr.Tree.Comparison
import LicenseExpr.Tree.Leaves
import LicenseExpr.Tree.Outline
import LicenseExpr.Proofs.Grammar.Reading
import LicenseExpr.Proofs.Grammar.Acceptance
import LicenseExpr.Proofs.Grammar.CorrectPrefix
import LicenseExpr.Proofs.Token.Words
import LicenseExpr.Proofs.Grammar.Grouping
import LicenseExpr.Proofs.Tree.CanonicalForm
import LicenseExpr.Proofs.Grammar.Balance
import LicenseExpr.Proofs.Token.Spacing
import LicenseExpr.Proofs.Grammar.Redundancy
import LicenseExpr.Proofs.Json.Strings
import LicenseExpr.Proofs.Json.RoundTrip
import LicenseExpr.Proofs.Tree.Outline
import LicenseExpr.Proofs.Tree.Printed
import LicenseExpr.Proofs.CommandLine.Displays
import LicenseExpr.Proofs.Settings.Sections
import LicenseExpr.Proofs.CommandLine.DepthArgument
import LicenseExpr.Proofs.Settings.Layers
import LicenseExpr.Proofs.CommandLine.Options
import LicenseExpr.Proofs.Settings.Failures
import LicenseExpr.Proofs.Token.Casing
import LicenseExpr.Proofs.CommandLine.Verbatim
import LicenseExpr.Proofs.Log.Sessions
import LicenseExpr.Proofs.Toml.Hexadecimal
import LicenseExpr.Proofs.Settings.Verdicts
import LicenseExpr.Proofs.Tree.Licenses
import LicenseExpr.Proofs.Text.Quoted
import LicenseExpr.Proofs.Tree.Catalogue
import LicenseExpr.Proofs.Tree.DetailedForm
import LicenseExpr.Proofs.Tree.View
import LicenseExpr.Proofs.CommandLine.Drawings
import LicenseExpr.Proofs.Text.Printable
import LicenseExpr.Proofs.Grammar.Messages
import LicenseExpr.Proofs.Log.Truncation
import LicenseExpr.Proofs.Settings.Discovery
import LicenseExpr.Proofs.Grammar.Calls
