import Retouch.CommandLine
import Retouch.Main
import Retouch.Proofs.Diff.Rendering
import Retouch.Proofs.Files.Session
import Retouch.Proofs.Filter
import Retouch.Proofs.Pattern.Spans
import Retouch.Proofs.Preset
import Retouch.Proofs.Rule.LayoutInvariance
import Retouch.Proofs.Files.Writable
import Retouch.Proofs.Operation.Joined
import Retouch.Proofs.CommandLine.Report
import Retouch.Proofs.Document.Spelling
import Retouch.Proofs.Document.Json
import Retouch.Proofs.Document.Yaml.Source
import Retouch.Proofs.Document.Yaml.Flow
import Retouch.Proofs.Document.Reading
import Retouch.Proofs.Document.Yaml.Node
import Retouch.Proofs.Document.Agreement
import Retouch.Proofs.Document.Hcl.Lines
import Retouch.Proofs.Document.Hcl.Body
import Retouch.Proofs.Operation.Accounting
import Retouch.Proofs.Config.Validation
import Retouch.Proofs.Glob.Matching
import Retouch.Proofs.Config.Filtering
import Retouch.Proofs.Operation.Backup
import Retouch.Proofs.Pattern.Literal
import Retouch.Proofs.Pattern.Overlap
import Retouch.Proofs.Preset.Independence
import Retouch.Proofs.Text.Boundary
import Retouch.Proofs.Pattern.Boundary
import Retouch.Proofs.Rule.Encoding
import Retouch.Proofs.Path.Clean
import Retouch.Proofs.Config.Idempotence
import Retouch.Proofs.CommandLine.RuleLines
import Retouch.Proofs.Pattern.AnyText
import Retouch.Proofs.Config.Placement
import Retouch.Proofs.Diff.Codes
import Retouch.Proofs.Diff.Colours
import Retouch.Proofs.Console
import Retouch.Proofs.Preview
