import QueryTemplate.Command
import QueryTemplate.Pattern.Filter
import QueryTemplate.Proofs.Alike.Template
import QueryTemplate.Proofs.Alternation
import QueryTemplate.Proofs.Argument
import QueryTemplate.Proofs.Arithmetic
import QueryTemplate.Proofs.BareName
import QueryTemplate.Proofs.Binary.Rounding
import QueryTemplate.Proofs.Binary.Value
import QueryTemplate.Proofs.Binary.Whole
import QueryTemplate.Proofs.Chain
import QueryTemplate.Proofs.Coherence
import QueryTemplate.Proofs.Comparison
import QueryTemplate.Proofs.Connected
import QueryTemplate.Proofs.Digits
import QueryTemplate.Proofs.Escapes
import QueryTemplate.Proofs.Grammar.RoundTrip
import QueryTemplate.Proofs.Marks.Count
import QueryTemplate.Proofs.Marks.Template
import QueryTemplate.Proofs.Membership
import QueryTemplate.Proofs.Overrides
import QueryTemplate.Proofs.Path.Access
import QueryTemplate.Proofs.Placeholder.RoundTrip
import QueryTemplate.Proofs.Run.Filter
import QueryTemplate.Proofs.Run.Frame
import QueryTemplate.Proofs.Shrinking.Template
import QueryTemplate.Proofs.Spans
import QueryTemplate.Proofs.Sql.Count
import QueryTemplate.Proofs.Static
import QueryTemplate.Proofs.Validation
import QueryTemplate.Proofs.Values
import QueryTemplate.Proofs.Window
import QueryTemplate.Value.Reader
