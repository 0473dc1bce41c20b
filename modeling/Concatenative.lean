import Concatenative.CommandLine
import Concatenative.Datum
import Concatenative.Datum.Display
import Concatenative.Datum.Equality
import Concatenative.Decimal
import Concatenative.Directory
import Concatenative.Effect.Computation
import Concatenative.Effect.Console
import Concatenative.Effect.Fault
import Concatenative.Effect.Handler
import Concatenative.Effect.Request
import Concatenative.Effect.Script
import Concatenative.Fraction
import Concatenative.Grammar.Loose
import Concatenative.Grammar.Phrase
import Concatenative.Grammar.Reading
import Concatenative.Grammar.Source
import Concatenative.Grammar.Token
import Concatenative.Grammar.Tree
import Concatenative.History
import Concatenative.Interactive
import Concatenative.Machine
import Concatenative.Machine.Compile
import Concatenative.Main
import Concatenative.Program
import Concatenative.Proofs.Alphabet
import Concatenative.Proofs.Composition
import Concatenative.Proofs.Conduct
import Concatenative.Proofs.Containment
import Concatenative.Proofs.Conversation
import Concatenative.Proofs.Course
import Concatenative.Proofs.Cover
import Concatenative.Proofs.Depth
import Concatenative.Proofs.Derivation
import Concatenative.Proofs.Dialogue
import Concatenative.Proofs.Direct
import Concatenative.Proofs.Divergence
import Concatenative.Proofs.Dump
import Concatenative.Proofs.Escape
import Concatenative.Proofs.Extension
import Concatenative.Proofs.Frame
import Concatenative.Proofs.Furthest
import Concatenative.Proofs.Greedy
import Concatenative.Proofs.Inline
import Concatenative.Proofs.Interchange
import Concatenative.Proofs.Juxtaposition
import Concatenative.Proofs.Linearity
import Concatenative.Proofs.Meaning
import Concatenative.Proofs.Numeral
import Concatenative.Proofs.Position
import Concatenative.Proofs.Printing
import Concatenative.Proofs.Provenance
import Concatenative.Proofs.Regular
import Concatenative.Proofs.Rejection
import Concatenative.Proofs.Rollback
import Concatenative.Proofs.RoundTrip
import Concatenative.Proofs.Sequence
import Concatenative.Proofs.Shadow
import Concatenative.Proofs.Showing
import Concatenative.Proofs.Similarity
import Concatenative.Proofs.Stock
import Concatenative.Proofs.Trimming
import Concatenative.Proofs.Verdict
import Concatenative.Scenario
import Concatenative.Session
import Concatenative.Term
import Concatenative.Text.Blank
import Concatenative.Text.Block
import Concatenative.Text.Digit
import Concatenative.Text.Excerpt
import Concatenative.Text.Letter
import Concatenative.Text.Line
import Concatenative.Text.Printable
import Concatenative.Text.Quotation
