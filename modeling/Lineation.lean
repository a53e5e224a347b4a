import Lineation.Text.Lines
import Lineation.Text.Utf8
import Lineation.Tokenizer.Run
import Lineation.Render
import Lineation.TokenStream.Iterator
import Lineation.Diagnostics.Session
import Lineation.RuleSet.Toml
import Lineation.Files.Tree
import Lineation.CommandLine.Run
import Lineation.Limits.Constants
import Lineation.Main
import Lineation.Proofs.Tokenizer.Sources
import Lineation.Proofs.Tokenizer.Segmentation
import Lineation.Proofs.Tokenizer.Composition
import Lineation.Proofs.TokenStream.Index
import Lineation.Proofs.TokenStream.Editing
import Lineation.Proofs.Tokenizer.Linewise
import Lineation.Proofs.Toml.Quoted
import Lineation.Proofs.RuleSet.RoundTrip
import Lineation.Proofs.Tokenizer.Extension
import Lineation.Proofs.Tokenizer.Overlaps
import Lineation.Proofs.Tokenizer.CLike
import Lineation.Proofs.Diagnostics.Collector
import Lineation.Proofs.TokenStream.Traversal
import Lineation.Proofs.Tokenizer.Warnings
import Lineation.Proofs.Diagnostics.Session
import Lineation.Proofs.Files.Reading
import Lineation.Proofs.CommandLine.ExitCode
import Lineation.TokenStream.Edit
import Lineation.Proofs.Tokenizer.Observation
import Lineation.Proofs.TokenStream.Counting
import Lineation.Proofs.Diagnostics.Output
import Lineation.Proofs.CommandLine.Output
import Lineation.Proofs.Tokenizer.Capture
import Lineation.Proofs.Tokenizer.Location
import Lineation.Proofs.Tokenizer.Totals
import Lineation.Proofs.TokenStream.Iteration
import Lineation.Proofs.Render.Tokens
import Lineation.Diagnostics.Calls
import Lineation.Proofs.Diagnostics.Entries
import Lineation.Proofs.Render.Text
import Lineation.Proofs.Diagnostics.Collecting
import Lineation.Proofs.Diagnostics.Failing
import Lineation.Proofs.Files.Checks
import Lineation.Proofs.Diagnostics.Delivery
import Lineation.Proofs.Tokenizer.LineCount
import Lineation.Proofs.Token.Separation
import Lineation.Proofs.Text.Lowercase
