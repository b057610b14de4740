import LineShell.Text.Blank
import LineShell.Text.Split
import LineShell.Text.Utf8
import LineShell.Text.Numeral
import LineShell.Text.Grapheme
import LineShell.Unicode.Value
import LineShell.Error
import LineShell.Quote
import LineShell.Command
import LineShell.Command.Parser
import LineShell.Association
import LineShell.Path
import LineShell.FileTree
import LineShell.FileTree.Walk
import LineShell.FileTree.Access
import LineShell.Environment
import LineShell.Pattern
import LineShell.Stream
import LineShell.Application
import LineShell.Eval
import LineShell.Argument
import LineShell.Redirection
import LineShell.Evaluation
import LineShell.Regex
import LineShell.Usage
import LineShell.Builtin
import LineShell.Console
import LineShell.CommandLine
import LineShell.Main
import LineShell.Proofs.Cuts
import LineShell.Proofs.Faults
import LineShell.Proofs.Tokens
import LineShell.Proofs.OneScan
import LineShell.Proofs.NormalForm
import LineShell.Proofs.Printing
import LineShell.Proofs.Nesting
import LineShell.Proofs.Resolution
import LineShell.Proofs.Escape
import LineShell.Proofs.Endings
import LineShell.Proofs.Pipes
import LineShell.Proofs.Sequences
import LineShell.Proofs.QuoteAgreement
import LineShell.Proofs.Closure
import LineShell.Proofs.Histories
import LineShell.Proofs.Exits
import LineShell.Proofs.LineBreaks
import LineShell.Proofs.Handing
import LineShell.Proofs.Quiet
import LineShell.Proofs.Capture
import LineShell.Proofs.Infills
import LineShell.Proofs.Pasting
import LineShell.Proofs.Bodies
import LineShell.Proofs.Deepening
import LineShell.Proofs.BackQuotes
import LineShell.Proofs.Interleaving
import LineShell.Proofs.Actions
import LineShell.Proofs.Truncation
import LineShell.Proofs.Walks
import LineShell.Proofs.Outputs
import LineShell.Proofs.Directories
import LineShell.Proofs.Writing
import LineShell.Proofs.Extraction
import LineShell.Proofs.Openings
import LineShell.Proofs.Encoding
import LineShell.Proofs.Feeding
import LineShell.Proofs.Draining
import LineShell.Proofs.Turns
import LineShell.Proofs.OneShot
import LineShell.Proofs.Windows
import LineShell.Proofs.Rereading
import LineShell.Proofs.Sorting
import LineShell.Proofs.Selections
import LineShell.Proofs.Decoding
import LineShell.Proofs.FileLists
import LineShell.Proofs.FilesInOrder
import LineShell.Proofs.Counting
import LineShell.Proofs.Flattening
import LineShell.Proofs.Lexemes
import LineShell.Proofs.ByteOrder
import LineShell.Proofs.Matching
import LineShell.Proofs.Expansion
import LineShell.Proofs.Listings
