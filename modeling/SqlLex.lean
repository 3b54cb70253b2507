import SqlLex.Settings
import SqlLex.Token.Document
import SqlLex.Tokenizer.Log
import SqlLex.Proofs.Grammar
import SqlLex.Proofs.Pending
import SqlLex.Proofs.Choosing
import SqlLex.Proofs.Reading
import SqlLex.Proofs.Contiguity
import SqlLex.Proofs.Orderly
import SqlLex.Proofs.Acceptance
import SqlLex.Proofs.Respelling
import SqlLex.Proofs.Rescan
import SqlLex.Proofs.Delivery
import SqlLex.Proofs.Boundary
import SqlLex.Proofs.Halting
import SqlLex.Proofs.LongestMatch
import SqlLex.Proofs.LineFeed
import SqlLex.Proofs.ReadFailure
import SqlLex.Proofs.Rewriting
import SqlLex.Proofs.LetterCase
import SqlLex.Proofs.LineBreaks
import SqlLex.Proofs.Agreement
import SqlLex.Proofs.Stepping
import SqlLex.Proofs.Requests
import SqlLex.Proofs.Keeping
import SqlLex.Proofs.Progress
import SqlLex.Proofs.Ascending
import SqlLex.Proofs.Quoting
import SqlLex.Proofs.OwnText
import SqlLex.Proofs.Decoding
import SqlLex.Proofs.Documents
import SqlLex.Proofs.Lines
import SqlLex.Proofs.Naming
import SqlLex.Proofs.Lookahead
import SqlLex.Proofs.Calling
import SqlLex.Proofs.Accounting
