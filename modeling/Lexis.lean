import Lexis.Command.FileTree
import Lexis.Cursor
import Lexis.Diagnostic.Editor
import Lexis.Main
import Lexis.Session
import Lexis.Token.Equality
import Lexis.Token.Spelling
import Lexis.Proofs.Lexeme.Comment
import Lexis.Proofs.Lexeme.Failure
import Lexis.Proofs.Lexeme.Form
import Lexis.Proofs.Lexeme.Numeral
import Lexis.Proofs.Lexeme.Simulation
import Lexis.Proofs.Lexeme.Spelling
import Lexis.Proofs.LineFeed
import Lexis.Proofs.Pieces
import Lexis.Proofs.Session
import Lexis.Proofs.Source.Operations
import Lexis.Proofs.Source.Reader
import Lexis.Proofs.Source.Account
import Lexis.Proofs.Source.Repeat
import Lexis.Proofs.Lexeme.Blanks
import Lexis.Proofs.FailingSource
import Lexis.Proofs.Diagnostic.Caret
import Lexis.Proofs.Drivers
import Lexis.Proofs.Diagnostic.Editor
import Lexis.Proofs.Diagnostic.WithoutText
import Lexis.Proofs.Stability
import Lexis.Proofs.Command.FileTree
import Lexis.Proofs.Command.Run
import Lexis.Proofs.LongestSpelling
import Lexis.Proofs.NestedComment
import Lexis.Proofs.Passage
import Lexis.Proofs.TruncatedLiteral
import Lexis.Proofs.Decimal.Written
import Lexis.Proofs.PrintedNumber
import Lexis.Proofs.Decimal.Injective
import Lexis.Proofs.Text.Quoted
import Lexis.Proofs.Token.Text
import Lexis.Proofs.Listing
import Lexis.Proofs.Command.Listing
import Lexis.Proofs.Progress
import Lexis.Proofs.Text.Position
import Lexis.Proofs.Text.Location
import Lexis.Proofs.Cursor
import Lexis.Proofs.ReadAhead
