import Crosswalk.Text.Blank
import Crosswalk.Text.Identifier
import Crosswalk.Text.Normalize
import Crosswalk.Text.Printable
import Crosswalk.Text.Utf8
import Crosswalk.Decimal.Layout
import Crosswalk.Syntax.Stmt
import Crosswalk.Print.Expr
import Crosswalk.Print.Stmt
import Crosswalk.Token.Lexer
import Crosswalk.Token.StringValue
import Crosswalk.Grammar.Reader
import Crosswalk.Grammar.Interpolation
import Crosswalk.Grammar.Expression
import Crosswalk.Grammar.Statement
import Crosswalk.Comment.Place
import Crosswalk.Reading
import Crosswalk.Mapping.Parse
import Crosswalk.Conversion
import Crosswalk.Pass
import Crosswalk.Session
import Crosswalk.Source
import Crosswalk.CommandLine.Run
import Crosswalk.Main
import Crosswalk.Proofs.Mapping.Grammar
import Crosswalk.Proofs.Conversion.Meaning
import Crosswalk.Proofs.Conversion.RoundTrip
import Crosswalk.Proofs.Tree.Order
import Crosswalk.Proofs.Pass.Run
import Crosswalk.Proofs.Pass.Frame
import Crosswalk.Proofs.Pass.Correspondence
import Crosswalk.Proofs.Pass.Settled
import Crosswalk.Proofs.Pass.Rearranged
import Crosswalk.Proofs.Pass.Origin
import Crosswalk.Proofs.Pass.Verdict
import Crosswalk.Proofs.Pass.Listing
import Crosswalk.Proofs.Session.History
import Crosswalk.Proofs.Session.ReadBack
import Crosswalk.Proofs.CommandLine.Run
import Crosswalk.Proofs.Conversion.Distinct
import Crosswalk.Proofs.Conversion.Scope
import Crosswalk.Proofs.CommandLine.Crash
import Crosswalk.Proofs.Conversion.Shape
import Crosswalk.Proofs.Conversion.ReadBack
import Crosswalk.Proofs.Mapping.Fault
import Crosswalk.Proofs.Tree.Outermost
import Crosswalk.Proofs.Mapping.Cut
import Crosswalk.Proofs.Syntax.DottedName
import Crosswalk.Proofs.Declaration.Shape
import Crosswalk.Proofs.Pass.Foreseen
import Crosswalk.Proofs.Text.Normalize
import Crosswalk.Proofs.Token.Word
import Crosswalk.Proofs.Grammar.Gives
import Crosswalk.Proofs.Tree.Tidy
import Crosswalk.Proofs.Pass.Reference
