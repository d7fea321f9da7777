import TargetTypes.Annotation
import TargetTypes.Command
import TargetTypes.Command.Arguments
import TargetTypes.Decimal.Layout
import TargetTypes.Decimal.Shortest
import TargetTypes.Fault
import TargetTypes.Field
import TargetTypes.Json
import TargetTypes.Json.Display
import TargetTypes.Json.Reader
import TargetTypes.Language
import TargetTypes.Language.Value
import TargetTypes.Language.Wrapping
import TargetTypes.Lexicon
import TargetTypes.Main
import TargetTypes.Operation
import TargetTypes.Options
import TargetTypes.Options.Reader
import TargetTypes.Preview
import TargetTypes.Proofs.Balance
import TargetTypes.Proofs.Boxing
import TargetTypes.Proofs.Configuration
import TargetTypes.Proofs.Influence
import TargetTypes.Proofs.Interchange
import TargetTypes.Proofs.ListField
import TargetTypes.Proofs.ListForm
import TargetTypes.Proofs.Marker
import TargetTypes.Proofs.MissingKey
import TargetTypes.Proofs.Output
import TargetTypes.Proofs.PageReading
import TargetTypes.Proofs.ReturnExpr
import TargetTypes.Proofs.Spelling
import TargetTypes.Proofs.Stages
import TargetTypes.Proofs.Surroundings
import TargetTypes.Proofs.TextField
import TargetTypes.Proofs.Trail
import TargetTypes.Proofs.WellFormed
import TargetTypes.Proofs.WrapperChain
import TargetTypes.Proofs.Wrapping
import TargetTypes.Proofs.Writing
import TargetTypes.ReturnType
import TargetTypes.Store
import TargetTypes.Store.Path
import TargetTypes.Target
import TargetTypes.Text
import TargetTypes.Text.Blank
import TargetTypes.Text.Bracket
import TargetTypes.Text.Case
import TargetTypes.Text.CaseTable
import TargetTypes.Text.CharSet
import TargetTypes.Text.Digit
import TargetTypes.Text.Printable
import TargetTypes.Text.Quoted
import TargetTypes.Text.Template
import TargetTypes.TypeExpr
import TargetTypes.TypeExpr.Parse
import TargetTypes.TypeExpr.Render
import TargetTypes.Proofs.Nesting
import TargetTypes.Proofs.MarkerOrder
import TargetTypes.Proofs.Unwrapping
import TargetTypes.Proofs.NullableReturn
import TargetTypes.Proofs.Descent
import TargetTypes.Proofs.BracketGrammar
import TargetTypes.Proofs.BlankSettings
import TargetTypes.Proofs.LetterCase
import TargetTypes.Proofs.ShownOperation
