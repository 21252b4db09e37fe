import BracketMark.CommandLine.Arguments
import BracketMark.CommandLine.Paths
import BracketMark.CommandLine.Run
import BracketMark.Config
import BracketMark.Context
import BracketMark.Dict
import BracketMark.Document.Build
import BracketMark.Document.Render
import BracketMark.Document.Tree
import BracketMark.Engine
import BracketMark.Error
import BracketMark.File.Disk
import BracketMark.File.Files
import BracketMark.File.Path
import BracketMark.File.Survey
import BracketMark.Html.Escape
import BracketMark.Html.Safe
import BracketMark.Json
import BracketMark.Main
import BracketMark.Markup.Closable
import BracketMark.Markup.Keywords
import BracketMark.Markup.Name
import BracketMark.Markup.Nest
import BracketMark.Markup.Node
import BracketMark.Markup.NodeJson
import BracketMark.Markup.Span
import BracketMark.Markup.Token
import BracketMark.Tag.Arguments
import BracketMark.Tag.Definition
import BracketMark.Tag.Formatting
import BracketMark.Tag.Hook
import BracketMark.Tag.Links
import BracketMark.Tag.Quotation
import BracketMark.Tag.Registry
import BracketMark.Template.Basic
import BracketMark.Template.Builtin
import BracketMark.Template.Datum
import BracketMark.Template.Eval
import BracketMark.Template.Function
import BracketMark.Template.Language
import BracketMark.Template.Operand
import BracketMark.Template.Reader
import BracketMark.Template.Shelf
import BracketMark.Template.Store
import BracketMark.Template.Value
import BracketMark.Template.Word
import BracketMark.Text.Blank
import BracketMark.Text.Decimal
import BracketMark.Text.Numeral
import BracketMark.Text.Quoted
import BracketMark.Text.Upper
import BracketMark.Text.Visible
import BracketMark.Yaml.Scalar
import BracketMark.Yaml.Settings
import BracketMark.Proofs.Context
import BracketMark.Proofs.Document.Frames
import BracketMark.Proofs.Document.Indexed
import BracketMark.Proofs.Document.Injection
import BracketMark.Proofs.Document.Isolation
import BracketMark.Proofs.Document.Literals
import BracketMark.Proofs.Document.Outcome
import BracketMark.Proofs.Document.Outline
import BracketMark.Proofs.Document.Reading
import BracketMark.Proofs.Document.Requests
import BracketMark.Proofs.Document.Run
import BracketMark.Proofs.Document.Sessions
import BracketMark.Proofs.Document.Standard
import BracketMark.Proofs.Document.StandardTag
import BracketMark.Proofs.Document.Steps
import BracketMark.Proofs.Document.Targets
import BracketMark.Proofs.Document.Usage
import BracketMark.Proofs.Document.Uses
import BracketMark.Proofs.Effects
import BracketMark.Proofs.File.Components
import BracketMark.Proofs.File.Reading
import BracketMark.Proofs.Html.Escape
import BracketMark.Proofs.Html.Flow
import BracketMark.Proofs.Html.InnerText
import BracketMark.Proofs.Html.Literal
import BracketMark.Proofs.Html.Pieces
import BracketMark.Proofs.Markup.Closings
import BracketMark.Proofs.Markup.Depth
import BracketMark.Proofs.Markup.Events
import BracketMark.Proofs.Markup.GivenUp
import BracketMark.Proofs.Markup.JsonForm
import BracketMark.Proofs.Markup.KeywordGrammar
import BracketMark.Proofs.Markup.Layout
import BracketMark.Proofs.Markup.LetterCase
import BracketMark.Proofs.Markup.Names
import BracketMark.Proofs.Markup.NormalForm
import BracketMark.Proofs.Markup.Print
import BracketMark.Proofs.Markup.Quoted
import BracketMark.Proofs.Markup.Residue
import BracketMark.Proofs.Markup.RoundTrip
import BracketMark.Proofs.Markup.Scan
import BracketMark.Proofs.Markup.Spelling
import BracketMark.Proofs.Markup.Surplus
import BracketMark.Proofs.Tag.Links
import BracketMark.Proofs.Tag.Loading
import BracketMark.Proofs.Tag.Resolution
import BracketMark.Proofs.Tag.Schemes
import BracketMark.Proofs.Tag.Standard
import BracketMark.Proofs.Template.Applied
import BracketMark.Proofs.Template.Asked
import BracketMark.Proofs.Template.Builtin
import BracketMark.Proofs.Template.Printing
import BracketMark.Proofs.Template.Source
import BracketMark.Proofs.Template.Tiers
import BracketMark.Proofs.Text.Fold
import BracketMark.Proofs.Text.Quoted
import BracketMark.Proofs.Text.Replace
import BracketMark.Proofs.Text.Trim
