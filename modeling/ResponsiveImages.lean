import ResponsiveImages.Config.Datum
import ResponsiveImages.Config.Decode
import ResponsiveImages.Config.Load
import ResponsiveImages.Conversion.Converter
import ResponsiveImages.Conversion.Walk
import ResponsiveImages.Decimal.Binary64
import ResponsiveImages.Decimal.Notation
import ResponsiveImages.Decimal.Shortest
import ResponsiveImages.Directive.Parse
import ResponsiveImages.Directive.Payload
import ResponsiveImages.FileSystem
import ResponsiveImages.Image
import ResponsiveImages.Imports
import ResponsiveImages.Json.Failure
import ResponsiveImages.Json.Message
import ResponsiveImages.Json.Printer
import ResponsiveImages.Json.Reader
import ResponsiveImages.Json.Value
import ResponsiveImages.LoaderRequest
import ResponsiveImages.Log
import ResponsiveImages.Markup.NamedReference
import ResponsiveImages.Markup.Node
import ResponsiveImages.Markup.Parser
import ResponsiveImages.Markup.Printer
import ResponsiveImages.Markup.Reference
import ResponsiveImages.Markup.Script
import ResponsiveImages.Markup.TagContent
import ResponsiveImages.Markup.Token
import ResponsiveImages.Markup.Tree
import ResponsiveImages.Mismatch
import ResponsiveImages.Options
import ResponsiveImages.Path
import ResponsiveImages.Quality
import ResponsiveImages.Settings
import ResponsiveImages.Template
import ResponsiveImages.Text.Character
import ResponsiveImages.Text.LowerCase
import ResponsiveImages.Text.Quoted
import ResponsiveImages.Text.Utf8
import ResponsiveImages.Toml.Document
import ResponsiveImages.Toml.Reader
import ResponsiveImages.Toml.Scalar
import ResponsiveImages.Toml.Table
import ResponsiveImages.Toml.Value
import ResponsiveImages.Proofs.Conversion.Candidates
import ResponsiveImages.Proofs.Markup.ByteOrderMark
import ResponsiveImages.Proofs.Conversion.Encounters
import ResponsiveImages.Proofs.Conversion.Idempotence
import ResponsiveImages.Proofs.Imports
import ResponsiveImages.Proofs.Conversion.References
import ResponsiveImages.Proofs.Conversion.ParsedTemplates
import ResponsiveImages.Proofs.Conversion.ImportUse
import ResponsiveImages.Proofs.Conversion.ImportStyles
import ResponsiveImages.Proofs.Markup.Rescanning
import ResponsiveImages.Proofs.Markup.ReadBack
import ResponsiveImages.Proofs.Conversion.Refusals
import ResponsiveImages.Proofs.Conversion.TextOrder
import ResponsiveImages.Proofs.Conversion.Failures
import ResponsiveImages.Proofs.Conversion.InPlace
import ResponsiveImages.Proofs.Conversion.Halting
import ResponsiveImages.Proofs.Conversion.Outcomes
import ResponsiveImages.Proofs.Conversion.LexemeRewriting
import ResponsiveImages.Proofs.Conversion.Likeness
import ResponsiveImages.Proofs.Conversion.Concatenation
import ResponsiveImages.Proofs.Conversion.Legibility
import ResponsiveImages.Proofs.Conversion.Recompilation
import ResponsiveImages.Proofs.Directive.Grammar
import ResponsiveImages.Proofs.Conversion.AttributeFrame
import ResponsiveImages.Proofs.Json.Members
import ResponsiveImages.Proofs.Conversion.Layers
import ResponsiveImages.Proofs.Json.ReadBack
import ResponsiveImages.Proofs.Text.Lower
import ResponsiveImages.Proofs.Directive.Values
import ResponsiveImages.Proofs.Directive.Listing
import ResponsiveImages.Proofs.Conversion.Repetition
import ResponsiveImages.Proofs.Conversion.Sources
import ResponsiveImages.Proofs.Decimal.Rounding
import ResponsiveImages.Proofs.Decimal.ReadBack
import ResponsiveImages.Proofs.Json.UniqueText
import ResponsiveImages.Proofs.Json.CanonicalValues
import ResponsiveImages.Proofs.Requests.Options
import ResponsiveImages.Proofs.Requests.Settings
import ResponsiveImages.Proofs.Requests.Identity
import ResponsiveImages.Proofs.Markup.Decoding
import ResponsiveImages.Proofs.Markup.Spelling
import ResponsiveImages.Proofs.Markup.ElementSpans
import ResponsiveImages.Proofs.Markup.AttributeTexts
import ResponsiveImages.Proofs.Markup.AttributeSpans
import ResponsiveImages.Proofs.Markup.TreeShape
import ResponsiveImages.Proofs.Toml.Statements
import ResponsiveImages.Proofs.Config.Fields
import ResponsiveImages.Proofs.Requests.QualityRange
import ResponsiveImages.Proofs.Config.UnknownNames
import ResponsiveImages.Proofs.Path
import ResponsiveImages.Proofs.Config.Discovery
import ResponsiveImages.Proofs.IndexedImports
import ResponsiveImages.Proofs.Markup.Edits
