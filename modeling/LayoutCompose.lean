import LayoutCompose.Batch.Basic
import LayoutCompose.Batch.Files
import LayoutCompose.Batch.Path
import LayoutCompose.Command.Filter
import LayoutCompose.Command.Program
import LayoutCompose.Command.Request
import LayoutCompose.Compose.Chain
import LayoutCompose.Compose.Control
import LayoutCompose.Compose.Misfit
import LayoutCompose.Compose.References
import LayoutCompose.Compose.View
import LayoutCompose.Document.Attributes
import LayoutCompose.Document.Cause
import LayoutCompose.Document.Reading
import LayoutCompose.Kotlin.Call
import LayoutCompose.Kotlin.Expression
import LayoutCompose.Kotlin.Literal
import LayoutCompose.Kotlin.Name
import LayoutCompose.Kotlin.Page
import LayoutCompose.Kotlin.Screen
import LayoutCompose.Main
import LayoutCompose.Markup.Entity
import LayoutCompose.Markup.Event
import LayoutCompose.Markup.RawAttribute
import LayoutCompose.Markup.Token
import LayoutCompose.Note
import LayoutCompose.Number.Decimal
import LayoutCompose.Number.Shortest
import LayoutCompose.Number.Single
import LayoutCompose.Proofs.Attachment
import LayoutCompose.Proofs.AttributeOrder
import LayoutCompose.Proofs.AttributeText
import LayoutCompose.Proofs.BatchEffects
import LayoutCompose.Proofs.BatchIndependence
import LayoutCompose.Proofs.CaptionText
import LayoutCompose.Proofs.Collection
import LayoutCompose.Proofs.ColorText
import LayoutCompose.Proofs.CompactCalls
import LayoutCompose.Proofs.Defaults
import LayoutCompose.Proofs.Delivery
import LayoutCompose.Proofs.DocumentText
import LayoutCompose.Proofs.Element
import LayoutCompose.Proofs.ElementPosition
import LayoutCompose.Proofs.Emission
import LayoutCompose.Proofs.Essence
import LayoutCompose.Proofs.Exactness
import LayoutCompose.Proofs.Fitness
import LayoutCompose.Proofs.FlagOrder
import LayoutCompose.Proofs.FunctionNames
import LayoutCompose.Proofs.GoneViews
import LayoutCompose.Proofs.HiddenNames
import LayoutCompose.Proofs.Indentation
import LayoutCompose.Proofs.LineText
import LayoutCompose.Proofs.ModifierOrder
import LayoutCompose.Proofs.ModifierText
import LayoutCompose.Proofs.Names
import LayoutCompose.Proofs.NumeralText
import LayoutCompose.Proofs.Outcome
import LayoutCompose.Proofs.Page
import LayoutCompose.Proofs.Places
import LayoutCompose.Proofs.RangeText
import LayoutCompose.Proofs.ReadValues
import LayoutCompose.Proofs.Readings
import LayoutCompose.Proofs.ReferenceNames
import LayoutCompose.Proofs.ReferenceSpelling
import LayoutCompose.Proofs.ReferenceText
import LayoutCompose.Proofs.Replacement
import LayoutCompose.Proofs.Rounding
import LayoutCompose.Proofs.RoundingInterval
import LayoutCompose.Proofs.Scanner
import LayoutCompose.Proofs.SliderStops
import LayoutCompose.Proofs.StackedGroups
import LayoutCompose.Proofs.Strictness
import LayoutCompose.Proofs.StringText
import LayoutCompose.Proofs.TagSpelling
import LayoutCompose.Proofs.TargetPaths
import LayoutCompose.Proofs.TokenSource
import LayoutCompose.Proofs.TrimmedText
import LayoutCompose.Proofs.Validation
import LayoutCompose.Proofs.ViewCode
import LayoutCompose.Proofs.Views
import LayoutCompose.Proofs.WellTyped
import LayoutCompose.Proofs.WrittenCode
import LayoutCompose.Text.Blank
import LayoutCompose.Text.Cased
import LayoutCompose.Text.LetterCase
import LayoutCompose.Text.Marks
import LayoutCompose.Text.Plain
import LayoutCompose.Text.Position
import LayoutCompose.Text.Quoted
import LayoutCompose.Text.Ranges
import LayoutCompose.Text.Unprintable
import LayoutCompose.Text.Words
import LayoutCompose.Value.Caption
import LayoutCompose.Value.Choice
import LayoutCompose.Value.Color
import LayoutCompose.Value.Dimension
import LayoutCompose.Value.Expectation
import LayoutCompose.Value.Flags
import LayoutCompose.Value.Reference
import LayoutCompose.Value.Scalar
import LayoutCompose.Value.Span
import LayoutCompose.View.Basic
import LayoutCompose.View.Frame
import LayoutCompose.View.Kind
import LayoutCompose.View.Listing
import LayoutCompose.View.Outline
import LayoutCompose.View.Vocabulary
