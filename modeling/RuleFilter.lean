import RuleFilter.Double.Basic
import RuleFilter.Double.Decimal
import RuleFilter.Double.Scaling
import RuleFilter.Error
import RuleFilter.Json.Basic
import RuleFilter.Json.Members
import RuleFilter.Json.Printer
import RuleFilter.Json.Reader
import RuleFilter.Number
import RuleFilter.Operator
import RuleFilter.Path
import RuleFilter.Pattern.Automaton
import RuleFilter.Pattern.Basic
import RuleFilter.Pattern.Expression
import RuleFilter.Pattern.Meaning
import RuleFilter.Pattern.Property
import RuleFilter.Pattern.Reader
import RuleFilter.Pattern.Size
import RuleFilter.Pattern.Tree
import RuleFilter.Predicate
import RuleFilter.Processor.Basic
import RuleFilter.Processor.Matcher
import RuleFilter.Reference.Basic
import RuleFilter.Reference.Comparison
import RuleFilter.Rule.Basic
import RuleFilter.Rule.Reader
import RuleFilter.Schema.Basic
import RuleFilter.Schema.FieldAttributes
import RuleFilter.Schema.Grammar.Basic
import RuleFilter.Schema.Grammar.Operand
import RuleFilter.Schema.Grammar.Operator
import RuleFilter.Schema.Grammar.Part
import RuleFilter.Schema.Grammar.Path
import RuleFilter.Schema.Grammar.Pattern
import RuleFilter.Schema.Grammar.Statement
import RuleFilter.Schema.Grammar.Type
import RuleFilter.Schema.Item
import RuleFilter.Schema.Token
import RuleFilter.Schema.TokenReader
import RuleFilter.Settings.Basic
import RuleFilter.Settings.Reader
import RuleFilter.Text.CharSet
import RuleFilter.Text.Fold
import RuleFilter.Text.Quoted
import RuleFilter.Text.Search
import RuleFilter.Unicode.Additions
import RuleFilter.Unicode.Age
import RuleFilter.Unicode.BinaryProperty
import RuleFilter.Unicode.Boundary
import RuleFilter.Unicode.Case
import RuleFilter.Unicode.GeneralCategory
import RuleFilter.Unicode.Runs
import RuleFilter.Unicode.Script
import RuleFilter.Value.Basic
import RuleFilter.Value.Candidate
import RuleFilter.Value.Description
import RuleFilter.Value.FieldDef
import RuleFilter.Proofs.Double.Decimal
import RuleFilter.Proofs.Double.Exact
import RuleFilter.Proofs.Double.Integer
import RuleFilter.Proofs.Double.Monotone
import RuleFilter.Proofs.Double.Numeral
import RuleFilter.Proofs.Double.Order
import RuleFilter.Proofs.Double.Rounding
import RuleFilter.Proofs.Double.Scaling
import RuleFilter.Proofs.Entries
import RuleFilter.Proofs.Json.Compound
import RuleFilter.Proofs.Json.Decoding
import RuleFilter.Proofs.Json.Document
import RuleFilter.Proofs.Json.Grammar
import RuleFilter.Proofs.Json.Literal
import RuleFilter.Proofs.Json.Locality
import RuleFilter.Proofs.Json.Number
import RuleFilter.Proofs.Json.Numeral
import RuleFilter.Proofs.Json.Reading
import RuleFilter.Proofs.Json.Recognition
import RuleFilter.Proofs.Json.Settled
import RuleFilter.Proofs.Json.Skip
import RuleFilter.Proofs.Json.Spelling
import RuleFilter.Proofs.Json.Step
import RuleFilter.Proofs.Json.String
import RuleFilter.Proofs.Json.WrittenNumber
import RuleFilter.Proofs.Matcher.Agreement
import RuleFilter.Proofs.Matcher.Meaning
import RuleFilter.Proofs.Matcher.Scan
import RuleFilter.Proofs.Number.Order
import RuleFilter.Proofs.Number.Widths
import RuleFilter.Proofs.Path.Composition
import RuleFilter.Proofs.Path.FieldChange
import RuleFilter.Proofs.Path.Image
import RuleFilter.Proofs.Path.Joining
import RuleFilter.Proofs.Path.Promoted
import RuleFilter.Proofs.Path.Related
import RuleFilter.Proofs.Path.Search
import RuleFilter.Proofs.Path.Segments
import RuleFilter.Proofs.Predicate.Construction
import RuleFilter.Proofs.Predicate.Evaluation
import RuleFilter.Proofs.Predicate.Folding
import RuleFilter.Proofs.Predicate.Length
import RuleFilter.Proofs.Predicate.Ordering
import RuleFilter.Proofs.Predicate.Text
import RuleFilter.Proofs.Processor.Acceptance
import RuleFilter.Proofs.Processor.Arrangement
import RuleFilter.Proofs.Processor.Compile
import RuleFilter.Proofs.Processor.Construction
import RuleFilter.Proofs.Processor.Failure
import RuleFilter.Proofs.Processor.Identity
import RuleFilter.Proofs.Processor.Negation
import RuleFilter.Proofs.Processor.Paging
import RuleFilter.Proofs.Processor.Places
import RuleFilter.Proofs.Processor.Privacy
import RuleFilter.Proofs.Processor.Query
import RuleFilter.Proofs.Processor.Renaming
import RuleFilter.Proofs.Processor.Repetition
import RuleFilter.Proofs.Processor.Representation
import RuleFilter.Proofs.Processor.Selection
import RuleFilter.Proofs.Processor.Sequence
import RuleFilter.Proofs.Reference.Codec
import RuleFilter.Proofs.Reference.Equality
import RuleFilter.Proofs.Reference.Meaning
import RuleFilter.Proofs.Reference.Numerals
import RuleFilter.Proofs.Reference.OfJson
import RuleFilter.Proofs.Rule.Codec
import RuleFilter.Proofs.Rule.Decoding
import RuleFilter.Proofs.Rule.Document
import RuleFilter.Proofs.Rule.Integers
import RuleFilter.Proofs.Rule.Normal
import RuleFilter.Proofs.Rule.Step
import RuleFilter.Proofs.Rule.Text
import RuleFilter.Proofs.Schema.Alignment
import RuleFilter.Proofs.Schema.Merging
import RuleFilter.Proofs.Schema.Remarks
import RuleFilter.Proofs.Settings.Bounds
import RuleFilter.Proofs.Settings.Codec
import RuleFilter.Proofs.Traversal
import RuleFilter.Proofs.Value.Alike
import RuleFilter.Proofs.Value.Document
import RuleFilter.Proofs.Value.Equality
import RuleFilter.Proofs.Value.FieldChange
import RuleFilter.Proofs.Value.Indistinct
import RuleFilter.Proofs.Value.NormalForm
import RuleFilter.Proofs.Value.RepeatedKeys
