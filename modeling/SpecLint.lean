import SpecLint.Check.Context
import SpecLint.Check.Diagnostic
import SpecLint.Check.Kind
import SpecLint.Check.Registry
import SpecLint.Check.Result
import SpecLint.Check.Rules
import SpecLint.Check.Run
import SpecLint.Code.Concrete
import SpecLint.Code.Exchange
import SpecLint.Code.Location
import SpecLint.Code.Node
import SpecLint.Code.Parsed
import SpecLint.Code.Reading
import SpecLint.Code.Site
import SpecLint.CodeUnit.Basic
import SpecLint.CodeUnit.Name
import SpecLint.CommandLine.Arguments
import SpecLint.CommandLine.Handover
import SpecLint.CommandLine.Help
import SpecLint.CommandLine.Run
import SpecLint.CommandLine.Summary
import SpecLint.Data.Descent
import SpecLint.Data.Merge
import SpecLint.Data.Rendered
import SpecLint.Data.Value
import SpecLint.Disk.Append
import SpecLint.Disk.Basic
import SpecLint.Glob.Basic
import SpecLint.Glob.Braces
import SpecLint.Glob.Segment
import SpecLint.Json.Reader
import SpecLint.Json.Writer
import SpecLint.Main
import SpecLint.Number.Arithmetic
import SpecLint.Number.Binary64
import SpecLint.Number.Digits
import SpecLint.Number.Written
import SpecLint.Path.Basic
import SpecLint.Path.Home
import SpecLint.Path.Layout
import SpecLint.Proofs.Check.Agreement
import SpecLint.Proofs.Check.Candidates
import SpecLint.Proofs.Check.Discovery
import SpecLint.Proofs.Check.ExampleCalls
import SpecLint.Proofs.Check.FileEnds
import SpecLint.Proofs.Check.Findings
import SpecLint.Proofs.Check.FocusedCalls
import SpecLint.Proofs.Check.Memoization
import SpecLint.Proofs.Check.MissingSpec
import SpecLint.Proofs.Check.MoreSpecs
import SpecLint.Proofs.Check.Reach
import SpecLint.Proofs.Check.Recurrence
import SpecLint.Proofs.Check.Relaxation
import SpecLint.Proofs.Check.Shortfalls
import SpecLint.Proofs.Check.SpecPresence
import SpecLint.Proofs.Code.Comments
import SpecLint.Proofs.Code.Insertion
import SpecLint.Proofs.Code.Origin
import SpecLint.Proofs.Code.Parts
import SpecLint.Proofs.Code.Position
import SpecLint.Proofs.Code.Relocation
import SpecLint.Proofs.Code.Replacement
import SpecLint.Proofs.Code.Spans
import SpecLint.Proofs.Code.Traversal
import SpecLint.Proofs.CodeUnit.QualifiedName
import SpecLint.Proofs.CommandLine.ExitStatus
import SpecLint.Proofs.Data.Attempt
import SpecLint.Proofs.Data.Compatible
import SpecLint.Proofs.Data.Descents
import SpecLint.Proofs.Data.Merging
import SpecLint.Proofs.Disk.Extension
import SpecLint.Proofs.Disk.Listing
import SpecLint.Proofs.Disk.Refill
import SpecLint.Proofs.Disk.Tree
import SpecLint.Proofs.Glob.Alternatives
import SpecLint.Proofs.Glob.Blocks
import SpecLint.Proofs.Glob.Concatenation
import SpecLint.Proofs.Glob.Pieces
import SpecLint.Proofs.Glob.Starred
import SpecLint.Proofs.Path.Checkout
import SpecLint.Proofs.Path.Counterpart
import SpecLint.Proofs.Path.Order
import SpecLint.Proofs.Path.Spelling
import SpecLint.Proofs.Report.PlainLines
import SpecLint.Proofs.Report.Suspension
import SpecLint.Proofs.Routine.Amounts
import SpecLint.Proofs.Routine.Entries
import SpecLint.Proofs.Routine.FieldStorage
import SpecLint.Proofs.Routine.InnerUnits
import SpecLint.Proofs.Routine.Interleaving
import SpecLint.Proofs.Routine.Namespaces
import SpecLint.Proofs.Routine.Outline
import SpecLint.Proofs.Routine.Ownership
import SpecLint.Proofs.Routine.Partition
import SpecLint.Proofs.Routine.Places
import SpecLint.Proofs.Routine.Precedence
import SpecLint.Proofs.Routine.ReadingOrder
import SpecLint.Proofs.Routine.Shape
import SpecLint.Proofs.Routine.SourceOrder
import SpecLint.Proofs.Routine.Tally
import SpecLint.Proofs.Routine.Wrappers
import SpecLint.Proofs.Settings.Clashes
import SpecLint.Proofs.Settings.Document
import SpecLint.Proofs.Settings.Escapes
import SpecLint.Proofs.Settings.Layers
import SpecLint.Proofs.Settings.Options
import SpecLint.Proofs.Settings.Precedence
import SpecLint.Proofs.Settings.Regularity
import SpecLint.Proofs.Settings.Spellings
import SpecLint.Proofs.Settings.Variables
import SpecLint.Proofs.Spec.ExpectedHeaders
import SpecLint.Proofs.Spec.FirstLook
import SpecLint.Proofs.Spec.FocusForm
import SpecLint.Proofs.Spec.FocusedOuter
import SpecLint.Proofs.Spec.FocusedReading
import SpecLint.Proofs.Spec.FocusedSpec
import SpecLint.Proofs.Spec.FocusedText
import SpecLint.Proofs.Spec.FurtherSpecs
import SpecLint.Proofs.Spec.MoreAliases
import SpecLint.Proofs.Spec.MoreLines
import SpecLint.Proofs.Spec.OutermostHeaders
import SpecLint.Proofs.Spec.PhraseExtent
import SpecLint.Proofs.Spec.PhraseLanguage
import SpecLint.Proofs.Spec.Phrases
import SpecLint.Proofs.Spec.Question
import SpecLint.Proofs.Spec.Recall
import SpecLint.Proofs.Spec.Relisting
import SpecLint.Proofs.Spec.UnitHeaders
import SpecLint.Proofs.Spec.UnitScenarios
import SpecLint.Proofs.Spec.WildcardStem
import SpecLint.Proofs.Text.Decoding
import SpecLint.Proofs.Text.Folding
import SpecLint.Regex.Basic
import SpecLint.Regex.Fault
import SpecLint.Regex.Pattern
import SpecLint.Regex.Reader
import SpecLint.Regex.Search
import SpecLint.Report.Count
import SpecLint.Report.Event
import SpecLint.Report.Failure
import SpecLint.Report.Log
import SpecLint.Report.Markup
import SpecLint.Report.Message
import SpecLint.Report.Progress
import SpecLint.Report.Status
import SpecLint.Report.Style
import SpecLint.Routine.Basic
import SpecLint.Routine.Branches
import SpecLint.Routine.Exclusion
import SpecLint.Routine.Visibility
import SpecLint.Settings.Basic
import SpecLint.Settings.Environment
import SpecLint.Settings.Load
import SpecLint.Settings.Problem
import SpecLint.Settings.Reading
import SpecLint.Settings.Sections
import SpecLint.Snapshot
import SpecLint.Spec.Cache
import SpecLint.Spec.Comparison
import SpecLint.Spec.Coverage
import SpecLint.Spec.HeaderKey
import SpecLint.Spec.Headers
import SpecLint.Spec.Locator
import SpecLint.Spec.Phrase
import SpecLint.Text.Base64
import SpecLint.Text.Blank
import SpecLint.Text.Case
import SpecLint.Text.CaseTables
import SpecLint.Text.CharacterName
import SpecLint.Text.Columns
import SpecLint.Text.Emoji
import SpecLint.Text.EmojiNames
import SpecLint.Text.Escapes
import SpecLint.Text.Identifier
import SpecLint.Text.LetterNames
import SpecLint.Text.Lines
import SpecLint.Text.NameRun
import SpecLint.Text.Printable
import SpecLint.Text.Quoted
import SpecLint.Text.Ranges
import SpecLint.Text.Similarity
import SpecLint.Text.Split
import SpecLint.Text.SymbolNames
import SpecLint.Text.Utf8
import SpecLint.Text.Word
import SpecLint.Yaml.Cursor
import SpecLint.Yaml.Layer
import SpecLint.Yaml.Loop
import SpecLint.Yaml.Meaning
import SpecLint.Yaml.Reader
import SpecLint.Yaml.Scalar
import SpecLint.Yaml.Tag
import SpecLint.Yaml.Timestamp
import SpecLint.Yaml.Token
import SpecLint.Yaml.Tree
