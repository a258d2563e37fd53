import BnfParsing.CommandLine.Check
import BnfParsing.CommandLine.Interpret
import BnfParsing.CommandLine.Options
import BnfParsing.CommandLine.World
import BnfParsing.Derivation.Parser
import BnfParsing.Derivation.Trace
import BnfParsing.Failure
import BnfParsing.Grammar.Basic
import BnfParsing.Grammar.Compile
import BnfParsing.Grammar.Edit
import BnfParsing.Grammar.Index
import BnfParsing.Grammar.Escape
import BnfParsing.Grammar.InvalidRule
import BnfParsing.Grammar.Report
import BnfParsing.Grammar.RightSide
import BnfParsing.Grammar.Rule
import BnfParsing.Grammar.Source
import BnfParsing.Main
import BnfParsing.Regex.Basic
import BnfParsing.Regex.ClassName
import BnfParsing.Regex.Expression
import BnfParsing.Regex.Program
import BnfParsing.Regex.Reading
import BnfParsing.Regex.Search
import BnfParsing.Setup
import BnfParsing.Setup.Session
import BnfParsing.Symbol
import BnfParsing.Text.Basic
import BnfParsing.Text.Quoted
import BnfParsing.Tree.Basic
import BnfParsing.Tree.Catalogue
import BnfParsing.Tree.Digraph
import BnfParsing.Tree.Format
import BnfParsing.Tree.Markup
import BnfParsing.Tree.Path
import BnfParsing.Tree.Reduction
import BnfParsing.Tree.View
import BnfParsing.Tree.Walk
import BnfParsing.Tree.Writer
import BnfParsing.Unicode.CaseMapping
import BnfParsing.Unicode.Category
import BnfParsing.Unicode.CodePointSet
import BnfParsing.Unicode.Property
import BnfParsing.Unicode.Script
import BnfParsing.Unicode.Width
import BnfParsing.Proofs.Regex.Position
import BnfParsing.Proofs.Symbol.Consumption
import BnfParsing.Proofs.Derivation.Step
import BnfParsing.Proofs.Derivation.Coverage
import BnfParsing.Proofs.Derivation.Soundness
import BnfParsing.Proofs.Derivation.Choice
import BnfParsing.Proofs.Derivation.Agreement
import BnfParsing.Proofs.Derivation.Limit
import BnfParsing.Proofs.Derivation.Adequacy
import BnfParsing.Proofs.Derivation.LeftRecursion
import BnfParsing.Proofs.Grammar.References
import BnfParsing.Proofs.Grammar.Escaping
import BnfParsing.Proofs.Grammar.Division
import BnfParsing.Proofs.Grammar.Compilation
import BnfParsing.Proofs.Grammar.Display
import BnfParsing.Proofs.Grammar.Rereading
import BnfParsing.Proofs.Derivation.MissingRule
import BnfParsing.Proofs.Text.Trimming
import BnfParsing.Proofs.Text.Words
import BnfParsing.Proofs.Text.Lines
import BnfParsing.Proofs.Derivation.LeadingBlanks
import BnfParsing.Proofs.Derivation.Recompilation
import BnfParsing.Proofs.Grammar.Editing
import BnfParsing.Proofs.Setup.Build
import BnfParsing.Proofs.Grammar.Indexing
import BnfParsing.Proofs.Grammar.Merging
import BnfParsing.Proofs.Derivation.Extension
import BnfParsing.Proofs.Derivation.Markers
import BnfParsing.Proofs.Derivation.Repetition
import BnfParsing.Proofs.Grammar.SingleCase
import BnfParsing.Proofs.Traversal
import BnfParsing.Proofs.Grammar.Entries
import BnfParsing.Proofs.Grammar.Composition
import BnfParsing.Proofs.Setup.Steps
import BnfParsing.Proofs.Setup.Reordering
import BnfParsing.Proofs.Setup.Failures
import BnfParsing.Proofs.Text.Offsets
import BnfParsing.Proofs.Text.Hanging
import BnfParsing.Proofs.Grammar.Spans
import BnfParsing.Proofs.Grammar.FaultSpans
import BnfParsing.Proofs.Tree.Notices
import BnfParsing.Proofs.Tree.Elements
import BnfParsing.Proofs.Tree.ElementReading
import BnfParsing.Proofs.Tree.ReadingBack
import BnfParsing.Proofs.Tree.Segments
import BnfParsing.Proofs.Tree.Statements
import BnfParsing.Proofs.Tree.Siblings
import BnfParsing.Proofs.Tree.Selection
import BnfParsing.Proofs.Tree.Overflow
import BnfParsing.Proofs.Tree.Reducing
import BnfParsing.Proofs.Tree.Evaluation
import BnfParsing.Proofs.Tree.Frames
import BnfParsing.Proofs.Derivation.Building
import BnfParsing.Proofs.Derivation.Shadowing
import BnfParsing.Proofs.Tree.Addresses
import BnfParsing.Proofs.Tree.Outlining
import BnfParsing.Proofs.Tree.Drawing
import BnfParsing.Proofs.Tree.Columns
import BnfParsing.Proofs.Derivation.Productivity
import BnfParsing.Proofs.Derivation.LeftmostReferences
import BnfParsing.Proofs.Grammar.Expansion
import BnfParsing.Proofs.Grammar.Splitting
import BnfParsing.Proofs.Grammar.CodeUnits
import BnfParsing.Proofs.Grammar.Spelling
import BnfParsing.Proofs.Grammar.Pieces
import BnfParsing.Proofs.Grammar.WellFormed
import BnfParsing.Proofs.Grammar.WordSpacing
import BnfParsing.Proofs.Regex.Steps
import BnfParsing.Proofs.Regex.Exhaustion
import BnfParsing.Proofs.Regex.Groups
import BnfParsing.Proofs.Symbol.Bytes
import BnfParsing.Proofs.Symbol.CaseVariants
import BnfParsing.Proofs.Derivation.InPlace
import BnfParsing.Proofs.Derivation.Literals
import BnfParsing.Proofs.Tree.Quoting
import BnfParsing.Proofs.Derivation.Notes
import BnfParsing.Proofs.Derivation.Logging
import BnfParsing.Proofs.CommandLine.Stages
import BnfParsing.Proofs.Regex.Preference
import BnfParsing.Proofs.Symbol.Numerals
import BnfParsing.Proofs.Symbol.NumeralPattern
import BnfParsing.Proofs.Derivation.Attempts
import BnfParsing.Proofs.Derivation.Rejections
