import WireErrors.Main
import WireErrors.Proofs.Emission.Sequencing
import WireErrors.Proofs.Routine
import WireErrors.Proofs.ErrorModule.Staging
import WireErrors.Proofs.ErrorModule.Refusals
import WireErrors.Proofs.ErrorModule.Atomicity
import WireErrors.Proofs.ErrorModule.Destinations
import WireErrors.Proofs.ErrorModule.Reports
import WireErrors.Proofs.Source.Literals
import WireErrors.Proofs.Execution.Interpreter
import WireErrors.Proofs.Execution.Decoding
import WireErrors.Proofs.Execution.Accessors
import WireErrors.Proofs.ErrorModule.Items
import WireErrors.Proofs.ErrorModule.Running
import WireErrors.Proofs.Decoder.Correctness
import WireErrors.Proofs.Emission.Events
import WireErrors.Proofs.Decoder.Warnings
import WireErrors.Proofs.Source.Lexing
import WireErrors.Proofs.Source.Grammar.Paths
import WireErrors.Proofs.Source.Grammar.Expressions
import WireErrors.Proofs.Decoder.Reading
import WireErrors.Proofs.Source.Grammar.Items
import WireErrors.Proofs.Source.Legibility
import WireErrors.Proofs.Source.Shapes
import WireErrors.Proofs.Source.Documents
import WireErrors.Proofs.Source.Grammar.Lists
import WireErrors.Proofs.ErrorModule.Tables
import WireErrors.Proofs.ErrorModule.Types
import WireErrors.Proofs.Casing
import WireErrors.Proofs.Source.Inversion
import WireErrors.Proofs.Letters
import WireErrors.Proofs.ErrorModule.Reading
import WireErrors.Proofs.ErrorModule.Blocks
import WireErrors.Proofs.ErrorModule.Identifiers
import WireErrors.Proofs.ErrorModule.Spelling
import WireErrors.Proofs.ErrorModule.Variants
import WireErrors.Proofs.ErrorModule.Constants
import WireErrors.Proofs.Source.Grammar.Imports
import WireErrors.Proofs.Source.Layouts
import WireErrors.Proofs.ErrorModule.Layouts
import WireErrors.Proofs.ErrorModule.Files
import WireErrors.Proofs.ErrorModule.Shapes
import WireErrors.Proofs.Source.Rendering
import WireErrors.Proofs.ErrorModule.Outcome
import WireErrors.Proofs.ErrorModule.Generation
import WireErrors.Proofs.ErrorModule.Options
import WireErrors.Proofs.ErrorModule.Texts
import WireErrors.Proofs.ErrorModule.Order
import WireErrors.Proofs.FileTree
import WireErrors.Proofs.CommandLine
import WireErrors.Proofs.Settings.Rendering
import WireErrors.Proofs.ModelFile
import WireErrors.Proofs.ErrorModule.Rows
import WireErrors.Proofs.ErrorModule.Derivation
import WireErrors.Proofs.ErrorModule.Imports
import WireErrors.Proofs.Settings.Resolving
import WireErrors.Proofs.Layout.Runs
import WireErrors.Proofs.Source.Comments
import WireErrors.Proofs.Layout.Parts
import WireErrors.Proofs.Source.Signs
import WireErrors.Proofs.Source.Scores
import WireErrors.Proofs.Settings.Spellings
import WireErrors.Proofs.Source.Boxes
import WireErrors.Proofs.Source.Grammar.Phrases
import WireErrors.Proofs.Formatted.Arms
import WireErrors.Proofs.Formatted.Attributes
import WireErrors.Proofs.Formatted.Files
