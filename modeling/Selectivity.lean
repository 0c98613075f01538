import Selectivity.Main
import Selectivity.Json.Display
import Selectivity.Session.Logger
import Selectivity.CommandLine.Run
import Selectivity.Session.Operation
import Selectivity.Store.Estimation
import Selectivity.Query.Input
import Selectivity.Catalog.File
import Selectivity.Number.Decimal
import Selectivity.Table.Frame
import Selectivity.Catalog.Basic
import Selectivity.Query.Compilation
import Selectivity.Plan.Outline
import Selectivity.Plan.Document
import Selectivity.Plan.Estimate
import Selectivity.Json.Reader
import Selectivity.Tree
import Selectivity.Entries
import Selectivity.NameSet
import Selectivity.Json.Writer
import Selectivity.Predicate
import Selectivity.Statistics.Algebra
import Selectivity.Text.Items
import Selectivity.Text.Lines
import Selectivity.Text.Numeral
import Selectivity.Text.Quoted
import Selectivity.Text.Word
import Selectivity.Table.Document
import Selectivity.Folder
import Selectivity.Proofs.Session.Counts
import Selectivity.Proofs.Session.Compilation
import Selectivity.Proofs.Session.Printing
import Selectivity.Proofs.Session.Strictness
import Selectivity.Proofs.Estimation.Repetition
import Selectivity.Proofs.Session.Progress
import Selectivity.Proofs.Store.Isolation
import Selectivity.Proofs.Session.Effects
import Selectivity.Proofs.Estimation.Relocation
import Selectivity.Proofs.Session.Questions
import Selectivity.Proofs.Session.Isolation
import Selectivity.Proofs.Estimation.Stacks
import Selectivity.Proofs.Estimation.Bounds
import Selectivity.Proofs.Session.JoinLines
import Selectivity.Proofs.Session.Monotonicity
import Selectivity.Proofs.Json.Grammar
import Selectivity.Proofs.Json.Rendering
import Selectivity.Proofs.Catalog.Documents
import Selectivity.Proofs.Session.Catalogs
import Selectivity.Proofs.Session.Formats
import Selectivity.Proofs.CommandLine.Runs
import Selectivity.Proofs.Plan.Documents
import Selectivity.Proofs.Session.Hashes
import Selectivity.Proofs.Session.Faults
import Selectivity.Proofs.Session.Layout
import Selectivity.Proofs.Estimation.Verdicts
import Selectivity.Proofs.Session.Outputs
import Selectivity.Proofs.Session.Selections
import Selectivity.Proofs.Estimation.Correspondence
import Selectivity.Proofs.Session.Correspondence
import Selectivity.Proofs.Statistics.Orientation
import Selectivity.Proofs.Session.Orientation
import Selectivity.Proofs.Catalog.Frames
import Selectivity.Proofs.Session.Frames
import Selectivity.Proofs.Estimation.Sources
import Selectivity.Proofs.Session.Chains
import Selectivity.Proofs.Session.Sources
import Selectivity.Proofs.Statistics.Projections
import Selectivity.Proofs.Session.Projections
import Selectivity.Proofs.Session.ValueSelections
import Selectivity.Proofs.Session.Products
import Selectivity.Proofs.Session.Renaming
import Selectivity.Proofs.Plan.Traversals
import Selectivity.Proofs.Session.Outlines
import Selectivity.Proofs.Query.Conditions
import Selectivity.Proofs.Session.JoinNames
import Selectivity.Proofs.Session.Tables
import Selectivity.Proofs.Text.Enumerations
