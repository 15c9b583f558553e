import TestScaffold.CommandLine.Arguments
import TestScaffold.CommandLine.Run
import TestScaffold.Disk.Basic
import TestScaffold.Disk.Local
import TestScaffold.Generation.Error
import TestScaffold.Generation.InFlight
import TestScaffold.Generation.Invocation
import TestScaffold.Generation.Plan
import TestScaffold.Generation.Store
import TestScaffold.Ignore.Glob
import TestScaffold.Ignore.Rule
import TestScaffold.Ignore.Walk
import TestScaffold.Json
import TestScaffold.Main
import TestScaffold.Mock
import TestScaffold.Path.Basic
import TestScaffold.Path.FileName
import TestScaffold.Proofs.CommandLine.Batch
import TestScaffold.Proofs.CommandLine.Forced
import TestScaffold.Proofs.CommandLine.Preview
import TestScaffold.Proofs.CommandLine.Repeated
import TestScaffold.Proofs.CommandLine.Reports
import TestScaffold.Proofs.CommandLine.Rootless
import TestScaffold.Proofs.CommandLine.Selection
import TestScaffold.Proofs.CommandLine.Unforced
import TestScaffold.Proofs.Disk.Direct
import TestScaffold.Proofs.Disk.Directories
import TestScaffold.Proofs.Disk.Names
import TestScaffold.Proofs.Disk.Succession
import TestScaffold.Proofs.Disk.Tree
import TestScaffold.Proofs.Disk.Writing
import TestScaffold.Proofs.Generation.Agreement
import TestScaffold.Proofs.Generation.Apart
import TestScaffold.Proofs.Generation.CarriedOut
import TestScaffold.Proofs.Generation.Claims
import TestScaffold.Proofs.Generation.Commutation
import TestScaffold.Proofs.Generation.Concurrent
import TestScaffold.Proofs.Generation.Containment
import TestScaffold.Proofs.Generation.Counterpart
import TestScaffold.Proofs.Generation.Destination
import TestScaffold.Proofs.Generation.Detour
import TestScaffold.Proofs.Generation.Exit
import TestScaffold.Proofs.Generation.History
import TestScaffold.Proofs.Generation.Independence
import TestScaffold.Proofs.Generation.Interleaving
import TestScaffold.Proofs.Generation.LineEndings
import TestScaffold.Proofs.Generation.Mirror
import TestScaffold.Proofs.Generation.Outcome
import TestScaffold.Proofs.Generation.Overwriting
import TestScaffold.Proofs.Generation.ReadBack
import TestScaffold.Proofs.Generation.Repetition
import TestScaffold.Proofs.Generation.Rescan
import TestScaffold.Proofs.Generation.Single
import TestScaffold.Proofs.Generation.Spelling
import TestScaffold.Proofs.Generation.Tested
import TestScaffold.Proofs.Generation.Transition
import TestScaffold.Proofs.Mock.Faithful
import TestScaffold.Proofs.Mock.StandIns
import TestScaffold.Proofs.Path.Above
import TestScaffold.Proofs.Path.Absolute
import TestScaffold.Proofs.Path.Characters
import TestScaffold.Proofs.Path.Components
import TestScaffold.Proofs.Path.Order
import TestScaffold.Proofs.Path.Resolution
import TestScaffold.Proofs.Path.Segments
import TestScaffold.Proofs.Path.Spelling
import TestScaffold.Proofs.Path.Steps
import TestScaffold.Proofs.Settings.InForce
import TestScaffold.Proofs.Settings.Sayings
import TestScaffold.Proofs.Skeleton.Identity
import TestScaffold.Proofs.Skeleton.Lines
import TestScaffold.Proofs.Skeleton.ReadBack
import TestScaffold.Proofs.Skeleton.Rescan
import TestScaffold.Proofs.Source.Aliasing
import TestScaffold.Proofs.Source.Appending
import TestScaffold.Proofs.Source.Clause
import TestScaffold.Proofs.Source.Declaration
import TestScaffold.Proofs.Source.ExportAppending
import TestScaffold.Proofs.Source.ExportForm
import TestScaffold.Proofs.Source.ExportLineEndings
import TestScaffold.Proofs.Source.ExportList
import TestScaffold.Proofs.Source.ExportNeighbours
import TestScaffold.Proofs.Source.ExportStyle
import TestScaffold.Proofs.Source.ImportLineEndings
import TestScaffold.Proofs.Source.Leftmost
import TestScaffold.Proofs.Source.NormalForm
import TestScaffold.Proofs.Source.RoundTrip
import TestScaffold.Proofs.Source.Specifier
import TestScaffold.Proofs.Source.Statement
import TestScaffold.Proofs.Source.Stretch
import TestScaffold.Proofs.Text.Blanks
import TestScaffold.Proofs.Text.Capitals
import TestScaffold.Proofs.Text.LetterCase
import TestScaffold.Proofs.Text.LineEndings
import TestScaffold.Proofs.Text.LineStarts
import TestScaffold.Proofs.Text.Lines
import TestScaffold.Proofs.Workspace.Recollection
import TestScaffold.Proofs.Workspace.Root
import TestScaffold.Proofs.Workspace.Sources
import TestScaffold.Session
import TestScaffold.Settings
import TestScaffold.Settings.Document
import TestScaffold.Settings.Load
import TestScaffold.Skeleton
import TestScaffold.Source.Bindings
import TestScaffold.Source.Export
import TestScaffold.Source.Import
import TestScaffold.Source.Location
import TestScaffold.Text.Basic
import TestScaffold.Text.CaseMap
import TestScaffold.Text.Letter
import TestScaffold.Text.LetterCase
import TestScaffold.Text.Pattern
import TestScaffold.Text.Quoted
import TestScaffold.Text.Word
import TestScaffold.Toml.Character
import TestScaffold.Toml.Document
import TestScaffold.Toml.Item
import TestScaffold.Toml.Quotation
import TestScaffold.Toml.Scalar
import TestScaffold.Toml.Value
import TestScaffold.Workspace
