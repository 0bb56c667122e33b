import ModuleWiring.Assignment
import ModuleWiring.Attribute
import ModuleWiring.Command.Arguments
import ModuleWiring.Command.Report
import ModuleWiring.Command.Run
import ModuleWiring.Command.Watch
import ModuleWiring.Content.Basic
import ModuleWiring.Content.Reading
import ModuleWiring.Convention
import ModuleWiring.Disk.Basic
import ModuleWiring.Disk.File
import ModuleWiring.Disk.FileTree
import ModuleWiring.Fault
import ModuleWiring.InheritedFile
import ModuleWiring.Log.Directive
import ModuleWiring.Log.Event
import ModuleWiring.Log.Filter
import ModuleWiring.Log.Pattern
import ModuleWiring.Main
import ModuleWiring.MainFile
import ModuleWiring.NameSet
import ModuleWiring.OpenValue
import ModuleWiring.OrderedMap
import ModuleWiring.Page
import ModuleWiring.Path
import ModuleWiring.Project.Folder
import ModuleWiring.Project.Survey
import ModuleWiring.Project.Update
import ModuleWiring.Reference
import ModuleWiring.Settings.Basic
import ModuleWiring.Settings.Load
import ModuleWiring.Settings.Toml
import ModuleWiring.Settings.Toml.Date
import ModuleWiring.Source
import ModuleWiring.Text.Alphanumeric
import ModuleWiring.Text.Basic
import ModuleWiring.Text.Blank
import ModuleWiring.Text.Diff
import ModuleWiring.Text.Json
import ModuleWiring.Text.Lines
import ModuleWiring.Text.Quoted
import ModuleWiring.Text.Utf8
import ModuleWiring.Text.Word
import ModuleWiring.VariableFile
import ModuleWiring.Visitor
import ModuleWiring.Proofs.OrderedMap
import ModuleWiring.Proofs.Page
import ModuleWiring.Proofs.Heading
import ModuleWiring.Proofs.Reading.Step
import ModuleWiring.Proofs.Entry
import ModuleWiring.Proofs.Reading.Legible
import ModuleWiring.Proofs.InheritedFile.RoundTrip
import ModuleWiring.Proofs.VariableFile
import ModuleWiring.Proofs.Assignment
import ModuleWiring.Proofs.InheritedFile.Agreement
import ModuleWiring.Proofs.Setting
import ModuleWiring.Proofs.MainFile.CallSitePage
import ModuleWiring.Proofs.MainFile.Rewired
import ModuleWiring.Proofs.MainFile.Replay
import ModuleWiring.Proofs.MainFile.Simulation
import ModuleWiring.Proofs.MainFile.RoundTrip
import ModuleWiring.Proofs.MainFile.Fixpoint
import ModuleWiring.Proofs.InheritedFile.Fixpoint
import ModuleWiring.Proofs.Reading.Openings
import ModuleWiring.Proofs.Survey
import ModuleWiring.Proofs.Reading.Blocks
import ModuleWiring.Proofs.Reading.Settings
import ModuleWiring.Proofs.MainFile.Concatenation
import ModuleWiring.Proofs.Reading.Given
import ModuleWiring.Proofs.Reading.Values
import ModuleWiring.Proofs.MainFile.Assigned
import ModuleWiring.Proofs.Path
import ModuleWiring.Proofs.Resolver
import ModuleWiring.Proofs.Disk.Walk
import ModuleWiring.Proofs.Disk.Spelling
import ModuleWiring.Proofs.Disk.Store
import ModuleWiring.Proofs.Disk.File
import ModuleWiring.Proofs.MainFile.Outline
import ModuleWiring.Proofs.Project.Folder
import ModuleWiring.Proofs.Project.Scan
import ModuleWiring.Proofs.Project.Rescan
import ModuleWiring.Proofs.Disk.Readers
import ModuleWiring.Proofs.Disk.Links
import ModuleWiring.Proofs.Disk.Writing
import ModuleWiring.Proofs.Disk.Plain
import ModuleWiring.Proofs.Reading.Origin
import ModuleWiring.Proofs.Reading.Reserved
import ModuleWiring.Proofs.Reading.Inline
import ModuleWiring.Proofs.MainFile.Layout
import ModuleWiring.Proofs.MainFile.Plan
import ModuleWiring.Proofs.Spacing
import ModuleWiring.Proofs.MainFile.Spacing
import ModuleWiring.Proofs.Written
import ModuleWiring.Proofs.Brackets
import ModuleWiring.Proofs.Reading.References
import ModuleWiring.Proofs.MainFile.Alignment
