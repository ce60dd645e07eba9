import BlockSketch.Annotations
import BlockSketch.CommandLine.Arguments
import BlockSketch.CommandLine.Folder
import BlockSketch.CommandLine.Help
import BlockSketch.CommandLine.Run
import BlockSketch.Configuration.Basic
import BlockSketch.Configuration.Pins
import BlockSketch.Decimal.Basic
import BlockSketch.Decimal.Double
import BlockSketch.Decimal.Numeral
import BlockSketch.Decimal.Shortest
import BlockSketch.Draft.Block
import BlockSketch.Draft.Build
import BlockSketch.Draft.Error
import BlockSketch.Draft.Interchange
import BlockSketch.Draft.Wiring
import BlockSketch.Finding
import BlockSketch.Hardware
import BlockSketch.Json.Reader
import BlockSketch.Json.Value
import BlockSketch.Json.Writer
import BlockSketch.Main
import BlockSketch.Notice
import BlockSketch.Platform.Basic
import BlockSketch.Platform.Description
import BlockSketch.Program.Assemble
import BlockSketch.Program.Kind
import BlockSketch.Program.Occurrence
import BlockSketch.Program.Tree
import BlockSketch.Program.Words
import BlockSketch.Project.Basic
import BlockSketch.Project.Event
import BlockSketch.Project.Product
import BlockSketch.Project.Verdict
import BlockSketch.Project.Workflow
import BlockSketch.Report
import BlockSketch.Sketch.Code
import BlockSketch.Sketch.Generate
import BlockSketch.Sketch.Name
import BlockSketch.Sketch.Render
import BlockSketch.Source
import BlockSketch.Text.Blank
import BlockSketch.Text.Hidden
import BlockSketch.Text.Identifier
import BlockSketch.Text.Quoted
import BlockSketch.Toml.Reader
import BlockSketch.Toml.Scalar
import BlockSketch.Toml.Value
import BlockSketch.Typing.Check
import BlockSketch.Typing.Fault
import BlockSketch.Validation
import BlockSketch.Vocabulary
import BlockSketch.Workbench
import BlockSketch.Proofs.Acceptance
import BlockSketch.Proofs.Additivity
import BlockSketch.Proofs.Ancestry
import BlockSketch.Proofs.Attachment
import BlockSketch.Proofs.Attribution
import BlockSketch.Proofs.Capture
import BlockSketch.Proofs.Checked
import BlockSketch.Proofs.Checker
import BlockSketch.Proofs.Collector
import BlockSketch.Proofs.Declared
import BlockSketch.Proofs.Diagnostics
import BlockSketch.Proofs.Doubling
import BlockSketch.Proofs.Enclosure
import BlockSketch.Proofs.Ending
import BlockSketch.Proofs.Erasure
import BlockSketch.Proofs.Families
import BlockSketch.Proofs.FirstError
import BlockSketch.Proofs.Fusion
import BlockSketch.Proofs.Generation
import BlockSketch.Proofs.Growth
import BlockSketch.Proofs.Identifier
import BlockSketch.Proofs.Idle
import BlockSketch.Proofs.Indifference
import BlockSketch.Proofs.Layout
import BlockSketch.Proofs.Lexeme
import BlockSketch.Proofs.Lines
import BlockSketch.Proofs.Magnitude
import BlockSketch.Proofs.MemberOrder
import BlockSketch.Proofs.Mirror
import BlockSketch.Proofs.Mistake
import BlockSketch.Proofs.Munch
import BlockSketch.Proofs.Naming
import BlockSketch.Proofs.Offence
import BlockSketch.Proofs.Outline
import BlockSketch.Proofs.Position
import BlockSketch.Proofs.Radix
import BlockSketch.Proofs.Readback
import BlockSketch.Proofs.Reindentation
import BlockSketch.Proofs.Scoping
import BlockSketch.Proofs.Shortfall
import BlockSketch.Proofs.Site
import BlockSketch.Proofs.Source
import BlockSketch.Proofs.Stock
import BlockSketch.Proofs.Transcript
import BlockSketch.Proofs.TypeRule
import BlockSketch.Proofs.Uniqueness
import BlockSketch.Proofs.Usage
import BlockSketch.Proofs.Validators
import BlockSketch.Proofs.Violation
import BlockSketch.Proofs.Visit
import BlockSketch.Proofs.WellFormed
import BlockSketch.Proofs.Wiring
