import FormScript.Agent
import FormScript.Answering
import FormScript.Cli.Command
import FormScript.Cli.Disk
import FormScript.Cli.Path
import FormScript.Cli.Program
import FormScript.Duration
import FormScript.Emission
import FormScript.Entries
import FormScript.Failure
import FormScript.Identifier
import FormScript.Intent
import FormScript.Json.Basic
import FormScript.Json.Embedded
import FormScript.Json.Number
import FormScript.Json.Reader
import FormScript.Json.Token
import FormScript.Json.Writer
import FormScript.Main
import FormScript.Mapped
import FormScript.Module
import FormScript.Prompt
import FormScript.Run
import FormScript.Session
import FormScript.Source.Block
import FormScript.Source.Line
import FormScript.Source.Pattern
import FormScript.Source.Recognition
import FormScript.Source.Shape
import FormScript.Source.Statement
import FormScript.Step
import FormScript.Store
import FormScript.Text.Blank
import FormScript.Text.Case
import FormScript.Text.Find
import FormScript.Text.Lines
import FormScript.Text.Span
import FormScript.Text.Utf8
import FormScript.Text.Word
import FormScript.Timestamp
import FormScript.Wire.Basic
import FormScript.Wire.Intent
import FormScript.Wire.Mapped
import FormScript.Wire.Module
import FormScript.Wire.Run
import FormScript.Proofs.Script.Layout
import FormScript.Proofs.Script.Meaning
import FormScript.Proofs.Script.Name
import FormScript.Proofs.Script.Faithful
import FormScript.Proofs.Source.Reading
import FormScript.Proofs.Source.Printer
import FormScript.Proofs.Source.Statements
import FormScript.Proofs.Source.RoundTrip
import FormScript.Proofs.Source.Independence
import FormScript.Proofs.Source.Size
import FormScript.Proofs.Run.Plan
import FormScript.Proofs.Run.Replay
import FormScript.Proofs.Run.StoredStatus
import FormScript.Proofs.Mapped.Gaps
import FormScript.Proofs.Run.Completed
import FormScript.Proofs.Run.Instalments
import FormScript.Proofs.Json.RoundTrip
import FormScript.Proofs.Wire.Decoding
import FormScript.Proofs.Store.Reload
import FormScript.Proofs.Wire.Lossless
import FormScript.Proofs.Run.AnswersKept
import FormScript.Proofs.Mapped.Summary
import FormScript.Proofs.Session.Summed
import FormScript.Proofs.Store.Nesting
import FormScript.Proofs.Script.Containment
import FormScript.Proofs.Source.Legible
import FormScript.Proofs.Store.Shapes
import FormScript.Proofs.Script.Skeleton
import FormScript.Proofs.Cli.Files
import FormScript.Proofs.Cli.AllOrNothing
import FormScript.Proofs.Mapped.Nodes
import FormScript.Proofs.Mapped.Tally
import FormScript.Proofs.Mapped.Annotation
import FormScript.Proofs.Mapped.Numbering
import FormScript.Proofs.Run.Unaided
import FormScript.Proofs.Mapped.OpenList
import FormScript.Proofs.Mapped.Recounted
import FormScript.Proofs.Run.Attached
import FormScript.Proofs.Script.Markers
import FormScript.Proofs.Text.Trim
import FormScript.Proofs.Source.Openings
import FormScript.Proofs.Source.WellNested
import FormScript.Proofs.Source.Replacement
import FormScript.Proofs.Source.OneLine
import FormScript.Proofs.Source.Carried
import FormScript.Proofs.Source.SecondStatement
import FormScript.Proofs.Source.Layout
import FormScript.Proofs.Json.Lexing
import FormScript.Proofs.Json.Surrounded
import FormScript.Proofs.Source.GapOrigins
import FormScript.Proofs.Source.Requirement
import FormScript.Proofs.Script.FunctionNames
import FormScript.Proofs.Store.Nulls
import FormScript.Proofs.Script.Hyphenation
import FormScript.Proofs.Mapped.Walk
import FormScript.Proofs.Source.Cursor
