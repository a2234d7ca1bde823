import Toolpath.Arc
import Toolpath.Bisect
import Toolpath.Color
import Toolpath.CommandLine.Options
import Toolpath.CommandLine.Run
import Toolpath.Decimal.Dyadic
import Toolpath.Decimal.Fixed
import Toolpath.Decimal.Layout
import Toolpath.Decimal.Numeral
import Toolpath.Decimal.Shortest
import Toolpath.Document.Basic
import Toolpath.Document.Decode
import Toolpath.Fault
import Toolpath.File
import Toolpath.Fill
import Toolpath.Geometry.Circle
import Toolpath.Geometry.Error
import Toolpath.Geometry.Plane
import Toolpath.Geometry.Point
import Toolpath.Json.Reader
import Toolpath.Json.Writer
import Toolpath.Main
import Toolpath.Motion.Diagnostics
import Toolpath.Motion.Machine
import Toolpath.Motion.State
import Toolpath.Playback.Appearance
import Toolpath.Playback.Basic
import Toolpath.Playback.Batched
import Toolpath.Playback.Cursor
import Toolpath.Proofs.Arc
import Toolpath.Proofs.Bisect
import Toolpath.Proofs.Circle.Center
import Toolpath.Proofs.Circle.Sweep
import Toolpath.Proofs.Color.Encoding
import Toolpath.Proofs.Color.Notation
import Toolpath.Proofs.Comparison
import Toolpath.Proofs.Decimal
import Toolpath.Proofs.Difference
import Toolpath.Proofs.Document.Entries
import Toolpath.Proofs.Fill
import Toolpath.Proofs.Finite
import Toolpath.Proofs.Line.Comments
import Toolpath.Proofs.Line.Interpret
import Toolpath.Proofs.Line.Messages
import Toolpath.Proofs.Line.Overflow
import Toolpath.Proofs.Line.Problems
import Toolpath.Proofs.Line.Workplace
import Toolpath.Proofs.Motion.Annotations
import Toolpath.Proofs.Motion.Colors
import Toolpath.Proofs.Motion.Deposits
import Toolpath.Proofs.Motion.Drawn
import Toolpath.Proofs.Motion.Frame
import Toolpath.Proofs.Motion.Indices
import Toolpath.Proofs.Motion.Kinematics
import Toolpath.Proofs.Motion.Layers
import Toolpath.Proofs.Motion.Path
import Toolpath.Proofs.Motion.Redate
import Toolpath.Proofs.Motion.Rig
import Toolpath.Proofs.Motion.Step
import Toolpath.Proofs.Motion.Still
import Toolpath.Proofs.Motion.Thickness
import Toolpath.Proofs.Motion.Travels
import Toolpath.Proofs.Numeral
import Toolpath.Proofs.Order
import Toolpath.Proofs.Overflow
import Toolpath.Proofs.Playback.Coherence
import Toolpath.Proofs.Playback.Control
import Toolpath.Proofs.Playback.Division
import Toolpath.Proofs.Playback.Highlight
import Toolpath.Proofs.Playback.Reveal
import Toolpath.Proofs.Playback.Scrubbing
import Toolpath.Proofs.Playback.Settling
import Toolpath.Proofs.Playback.Slice
import Toolpath.Proofs.Playback.Ticks
import Toolpath.Proofs.Segment.Batches
import Toolpath.Proofs.Segment.Growth
import Toolpath.Proofs.Segment.Redate
import Toolpath.Proofs.Segment.Stream
import Toolpath.Proofs.Segment.Summary
import Toolpath.Proofs.Segment.Travels
import Toolpath.Proofs.Session.Content
import Toolpath.Proofs.Session.Cursor
import Toolpath.Proofs.Session.Diameters
import Toolpath.Proofs.Session.Failure
import Toolpath.Proofs.Session.Instructions
import Toolpath.Proofs.Session.LineEnds
import Toolpath.Proofs.Session.Lines
import Toolpath.Proofs.Session.Overflow
import Toolpath.Proofs.Session.Problems
import Toolpath.Proofs.Session.Progress
import Toolpath.Proofs.Session.Reading
import Toolpath.Proofs.Session.Rows
import Toolpath.Proofs.Session.Schedule
import Toolpath.Proofs.Session.Step
import Toolpath.Proofs.Session.Thickness
import Toolpath.Proofs.Session.Timeline
import Toolpath.Proofs.Session.Travels
import Toolpath.Proofs.Session.Whole
import Toolpath.Proofs.Settings.Colors
import Toolpath.Proofs.Settings.Overrides
import Toolpath.Proofs.Settings.Sufficiency
import Toolpath.Proofs.Slicer.Conventions
import Toolpath.Proofs.Slicer.History
import Toolpath.Proofs.Text.Blank
import Toolpath.Proofs.Text.Crlf
import Toolpath.Proofs.Text.Hex
import Toolpath.Proofs.Text.Returns
import Toolpath.Proofs.Token.Command
import Toolpath.Proofs.Token.Comment
import Toolpath.Proofs.Token.Finite
import Toolpath.Proofs.Token.Head
import Toolpath.Proofs.Token.Letters
import Toolpath.Proofs.Token.Lossless
import Toolpath.Proofs.Token.Words
import Toolpath.Proofs.Voxel.Additive
import Toolpath.Proofs.Voxel.Causality
import Toolpath.Proofs.Voxel.Columns
import Toolpath.Proofs.Voxel.Control
import Toolpath.Proofs.Voxel.Counters
import Toolpath.Proofs.Voxel.Cut
import Toolpath.Proofs.Voxel.Log
import Toolpath.Proofs.Voxel.Overflow
import Toolpath.Proofs.Voxel.Reach
import Toolpath.Proofs.Voxel.Rewind
import Toolpath.Proofs.Voxel.Survey
import Toolpath.Segment.Basic
import Toolpath.Segment.Store
import Toolpath.Session.Basic
import Toolpath.Session.Host
import Toolpath.Session.LineBuffer
import Toolpath.Settings.Basic
import Toolpath.Settings.Decode
import Toolpath.Settings.Load
import Toolpath.Settings.Override
import Toolpath.Settings.Validate
import Toolpath.Slicer.Classifier
import Toolpath.Slicer.Feature
import Toolpath.Slicer.Metadata
import Toolpath.Slicer.Style
import Toolpath.Summary
import Toolpath.Text.Blank
import Toolpath.Text.Case
import Toolpath.Text.Digit
import Toolpath.Text.Hex
import Toolpath.Text.Scan
import Toolpath.Text.Split
import Toolpath.Token.Command
import Toolpath.Token.Comment
import Toolpath.Token.Instruction
import Toolpath.Toml.Number
import Toolpath.Toml.Reader
import Toolpath.Toml.Text
import Toolpath.Toml.Tree
import Toolpath.Tool
import Toolpath.Units
import Toolpath.Voxel.Build
import Toolpath.Voxel.Cell
import Toolpath.Voxel.Grid
import Toolpath.Voxel.Playback
