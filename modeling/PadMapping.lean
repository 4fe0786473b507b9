import PadMapping.Binary.Basic
import PadMapping.Binary.Arithmetic
import PadMapping.Binary.Encoding
import PadMapping.Text.Blank
import PadMapping.Text.Utf8
import PadMapping.Text.Lines
import PadMapping.Text.Number
import PadMapping.Control
import PadMapping.Reading
import PadMapping.Step
import PadMapping.Session
import PadMapping.Json.Value
import PadMapping.Json.Token
import PadMapping.Decimal.Shortest
import PadMapping.Decimal.Layout
import PadMapping.Json.Number
import PadMapping.Json.Node
import PadMapping.Text.Shapeless
import PadMapping.Text.Quoted
import PadMapping.Mismatch
import PadMapping.Json.Problem
import PadMapping.Json.Decode
import PadMapping.Export.Basic
import PadMapping.Export.Reader
import PadMapping.DeviceId
import PadMapping.Snippet.Slot
import PadMapping.Snippet.Mapper
import PadMapping.Snippet.Meaning
import PadMapping.Snippet.Printer
import PadMapping.View.Action
import PadMapping.View.Frame
import PadMapping.Files.Fault
import PadMapping.Files.Location
import PadMapping.Files.Path
import PadMapping.Files.Tree
import PadMapping.Export.Store
import PadMapping.View.Basic
import PadMapping.View.Run
import PadMapping.Terminal
import PadMapping.Host
import PadMapping.Device.Axis
import PadMapping.Device.Input
import PadMapping.Device.Gamepad
import PadMapping.Decimal.Rounding
import PadMapping.Toml.Value
import PadMapping.Toml.Text
import PadMapping.Toml.Number
import PadMapping.Toml.Item
import PadMapping.Toml.Document
import PadMapping.Settings.Basic
import PadMapping.Settings.Reader
import PadMapping.Failure
import PadMapping.Settings.LogFile
import PadMapping.Program.Arguments
import PadMapping.Program.Basic
import PadMapping.Program.Dialog
import PadMapping.Program.Run
import PadMapping.Main
import PadMapping.Proofs.Keys
import PadMapping.Proofs.Session
import PadMapping.Proofs.Session.Walk
import PadMapping.Proofs.View.Reaction
import PadMapping.Proofs.View.History
import PadMapping.Proofs.View.Release
import PadMapping.Proofs.View.Origin
import PadMapping.Proofs.View.Sound
import PadMapping.Proofs.View.Running
import PadMapping.Proofs.View.Screen
import PadMapping.Proofs.View.Saving
import PadMapping.Proofs.View.Passing
import PadMapping.Proofs.Text.Digits
import PadMapping.Proofs.Text.Trimmed
import PadMapping.Proofs.Text.Bytes
import PadMapping.Proofs.Text.Lines
import PadMapping.Proofs.Snippet.Places
import PadMapping.Proofs.Snippet.Reading
import PadMapping.Proofs.Snippet.Program
import PadMapping.Proofs.Json.Grammar
import PadMapping.Proofs.Json.Phrase
import PadMapping.Proofs.Json.Scan
import PadMapping.Proofs.Json.Build
import PadMapping.Proofs.Json.Decode
import PadMapping.Proofs.Json.Whole
import PadMapping.Proofs.Json.Record
import PadMapping.Proofs.Export.RoundTrip
import PadMapping.Proofs.Control
import PadMapping.Proofs.Reading
import PadMapping.Proofs.Device.Polls
import PadMapping.Proofs.Device.World
import PadMapping.Proofs.Device.Identity
import PadMapping.Proofs.Device.Rescan
import PadMapping.Proofs.Device.Layout
import PadMapping.Proofs.Device.Shown
import PadMapping.Proofs.Device.Ids
import PadMapping.Proofs.Device.Grammar
import PadMapping.Proofs.Binary.Whole
import PadMapping.Proofs.Binary.Monotone
import PadMapping.Proofs.Binary.Values
import PadMapping.Proofs.Device.Rest
import PadMapping.Proofs.View.Faults
import PadMapping.Proofs.View.LostFrame
import PadMapping.Proofs.View.Answers
import PadMapping.Proofs.View.CleanSlate
import PadMapping.Proofs.View.Timeline
import PadMapping.Proofs.View.Refusal
import PadMapping.Proofs.View.Dropping
import PadMapping.Proofs.View.Repetition
import PadMapping.Proofs.Files.Growth
import PadMapping.Proofs.Files.Rooted
import PadMapping.Proofs.Export.Store
import PadMapping.Proofs.Snippet.Acceptance
import PadMapping.Proofs.Snippet.Entry
import PadMapping.Proofs.Device.Listing
import PadMapping.Proofs.Settings.Order
import PadMapping.Proofs.Toml.Keys
import PadMapping.Proofs.Settings.Overlay
import PadMapping.Proofs.Device.Scale
import PadMapping.Proofs.Snippet.Extent
import PadMapping.Proofs.Export.Members
import PadMapping.Proofs.Export.Gaps
import PadMapping.Proofs.Export.Controls
import PadMapping.Proofs.Export.Relaid
import PadMapping.Proofs.Export.Lines
import PadMapping.Proofs.Terminal
import PadMapping.Proofs.Program.Output
import PadMapping.Proofs.View.Quitting
import PadMapping.Proofs.Program.Input
import PadMapping.Proofs.Files.Split
import PadMapping.Proofs.Settings.LogFile
