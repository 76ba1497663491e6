import WireScript.Bytes
import WireScript.Bytes.Hex
import WireScript.Capture.Config
import WireScript.Capture.Format
import WireScript.Capture.Offline
import WireScript.Capture.Output
import WireScript.Capture.Run
import WireScript.Capture.Sink
import WireScript.Decimal.Shortest
import WireScript.Fixture.Line
import WireScript.Fixture.Text
import WireScript.Json.Document
import WireScript.Json.Fault
import WireScript.Json.Literal
import WireScript.Json.Numeral
import WireScript.Json.Reader
import WireScript.Json.Record
import WireScript.Json.Skip
import WireScript.Json.Value
import WireScript.Main
import WireScript.Network.Address
import WireScript.Network.Isolated
import WireScript.Party.Actor
import WireScript.Party.Plan
import WireScript.Proofs.Bytes.Hex
import WireScript.Proofs.Fixture.RoundTrip
import WireScript.Proofs.Party.Sequential
import WireScript.Proofs.Party.Traffic
import WireScript.Proofs.Recording.Traffic
import WireScript.Proofs.Rehearsal.Reenactment
import WireScript.Proofs.Rehearsal.Report
import WireScript.Proofs.Rehearsal.Scene
import WireScript.Proofs.Rehearsal.Schedule
import WireScript.Proofs.Rehearsal.TurnTaking
import WireScript.Proofs.Rendezvous.Calls
import WireScript.Proofs.Rendezvous.Commute
import WireScript.Proofs.Rendezvous.Conservation
import WireScript.Proofs.Rendezvous.History
import WireScript.Proofs.Rendezvous.Pipe
import WireScript.Proofs.Rendezvous.Wakeup
import WireScript.Proofs.Replay.Account
import WireScript.Proofs.Replay.Owed
import WireScript.Proofs.Replay.Sound
import WireScript.Proofs.Session.Duet
import WireScript.Proofs.Session.Encounter
import WireScript.Proofs.Transcript.Stream
import WireScript.Proofs.Turn
import WireScript.Recording.Log
import WireScript.Recording.Medium
import WireScript.Recording.Station
import WireScript.Recording.Tap
import WireScript.Rehearsal.Outcome
import WireScript.Rehearsal.Run
import WireScript.Rehearsal.Watched
import WireScript.Relay.Answers
import WireScript.Relay.Arguments
import WireScript.Relay.Command
import WireScript.Relay.Exchange
import WireScript.Relay.Pump
import WireScript.Rendezvous.History
import WireScript.Rendezvous.Link
import WireScript.Rendezvous.Pipe
import WireScript.Replay.Config
import WireScript.Replay.Player
import WireScript.Replay.Scripted
import WireScript.Replay.Verdict
import WireScript.Session.Run
import WireScript.Text.Blank
import WireScript.Text.Digit
import WireScript.Text.Extending
import WireScript.Text.Lines
import WireScript.Text.Outline
import WireScript.Text.Plain
import WireScript.Text.Quoted
import WireScript.Text.Unprintable
import WireScript.Time.Instant
import WireScript.Time.Span
import WireScript.Transcript.Basic
import WireScript.Transcript.Coding
import WireScript.Transcript.Direction
import WireScript.Transcript.Event
import WireScript.Transcript.Positional
import WireScript.Wire.Act
import WireScript.Wire.Buffer
import WireScript.Wire.Call
import WireScript.Wire.Failure
import WireScript.Wire.Scripted
import WireScript.Wire.Transport
import WireScript.Proofs.Fixture.Grammar
import WireScript.Proofs.Recording.Transparent
import WireScript.Proofs.Wire.Reliable
import WireScript.Proofs.Replay.Reference
import WireScript.Proofs.Json.Layout
import WireScript.Proofs.Json.Reading
import WireScript.Proofs.Json.Decoding
import WireScript.Proofs.Transcript.Coding
import WireScript.Proofs.Capture.RoundTrip
import WireScript.Proofs.Transcript.Canonical
import WireScript.Proofs.Replay.FirstFailure
import WireScript.Proofs.Capture.Sink
import WireScript.Proofs.Capture.EndToEnd
import WireScript.Proofs.Relay.Pump
import WireScript.Proofs.Relay.Fidelity
import WireScript.Proofs.Relay.Answers
import WireScript.Proofs.Replay.Segmentation
import WireScript.Proofs.Rendezvous.Teardown
import WireScript.Proofs.Capture.Limited
import WireScript.Proofs.Party.Prompt
import WireScript.Proofs.Rehearsal.Ending
import WireScript.Proofs.Rehearsal.Deadline
import WireScript.Proofs.Transcript.Positional
import WireScript.Proofs.Transcript.Recorded
import WireScript.Proofs.Capture.Flushing
import WireScript.Proofs.Rendezvous.Refusal
import WireScript.Proofs.Fixture.Editing
