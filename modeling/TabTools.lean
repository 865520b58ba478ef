import TabTools.Link.Steps
import TabTools.Link.Server
import TabTools.Main
import TabTools.Wire.Call
import TabTools.Proofs.Debug.Plan
import TabTools.Proofs.Debug.Run
import TabTools.Proofs.Debug.Answers
import TabTools.Proofs.Debug.Scan
import TabTools.Proofs.Debug.Invariant
import TabTools.Proofs.Debug.Breakpoint
import TabTools.Proofs.Debug.Journey
import TabTools.Proofs.Debug.Layout
import TabTools.Proofs.Debug.Stops
import TabTools.Proofs.Debug.Refusal
import TabTools.Proofs.Debug.Reached
import TabTools.Proofs.Debug.View
import TabTools.Proofs.Json.RoundTrip
import TabTools.Proofs.Wire.RoundTrip
import TabTools.Proofs.Editor.Published
import TabTools.Proofs.Debug.Inspection
import TabTools.Proofs.Debug.Scenes
import TabTools.Proofs.Debug.Termination
import TabTools.Proofs.Debug.Request
import TabTools.Proofs.Debug.Bounds
import TabTools.Proofs.Debug.Numbering
import TabTools.Proofs.Debug.Stream
import TabTools.Proofs.Debug.Order
import TabTools.Proofs.Debug.History
import TabTools.Proofs.Link.Players
import TabTools.Proofs.Link.Closing
import TabTools.Proofs.Link.Exchange
import TabTools.Proofs.Json.OneLine
import TabTools.Proofs.Link.Message
import TabTools.Proofs.Text.Pieces
import TabTools.Proofs.Link.Stream
import TabTools.Debug.Steps
import TabTools.Proofs.Debug.Arrivals
import TabTools.Proofs.Debug.Turns
import TabTools.Proofs.Debug.Handles
import TabTools.Proofs.Debug.Disconnect
import TabTools.Proofs.Debug.Halting
import TabTools.Proofs.Debug.Retrace
import TabTools.Proofs.Wire.Block
import TabTools.Proofs.Debug.Logged
import TabTools.Proofs.Editor.Names
import TabTools.Proofs.Debug.Placement
import TabTools.Proofs.Text.Lines
import TabTools.Proofs.Text.Utf16
import TabTools.Proofs.Editor.Configuration
import TabTools.Proofs.Editor.Units
import TabTools.Proofs.Assembly.Comment
import TabTools.Proofs.Assembly.Run
import TabTools.Proofs.Debug.StackTrace
