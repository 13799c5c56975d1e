import HidConnect.Library.Method
import HidConnect.Library.Bytes
import HidConnect.Library.Run
import HidConnect.Library.Utf8
import HidConnect.Library.Decoder
import HidConnect.Transport
import HidConnect.Types
import HidConnect.Control.Message
import HidConnect.Control.Device
import HidConnect.Control.Text
import HidConnect.Control.Decode
import HidConnect.Hid.Report
import HidConnect.Hid.Keyboard
import HidConnect.Hid.Mouse
import HidConnect.Hid.Gamepad
import HidConnect.Coalesce
import HidConnect.Coalesce.Stream
import HidConnect.Coalesce.Invisible
import HidConnect.Coalesce.Critical
import HidConnect.Coalesce.Landing
import HidConnect.Coalesce.Failures
import HidConnect.Session
import HidConnect.Session.Intents
import HidConnect.Session.Lifecycle
import HidConnect.Session.Open
import HidConnect.Session.Op
import HidConnect.Session.Close
import HidConnect.Session.DeviceLife
import HidConnect.Session.Touch
import HidConnect.Session.Gamepad
import HidConnect.Session.Shadow
import HidConnect.Session.Frames
import HidConnect.Session.Retry
import HidConnect.Session.Typing
import HidConnect.Session.Panics
import HidConnect.Client.Command
import HidConnect.Client.Dispatch
import HidConnect.Client.Teardown
import HidConnect.Client.Channel
import HidConnect.Client.Ring
import HidConnect.Client.Send
import HidConnect.Client.RingBatch
import HidConnect.Client.Batcher
import HidConnect.Client.BatcherOnce
import HidConnect.Client.RingSends
import HidConnect.Client.CloseRace
import HidConnect.Client.RingRefines
import HidConnect.Kernel.Bridge
import HidConnect.Kernel.TypeText
import HidConnect.Library.Varint
import HidConnect.Library.Reader
import HidConnect.Kernel.Protocol
import HidConnect.Kernel.Varint
import HidConnect.Kernel.Frames
import HidConnect.Kernel.ReadMore
import HidConnect.Kernel.Request
import HidConnect.Kvs
import HidConnect.Kvs.RoundTrip
import HidConnect.Kvs.Places
import HidConnect.Kvs.Appends
import HidConnect.Client.FixedBatcher
import HidConnect.Client.FixedExact
import HidConnect.Library.Atomic
import HidConnect.Client.RingMachine
import HidConnect.Library.Accounts
import HidConnect.Client.FlushAck
import HidConnect.Ai
import HidConnect.Incoming
import HidConnect.Incoming.ReadBack
import HidConnect.Incoming.Latest
import HidConnect.Incoming.Fresh
import HidConnect.Kernel.Recency
import HidConnect.Kernel.Stream
import HidConnect.Kernel.Replay
import HidConnect.Kernel.Delivery
import HidConnect.Kernel.PlanExecutor
import HidConnect.Library.Ends
import HidConnect.Library.Trace
import HidConnect.Kernel.PlanTurn
import HidConnect.Kernel.PlanCheckpoints
import HidConnect.Kernel.PlanPartial
import HidConnect.Kernel.PlanVerify
import HidConnect.Kernel.PlanAbort
import HidConnect.Kernel.PlanBestEffort
import HidConnect.Kernel.PlanDelivery
import HidConnect.Incoming.Stalls
import HidConnect.Kernel.ColdStart
import HidConnect.Kernel.Restart
import HidConnect.Kernel.Retries
import HidConnect.Kernel.Observing
import HidConnect.Kernel.DaemonPlan
import HidConnect.Kernel.Publishing
import HidConnect.Kernel.Landed
import HidConnect.Library.Slots
import HidConnect.Hid.Slots
import HidConnect.Hid.SlotTable
import HidConnect.Coalesce.Encoders
import HidConnect.Session.BatchFold
import HidConnect.Coalesce.Bounded
import HidConnect.Hid.Held
import HidConnect.Client.Chord
import HidConnect.Coalesce.Direct
import HidConnect.Session.Chord
import HidConnect.Library.Rounds
import HidConnect.Session.Pointers
import HidConnect.Session.Releases
import HidConnect.Kernel.OneMeaning
import HidConnect.Kernel.PredicateWait
import HidConnect.Kernel.ChunkPlanner
import HidConnect.Protocol.Frame
import HidConnect.Library.Accepts
import HidConnect.Ai.Layout
import HidConnect.Library.Simulation
import HidConnect.Incoming.Async
import HidConnect.Hid.Scroll
import HidConnect.Library.Errors
import HidConnect.Library.Asserts
import HidConnect.Coalesce.Taken
import HidConnect.Kernel.Refused
import HidConnect.Session.Overflow
import HidConnect.Kernel.Gestures
import HidConnect.Hid.HidId
import HidConnect.Library.Catalogue
import HidConnect.Kernel.ScenarioSelect
import HidConnect.Kernel.OutcomeAverages
import HidConnect.Kernel.SessionState
import HidConnect.Library.Lossy
import HidConnect.Protocol.ErrorFrame
import HidConnect.Kernel.RequestFrames
import HidConnect.Library.Markup
import HidConnect.Kernel.UiRepr
import HidConnect.Kernel.ScreenLimits
import HidConnect.Hid.Pointer
import HidConnect.Client.FlushWait
import HidConnect.Incoming.Delivered
import HidConnect.Client.HostView
import HidConnect.Client.Acked
import HidConnect.Client.Gestures
import HidConnect.Kernel.Batch
import HidConnect.Protocol.Request
import HidConnect.Kernel.Reconnect
import HidConnect.Kernel.Typed
