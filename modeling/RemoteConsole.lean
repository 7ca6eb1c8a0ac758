import RemoteConsole.Options.Environment
import RemoteConsole.Rpc.Response
import RemoteConsole.Rpc.Request
import RemoteConsole.Rpc.Config
import RemoteConsole.Session
import RemoteConsole.Log.Setup
import RemoteConsole.Health.Wait
import RemoteConsole.Rehearsal.Collaborators
import RemoteConsole.Rehearsal.Script
import RemoteConsole.Rehearsal.Run
import RemoteConsole.Rehearsal.Caller
import RemoteConsole.Client
import RemoteConsole.Rpc.Exchange
import RemoteConsole.Proofs.Course.Timeline
import RemoteConsole.Proofs.Stream.Patience
import RemoteConsole.Proofs.Worker.Exchange
import RemoteConsole.Proofs.Lifecycle.Close
import RemoteConsole.Proofs.Lifecycle.History
import RemoteConsole.Proofs.Lifecycle.Open
import RemoteConsole.Proofs.Stream.Farewell
import RemoteConsole.Proofs.Stream.Closing
import RemoteConsole.Proofs.Course.Attended
import RemoteConsole.Proofs.Chunk.Encodings
import RemoteConsole.Proofs.Stream.Ending
import RemoteConsole.Proofs.Stream.Protocol
import RemoteConsole.Proofs.Stream.Signal
import RemoteConsole.Proofs.Delivery.Notice
import RemoteConsole.Proofs.Stream.Answer
import RemoteConsole.Proofs.Lifecycle.Streak
import RemoteConsole.Proofs.Stream.Spacing
import RemoteConsole.Proofs.Lifecycle.Overflow
import RemoteConsole.Proofs.Delivery.Panics
import RemoteConsole.Proofs.Delivery.Records
import RemoteConsole.Proofs.Health.Reports
import RemoteConsole.Proofs.Delivery.Silence
import RemoteConsole.Proofs.Stream.Relay
import RemoteConsole.Proofs.Course.Refused
import RemoteConsole.Proofs.Poller.Alike
import RemoteConsole.Proofs.Backoff.Range
import RemoteConsole.Proofs.Lifecycle.Debounce
import RemoteConsole.Proofs.Display.Writer
import RemoteConsole.Proofs.Options.Partial
import RemoteConsole.Proofs.Rpc.Detail
import RemoteConsole.Proofs.Client.Channels
