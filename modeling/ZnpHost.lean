import ZnpHost.Lib.Bytes
import ZnpHost.Lib.CArray
import ZnpHost.Lib.Transition
import ZnpHost.Lib.Loop
import ZnpHost.Lib.Lock
import ZnpHost.Lib.Reader
import ZnpHost.Lib.Layout
import ZnpHost.Rpc.Frame
import ZnpHost.Rpc.Receive
import ZnpHost.Rpc.Termination
import ZnpHost.Rpc.RoundTrip
import ZnpHost.Rpc.System
import ZnpHost.Rpc.Exclusion
import ZnpHost.Rpc.Tokens
import ZnpHost.Rpc.Correlation
import ZnpHost.Rpc.HeadOfQueue
import ZnpHost.Rpc.Queue
import ZnpHost.Mt.Words
import ZnpHost.Mt.SysResponses
import ZnpHost.Mt.ZdoResponses
import ZnpHost.Mt.AfResponses
import ZnpHost.Mt.SapiResponses
import ZnpHost.Mt.Parser
import ZnpHost.Mt.Layouts
import ZnpHost.Mt.Decoders
import ZnpHost.Mt.Bounds
import ZnpHost.Mt.Cmd
import ZnpHost.Mt.SysRequests
import ZnpHost.Mt.ZdoRequests
import ZnpHost.Mt.AfRequests
import ZnpHost.Mt.SapiRequests
import ZnpHost.Mt.Builders
import ZnpHost.Mt.Host
import ZnpHost.Mt.Orderly
import ZnpHost.Mt.OwnStatus
import ZnpHost.Lib.LinkedList
import ZnpHost.Lib.Tally
import ZnpHost.Rpc.Llq
import ZnpHost.Rpc.LlqThreads
import ZnpHost.Rpc.Conservation
import ZnpHost.Rpc.Acceptance
import ZnpHost.Rpc.Indices
import ZnpHost.Rpc.WholeFrames
import ZnpHost.Rpc.Retries
import ZnpHost.Lib.Encoding
import ZnpHost.Rpc.SendLength
import ZnpHost.Mt.Encodings
import ZnpHost.Mt.LargeRequests
import ZnpHost.Mt.Tables
import ZnpHost.Mt.Lists
import ZnpHost.Mt.Clusters
import ZnpHost.Lib.Deque
import ZnpHost.Rpc.Deque
import ZnpHost.Lib.CInt
import ZnpHost.Rpc.Deadline
import ZnpHost.Rpc.TimeLeft
import ZnpHost.Tirtos.Clock
import ZnpHost.Tirtos.TimedWait
import ZnpHost.Lib.Writer
import ZnpHost.Gnu.TransportUart
import ZnpHost.Rpc.IpFraming
import ZnpHost.Mt.SendStatus
import ZnpHost.Lib.CString
import ZnpHost.Lib.LineEditor
import ZnpHost.Gnu.HostConsole
import ZnpHost.Gnu.LineEditing
import ZnpHost.Gnu.Keys
import ZnpHost.Lib.Hex
import ZnpHost.Lib.StructLayout
import ZnpHost.Apps.Commands
import ZnpHost.Apps.InputCmd
import ZnpHost.Apps.InputText
import ZnpHost.Apps.InputLayout
import ZnpHost.Apps.RequestLayout
import ZnpHost.Lib.Reentry
import ZnpHost.Apps.Topology
import ZnpHost.Apps.Collection
import ZnpHost.Lib.Traversal
import ZnpHost.Apps.Discovery
import ZnpHost.Lib.Quiescence
import ZnpHost.Rpc.Rest
import ZnpHost.Rpc.LlqRest
import ZnpHost.Lib.Observation
import ZnpHost.Lib.Atomic
import ZnpHost.Rpc.Linear
import ZnpHost.Rpc.Mailbox
import ZnpHost.Mt.FixedMessages
import ZnpHost.Mt.DeviceMessages
import ZnpHost.Mt.Pipeline
import ZnpHost.Mt.RequestFields
import ZnpHost.Rpc.Outgoing
import ZnpHost.Mt.RequestLine
import ZnpHost.Rpc.Damage
import ZnpHost.Lib.CommonPrefix
import ZnpHost.Apps.Completion
import ZnpHost.Mt.RequestMembers
import ZnpHost.Apps.SendCmd
import ZnpHost.Apps.Dialogue
import ZnpHost.Apps.CommandLine
import ZnpHost.Lib.Exchange
import ZnpHost.Apps.ServDisc
import ZnpHost.Apps.Chat
import ZnpHost.Apps.StartNetwork
import ZnpHost.Apps.StressTest
