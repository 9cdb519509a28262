import Dynet.Lib.Checks
import Dynet.Lib.Maps
import Dynet.Lib.Walk
import Dynet.Lib.Sqlite
import Dynet.Runtime.Stores
import Dynet.Runtime.Validation
import Dynet.Runtime.SelectionGraph
import Dynet.Runtime.Routing
import Dynet.Runtime.Dns
import Dynet.Runtime.TrafficSession
import Dynet.Lib.Text
import Dynet.Runtime.Event
import Dynet.Api.Events
import Dynet.Runtime.MatrixStats
import Dynet.Runtime.ActiveSessions
import Dynet.Ingress.Captured
import Dynet.Ingress.Fields
import Dynet.Ingress.SelectionFields
import Dynet.Ingress.CapturedEvents
import Dynet.Persistence.SessionRow
import Dynet.Persistence.SessionAgreement
import Dynet.Persistence.Observations
import Dynet.Persistence.Sink
import Dynet.Persistence.Watermarks
import Dynet.Ingress.UdpFraming
import Dynet.Ingress.UdpTable
import Dynet.Ingress.UdpAssociations
import Dynet.Ingress.UdpDrain
import Dynet.Persistence.Bootstrap
import Dynet.Ingress.Config
import Dynet.State.Config
import Dynet.Ingress.ReloadableEgress
import Dynet.Cli.RuntimeReload
import Dynet.Cli.ReloadMachine
import Dynet.State.NodeConfig
import Dynet.State.ForwardingConfig
import Dynet.State.Startable
import Dynet.Ingress.GraphExecution
import Dynet.Lib.Framing
import Dynet.Vless.Basic
import Dynet.Vless.TlsDeframer
import Dynet.Vless.FuzzyTlsDeframer
import Dynet.Vless.VisionUnpad
import Dynet.Vless.BufReader
import Dynet.Vless.SlideBuffer
import Dynet.Vless.VisionFilter
import Dynet.Vless.VisionPad
import Dynet.Vless.VisionStream
import Dynet.Vless.VisionWrite
import Dynet.Vless.Reality.Crypto
import Dynet.Vless.Reality.Records
import Dynet.Vless.Reality.ClientVerify
import Dynet.Vless.Reality.Connection
import Dynet.Vless.Reality.Writing
import Dynet.Vless.Reality.Receiving
import Dynet.Vless.Reality.Buffers
import Dynet.Vless.VisionRead
import Dynet.Vless.Reality.Messages
import Dynet.Vless.Reality.Handshake
import Dynet.Vless.Reality.Fragmentation
import Dynet.Lib.Words
import Dynet.Capture.Scope
import Dynet.Capture.Listing
import Dynet.Capture.RouterIngress
import Dynet.Capture.DnsMapping
import Dynet.Capture.HookStatus
import Dynet.Capture.HookHost
import Dynet.Capture.RouterApply
import Dynet.Lib.Replay
import Dynet.Shadowsocks.ReplayWindow
import Dynet.Shadowsocks.Udp
import Dynet.Shadowsocks.UdpTrace
import Dynet.Lib.Checked
import Dynet.Runtime.MatrixActive
import Dynet.Runtime.ActiveSelection
import Dynet.Runtime.Ipv6Policy
import Dynet.Dns.Packet
import Dynet.Dns.Resolve
import Dynet.Dns.Observed
import Dynet.Capture.OutputHook
import Dynet.Capture.OutputApply
import Dynet.Lib.Script
import Dynet.Capture.Takeover
import Dynet.Capture.TakeoverCleanup
import Dynet.Service.Artifact
import Dynet.Service.Controller
import Dynet.Service.Convergence
import Dynet.Runtime.StatsPartition
import Dynet.Lib.StreamEnd
import Dynet.Ingress.TrojanPackets
import Dynet.Lib.ByteCounter
import Dynet.Shadowsocks.AeadStream
import Dynet.Shadowsocks.AeadChunks
import Dynet.Ingress.VmessDatagrams
import Dynet.Lib.Truncation
import Dynet.Shadowsocks.Response
import Dynet.Ingress.VmessEnd
import Dynet.Ingress.StreamEnds
import Dynet.Lib.Slices
import Dynet.Lib.Utf8
import Dynet.Ingress.SocksProtocol
import Dynet.Ingress.SocksUdpLoop
import Dynet.Ingress.SocksReplies
import Dynet.Ingress.SocksIsolation
import Dynet.Dns.Query
import Dynet.Dns.Filter
import Dynet.Vless.SlideStorage
import Dynet.Vless.Cursor
import Dynet.Vless.ServerHello
import Dynet.Lib.Radix
import Dynet.Dns.Chunked
import Dynet.Runtime.RouteMatching
import Dynet.Capture.Packet
import Dynet.Persistence.Budget
import Dynet.Runtime.SessionStore
import Dynet.Service.Recognition
import Dynet.Lib.KeyedLines
import Dynet.Lib.Least
import Dynet.State.Fingerprints
import Dynet.Runtime.AddressText
import Dynet.Persistence.BootstrapLoad
import Dynet.Persistence.StoredSelection
import Dynet.Persistence.Startup
import Dynet.Vless.VisionReader
import Dynet.Vless.VisionMeaning
import Dynet.Vless.VisionRecords
import Dynet.Vless.VisionDelivery
import Dynet.Capture.HookCleanup
import Dynet.Capture.SharedHooks
import Dynet.Lib.Dialogue
import Dynet.Ingress.SocksHandshake
import Dynet.Ingress.DnsTcp
import Dynet.Dns.Https
import Dynet.Ingress.DirectRelay
import Dynet.Lib.PrefixCode
import Dynet.Ingress.RequestHeaders
import Dynet.Vless.ReadBack
import Dynet.Vless.Reality.ClientHello
import Dynet.Vless.Reality.ServerMessages
import Dynet.Vless.Reality.HonestServer
