import RpcTransport.Address.HostPort
import RpcTransport.Address.Ip
import RpcTransport.Address.Socket
import RpcTransport.Bridge.Cors
import RpcTransport.Bridge.GrpcWeb
import RpcTransport.Bridge.Path
import RpcTransport.Bridge.Router
import RpcTransport.Client.Handle
import RpcTransport.Client.Pool
import RpcTransport.Client.Resilient
import RpcTransport.Client.Run
import RpcTransport.Client.Transport
import RpcTransport.Config.Check
import RpcTransport.Config.Decode
import RpcTransport.Config.Load
import RpcTransport.Config.Schema
import RpcTransport.Dial.Endpoint
import RpcTransport.Dial.Target
import RpcTransport.Files
import RpcTransport.Files.Tree
import RpcTransport.Guard.Guard
import RpcTransport.Guard.Ports
import RpcTransport.Guard.Registry
import RpcTransport.Host.Health
import RpcTransport.Host.Host
import RpcTransport.Host.Registry
import RpcTransport.Host.Run
import RpcTransport.Host.State
import RpcTransport.Http.Header
import RpcTransport.Http.Message
import RpcTransport.Http.Uri
import RpcTransport.Json.Number
import RpcTransport.Json.Parser
import RpcTransport.Json.Printer
import RpcTransport.Json.Value
import RpcTransport.Listener.Bind
import RpcTransport.Listener.LocalNetwork
import RpcTransport.Listener.Resolve
import RpcTransport.Listener.Sockets
import RpcTransport.Main
import RpcTransport.Observe.Counter
import RpcTransport.Observe.FieldPattern
import RpcTransport.Observe.Journal
import RpcTransport.Observe.LogFilter
import RpcTransport.Observe.LogLine
import RpcTransport.Observe.Notice
import RpcTransport.Program.CommandLine
import RpcTransport.Program.Daemon
import RpcTransport.Program.Launch
import RpcTransport.Program.Probe
import RpcTransport.Proofs.Address.HostPort
import RpcTransport.Proofs.Address.IpLiteral
import RpcTransport.Proofs.Address.SocketLiteral
import RpcTransport.Proofs.Address.SocketText
import RpcTransport.Proofs.Bridge.CrossOrigin
import RpcTransport.Proofs.Bridge.PathPrefix
import RpcTransport.Proofs.Bridge.RootPath
import RpcTransport.Proofs.Client.CallPath
import RpcTransport.Proofs.Client.CallRecord
import RpcTransport.Proofs.Client.Chronicle
import RpcTransport.Proofs.Client.Counters
import RpcTransport.Proofs.Client.DialFailure
import RpcTransport.Proofs.Client.Generations
import RpcTransport.Proofs.Client.Held
import RpcTransport.Proofs.Client.Notices
import RpcTransport.Proofs.Client.Ownership
import RpcTransport.Proofs.Client.PoolRun
import RpcTransport.Proofs.Client.PoolSteps
import RpcTransport.Proofs.Client.Reached
import RpcTransport.Proofs.Client.Reconnect
import RpcTransport.Proofs.Client.Recovery
import RpcTransport.Proofs.Client.Turns
import RpcTransport.Proofs.Config.Checked
import RpcTransport.Proofs.Config.FieldTypes
import RpcTransport.Proofs.Config.ListenerAddress
import RpcTransport.Proofs.Config.Merged
import RpcTransport.Proofs.Config.Rules
import RpcTransport.Proofs.Config.SharedAddress
import RpcTransport.Proofs.Dial.ClientOptions
import RpcTransport.Proofs.Dial.Settings
import RpcTransport.Proofs.Guard.Collected
import RpcTransport.Proofs.Guard.Enforced
import RpcTransport.Proofs.Guard.HostingShapes
import RpcTransport.Proofs.Guard.PortNumbers
import RpcTransport.Proofs.Guard.PortSets
import RpcTransport.Proofs.Guard.Registry
import RpcTransport.Proofs.Host.BridgeFailure
import RpcTransport.Proofs.Host.BridgePort
import RpcTransport.Proofs.Host.Held
import RpcTransport.Proofs.Host.Lifecycle
import RpcTransport.Proofs.Host.Operations
import RpcTransport.Proofs.Host.Reached
import RpcTransport.Proofs.Host.Refusals
import RpcTransport.Proofs.Host.Teardown
import RpcTransport.Proofs.Http.RequestTarget
import RpcTransport.Proofs.Json.Fields
import RpcTransport.Proofs.Listener.FirstAccepted
import RpcTransport.Proofs.Listener.Gained
import RpcTransport.Proofs.Listener.GuardedBind
import RpcTransport.Proofs.Listener.JudgedPort
import RpcTransport.Proofs.Listener.Opened
import RpcTransport.Proofs.NamedEntries
import RpcTransport.Proofs.Observe.Totals
import RpcTransport.Proofs.Program.FailClosed
import RpcTransport.Proofs.Program.Order
import RpcTransport.Proofs.Program.Preliminary
import RpcTransport.Proofs.Program.Stages
import RpcTransport.Proofs.Shutdown.Attention
import RpcTransport.Proofs.Shutdown.Coordination
import RpcTransport.Proofs.Shutdown.Families
import RpcTransport.Proofs.Shutdown.Indistinct
import RpcTransport.Proofs.Shutdown.Ways
import RpcTransport.Proofs.SystemConfig.Categories
import RpcTransport.Proofs.Text.ByteOrder
import RpcTransport.Proofs.Text.Decimal
import RpcTransport.Proofs.Text.Split
import RpcTransport.Proofs.Url.PlainHost
import RpcTransport.Proofs.Url.WrittenPort
import RpcTransport.Rpc.Retry
import RpcTransport.Rpc.Status
import RpcTransport.Shutdown.Run
import RpcTransport.Shutdown.Signal
import RpcTransport.Shutdown.Watch
import RpcTransport.SystemConfig.Category
import RpcTransport.SystemConfig.Location
import RpcTransport.SystemConfig.Store
import RpcTransport.Text.Blank
import RpcTransport.Text.CodePoint
import RpcTransport.Text.CombiningTable
import RpcTransport.Text.Decimal
import RpcTransport.Text.Direction
import RpcTransport.Text.Joining
import RpcTransport.Text.Letter
import RpcTransport.Text.Mark
import RpcTransport.Text.Normalization
import RpcTransport.Text.Printable
import RpcTransport.Text.Quoted
import RpcTransport.Text.Shortest
import RpcTransport.Text.Split
import RpcTransport.Toml.Document
import RpcTransport.Toml.Scalar
import RpcTransport.Toml.Table
import RpcTransport.Toml.Text
import RpcTransport.Url.Domain
import RpcTransport.Url.DomainImages
import RpcTransport.Url.DomainMapping
import RpcTransport.Url.DomainTable
import RpcTransport.Url.Label
import RpcTransport.Url.Port
import RpcTransport.Url.Punycode
