import Kaonic.Base.Batch
import Kaonic.Base.Block
import Kaonic.Base.Broadcast
import Kaonic.Base.Clock
import Kaonic.Base.FileTasks
import Kaonic.Base.Flood
import Kaonic.Base.HashMap
import Kaonic.Base.Machine
import Kaonic.Base.Recency
import Kaonic.Base.Reconcile
import Kaonic.Base.Register
import Kaonic.Base.SelectLoop
import Kaonic.Base.Tasks
import Kaonic.Base.Text
import Kaonic.Base.Traverse
import Kaonic.Base.Unwinding
import Kaonic.Gateway.Audio
import Kaonic.Gateway.Concurrent
import Kaonic.Gateway.Database
import Kaonic.Gateway.FrameFeed
import Kaonic.Gateway.Handlers
import Kaonic.Gateway.Installer
import Kaonic.Gateway.LinkTracker
import Kaonic.Gateway.Mixer
import Kaonic.Gateway.PowerCycles
import Kaonic.Gateway.RootCa
import Kaonic.Gateway.Settings
import Kaonic.Gateway.Tracker
import Kaonic.Net.AddressHash
import Kaonic.Net.Ipv4
import Kaonic.Net.Netfilter
import Kaonic.Net.Notation
import Kaonic.Plugin.Bounds
import Kaonic.Plugin.Bridge
import Kaonic.Plugin.Command
import Kaonic.Plugin.Cot
import Kaonic.Plugin.CotNet
import Kaonic.Plugin.CotRules
import Kaonic.Plugin.Diagnostics
import Kaonic.Plugin.Interface
import Kaonic.Plugin.LocalControl
import Kaonic.Plugin.Location
import Kaonic.Plugin.LocationRuns
import Kaonic.Plugin.Mesh
import Kaonic.Plugin.MeshAgreement
import Kaonic.Plugin.Node
import Kaonic.Plugin.Relay
import Kaonic.Plugin.Replay
import Kaonic.Plugin.SeenCommands
import Kaonic.Plugin.SeenQueue
import Kaonic.Plugin.Startup
import Kaonic.Plugin.WindowLog
import Kaonic.Radio.ReceiveTask
import Kaonic.Radio.TransmitTask
import Kaonic.Vpn.Accounting
import Kaonic.Vpn.Codec
import Kaonic.Vpn.Conversation
import Kaonic.Vpn.EndToEnd
import Kaonic.Vpn.Expiry
import Kaonic.Vpn.Health
import Kaonic.Vpn.KernelSync
import Kaonic.Vpn.LinkData
import Kaonic.Vpn.LinkRequests
import Kaonic.Vpn.LocalRoutes
import Kaonic.Vpn.LostUpdate
import Kaonic.Vpn.Operations
import Kaonic.Vpn.Overlay
import Kaonic.Vpn.Peer
import Kaonic.Vpn.Policy
import Kaonic.Vpn.Readmission
import Kaonic.Vpn.RegistryRuns
import Kaonic.Vpn.RouteConflicts
import Kaonic.Vpn.RouteGrace
import Kaonic.Vpn.RouteTranslations
import Kaonic.Vpn.Router
import Kaonic.Vpn.Runtime
import Kaonic.Vpn.Snapshot
import Kaonic.Vpn.System
import Kaonic.Vpn.Tasks
import Kaonic.Vpn.Translations
import Kaonic.Vpn.TunnelAddress
