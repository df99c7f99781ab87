import Modvpn.Protocol.TransitionSystem
import Modvpn.Protocol.Program
import Modvpn.Protocol.Pool
import Modvpn.Types.Uuid
import Modvpn.Types.Net
import Modvpn.Types.Session
import Modvpn.Daemon.State
import Modvpn.Daemon.World
import Modvpn.Daemon.Storage
import Modvpn.Daemon.Device
import Modvpn.Daemon.Handlers
import Modvpn.Daemon.Tasks
import Modvpn.Daemon.ParameterGenerator
import Modvpn.Daemon.SessionView
import Modvpn.Analysis.Daemon.Rows
import Modvpn.Analysis.Daemon.Handling
import Modvpn.Daemon.Channel
import Modvpn.Analysis.Daemon.ChannelStep
import Modvpn.Analysis.Daemon.InProgress
import Modvpn.Analysis.Daemon.NoPanic
import Modvpn.Analysis.Daemon.StopTunnel
import Modvpn.Analysis.Daemon.Attribution
import Modvpn.Analysis.Daemon.Parameters
import Modvpn.Analysis.Daemon.Footprints
import Modvpn.Daemon.Machine
import Modvpn.Analysis.Daemon.Frames
import Modvpn.Analysis.Daemon.Governing
import Modvpn.Analysis.Daemon.Recovery
import Modvpn.Analysis.Daemon.Retention
import Modvpn.Analysis.Daemon.SignOut
import Modvpn.Analysis.Daemon.SingleDevice
import Modvpn.Analysis.Daemon.Announcements
import Modvpn.Analysis.Daemon.Ledger
import Modvpn.Analysis.Daemon.Custody
import Modvpn.Analysis.Daemon.Finality
import Modvpn.Analysis.Daemon.FindThenWrite
import Modvpn.Daemon.Watching
import Modvpn.Protocol.Reporters
import Modvpn.Analysis.Daemon.TunnelStart
import Modvpn.Analysis.Daemon.Watching
import Modvpn.Daemon.ServiceLoop
import Modvpn.Analysis.Daemon.Tokens
import Modvpn.Ui.VpnStatusReducer
import Modvpn.Ui.VpnStatusContext
import Modvpn.Analysis.Ui.Convergence
import Modvpn.Android.VPNState
import Modvpn.Android.VPNOrchestrator
import Modvpn.Analysis.Android.TunnelHandle
import Modvpn.Protocol.Cancellation
import Modvpn.Android.VpnSessionDao
import Modvpn.Android.VPNSessionRepository
import Modvpn.Android.Phone
import Modvpn.Analysis.Android.PhoneStep
import Modvpn.Analysis.Android.Records
import Modvpn.Analysis.Android.Wakeups
import Modvpn.Analysis.Android.Handling
import Modvpn.Analysis.Android.Footprints
import Modvpn.Analysis.Android.LiveSession
import Modvpn.Analysis.Android.EarlierSessions
import Modvpn.Analysis.Android.Passages
import Modvpn.Analysis.Android.WatchEnded
import Modvpn.Android.HomeViewModel
import Modvpn.Analysis.Android.Informed
import Modvpn.Analysis.Android.HomeScreen
import Modvpn.Analysis.Android.Preserves
import Modvpn.Android.VPNServiceConnectionManager
import Modvpn.Analysis.Android.Listeners
import Modvpn.Protocol.Growing
import Modvpn.Daemon.WatcherLoop
import Modvpn.Analysis.Daemon.Forwarding
import Modvpn.Protocol.Senders
import Modvpn.Server.Conversions
import Modvpn.Daemon.SessionService
import Modvpn.Analysis.Daemon.Orphans
import Modvpn.Daemon.ReplyLoops
import Modvpn.Analysis.Daemon.Replies
import Modvpn.Daemon.Notifications
import Modvpn.Analysis.Daemon.Notifications
import Modvpn.Analysis.Daemon.NotificationIds
import Modvpn.Analysis.Daemon.Repeats
import Modvpn.Daemon.Connecting
import Modvpn.Analysis.Daemon.FailedConnect
import Modvpn.Protocol.RecentlyUsed
import Modvpn.Daemon.RecentLocations
import Modvpn.Analysis.Daemon.RecentLocations
import Modvpn.Analysis.Daemon.RecentTasks
import Modvpn.Android.LocationDao
import Modvpn.Analysis.Android.LocationCache
import Modvpn.Controller.Conversions
import Modvpn.Analysis.Controller.RoundTrips
import Modvpn.Wireguard.Java
import Modvpn.Wireguard.Key
import Modvpn.Arithmetic.Words
import Modvpn.Analysis.Wireguard.KeyText
import Modvpn.Wireguard.Curve25519
import Modvpn.Arithmetic.Digits
import Modvpn.Arithmetic.Lucas
import Modvpn.Analysis.Wireguard.FieldArithmetic
import Modvpn.Analysis.Wireguard.FieldElements
import Modvpn.Arithmetic.MontgomeryLadder
import Modvpn.Wireguard.KeyPair
import Modvpn.Analysis.Wireguard.PublicKey
import Modvpn.Wireguard.Platform
import Modvpn.Wireguard.Attribute
import Modvpn.Wireguard.Config
import Modvpn.Analysis.Wireguard.AttributeText
import Modvpn.Analysis.Wireguard.Sections
import Modvpn.Analysis.Wireguard.WellFormed
import Modvpn.Analysis.Wireguard.AsciiPlatform
import Modvpn.Analysis.Wireguard.ConfigText
import Modvpn.Analysis.Wireguard.Settings
import Modvpn.Analysis.Wireguard.Exceptions
import Modvpn.Android.TunnelConfig
import Modvpn.Analysis.Android.Configured
import Modvpn.Analysis.Android.ConnectedTunnel
