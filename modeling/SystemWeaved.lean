import SystemWeaved.Proof.LoadIsolation
import SystemWeaved.Proof.LastSave
import SystemWeaved.Proof.Defaults
import SystemWeaved.Proof.Reload
import SystemWeaved.Proof.ErrorConversion
import SystemWeaved.Proof.SocketStream
import SystemWeaved.Proof.Network
import SystemWeaved.Proof.Attempts
import SystemWeaved.Proof.AttemptCalls
import SystemWeaved.Proof.AttemptError
import SystemWeaved.Proof.Connectivity
import SystemWeaved.Proof.Listeners
import SystemWeaved.Proof.Watched
import SystemWeaved.Proof.DeviceList
import SystemWeaved.Proof.DeviceStates
import SystemWeaved.Proof.Whitelist
import SystemWeaved.Proof.Restart
import SystemWeaved.Proof.ApManager
import SystemWeaved.Proof.AccessPoint
import SystemWeaved.Proof.Mdns
import SystemWeaved.Proof.Handlers
import SystemWeaved.Proof.Subscription
import SystemWeaved.Proof.Recovery
import SystemWeaved.Proof.Delivery
import SystemWeaved.Proof.DeathCalls
import SystemWeaved.Proof.ServiceCalls
import SystemWeaved.Proof.Command
import SystemWeaved.Proof.Components
import SystemWeaved.Proof.RemoteCommand
import SystemWeaved.Proof.Sessions
import SystemWeaved.Proof.PairingCallback
import SystemWeaved.Proof.Daemon
import SystemWeaved.Proof.Lifetime
import SystemWeaved.Proof.HttpServer
import SystemWeaved.Proof.Connect
import SystemWeaved.Proof.Shutdown
