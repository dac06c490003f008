import ControlVault.Audit.CrashSafety
import ControlVault.Audit.Truncation
import ControlVault.Broker.ClientData
import ControlVault.Broker.Isolation
import ControlVault.Browser.LeaseCycle
import ControlVault.Core.PolicyEncoding
import ControlVault.Daemon.Locks
import ControlVault.Daemon.OwnCredentials
import ControlVault.Daemon.NamedCredentials
import ControlVault.Engine.DefaultDeny
import ControlVault.Engine.Delivery
import ControlVault.Engine.FailedCalls
import ControlVault.Engine.GrantUse
import ControlVault.Engine.OneShot
import ControlVault.Engine.Resolution
import ControlVault.Engine.RuleLookup
import ControlVault.Engine.SessionExit
import ControlVault.Engine.Termination
import ControlVault.Storage.GitSync
import ControlVault.Storage.Noninterference
import ControlVault.Storage.Isolated
import ControlVault.Ceremony.Gate
import ControlVault.Ceremony.Ambiguity
import ControlVault.Audit.Interleaving
import ControlVault.Storage.PathIndex
import ControlVault.Broker.Enrollment
import ControlVault.Broker.Listing
import ControlVault.Broker.Authorised
import ControlVault.Broker.Counters
import ControlVault.Authenticator.RestoredBackup
import ControlVault.Browser.StartUrl
import ControlVault.Hid.Worker
import ControlVault.Hid.Endpoints
import ControlVault.Authenticator.InteractionTokens
import ControlVault.Usb.HostEventShim
import ControlVault.Daemon.BrowserEnds
import ControlVault.Daemon.BrowserGrants
import ControlVault.Storage.TpmSignature
