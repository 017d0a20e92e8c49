import SipXsbc.Store.Registry
import SipXsbc.Store.Acknowledged
import SipXsbc.Store.ConcurrentDialogs
import SipXsbc.Store.BulkUnregistration
import SipXsbc.Startup.Ports
import SipXsbc.Script.Bridge
import SipXsbc.Script.RouteRequest
import SipXsbc.Script.AuthProfile
import SipXsbc.Script.ProfileIsolation
import SipXsbc.Script.TransactionProperties
import SipXsbc.Script.SetterFailures
import SipXsbc.Script.HeaderScrubbing
import SipXsbc.Script.LocalRegistration
import SipXsbc.Script.RouteFlags
import SipXsbc.Script.ExportTotality
import SipXsbc.Store.RegistryLookup
import SipXsbc.Script.CallPrefix
import SipXsbc.Script.SendRegister
import SipXsbc.Keyed.BufferedWriter
import SipXsbc.Keyed.Cells
import SipXsbc.Config.Replication
import SipXsbc.Keyed.Distribution
import SipXsbc.Startup.Listeners
import SipXsbc.Keyed.Linearization
import SipXsbc.Store.Linearizability
import SipXsbc.Config.Interrupted
import SipXsbc.Config.Agent
import SipXsbc.Config.Deployed
import SipXsbc.Keyed.Workspaces
import SipXsbc.Store.OneServer
import SipXsbc.Script.RouteDecisions
import SipXsbc.Script.Handlers
import SipXsbc.Config.RoutedAsConfigured
import SipXsbc.Config.Rollout
