import TowerGuard.Engine.Bench
import TowerGuard.Config
import TowerGuard.Properties.FirstBlocking
import TowerGuard.Properties.Views
import TowerGuard.Properties.Passthrough
import TowerGuard.Properties.GateDecision
import TowerGuard.Properties.PassiveMode
import TowerGuard.Properties.FailSecure
import TowerGuard.Properties.Fidelity
import TowerGuard.Properties.Readiness
import TowerGuard.Properties.Bans
import TowerGuard.Properties.DetectionKnobs
import TowerGuard.Properties.Standalone
import TowerGuard.Properties.ResponsePass
import TowerGuard.Properties.Hooks
import TowerGuard.Properties.ErrorBodies
import TowerGuard.Properties.Bypass
import TowerGuard.Properties.BanFirst
import TowerGuard.Properties.Unattributed
import TowerGuard.Properties.Sharing
import TowerGuard.Properties.Reset
import TowerGuard.Properties.QueryDecoding
import TowerGuard.Properties.Buffering
import TowerGuard.Properties.ScanBound
import TowerGuard.Properties.Redirect
import TowerGuard.Properties.ProxyTrust
import TowerGuard.Properties.Modifier
import TowerGuard.Properties.HeadersEvent
import TowerGuard.Properties.StatusPayload
import TowerGuard.Properties.Authority
import TowerGuard.Properties.Interleaving
import TowerGuard.Properties.Isolation
import TowerGuard.Properties.Moments
import TowerGuard.Properties.RateLimit
import TowerGuard.Properties.Identity
import TowerGuard.Properties.Enforced
import TowerGuard.Properties.Composed
import TowerGuard.Properties.Passes
import TowerGuard.Properties.StatusRoute
