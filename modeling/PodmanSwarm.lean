import PodmanSwarm.GoMap
import PodmanSwarm.Strings
import PodmanSwarm.Types
import PodmanSwarm.Storage
import PodmanSwarm.AntiEntropy
import PodmanSwarm.SyncRounds
import PodmanSwarm.Scheduler
import PodmanSwarm.Locks
import PodmanSwarm.Gossip
import PodmanSwarm.Discovery
import PodmanSwarm.Api
import PodmanSwarm.Workload
import PodmanSwarm.Messages
import PodmanSwarm.Membership
import PodmanSwarm.Dns
import PodmanSwarm.DnsForward
import PodmanSwarm.Replicas
import PodmanSwarm.Ingress
import PodmanSwarm.StoreOps
import PodmanSwarm.WhitelistApi
import PodmanSwarm.JoinTokens
import PodmanSwarm.ApiAuth
import PodmanSwarm.RegistrySync
import PodmanSwarm.Manifests
import PodmanSwarm.Logs
import PodmanSwarm.Roster
import PodmanSwarm.RegistryRuns
import PodmanSwarm.Startup
import PodmanSwarm.Departure
