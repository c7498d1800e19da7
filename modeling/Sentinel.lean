import Sentinel.Lib.Collections
import Sentinel.Lib.Machine
import Sentinel.Lib.Records
import Sentinel.Lib.Runs
import Sentinel.Lib.Text
import Sentinel.Lib.Transaction
import Sentinel.Lib.Span
import Sentinel.Basic
import Sentinel.Observation
import Sentinel.Dependency
import Sentinel.Inventory
import Sentinel.State.Health
import Sentinel.State.Debounce
import Sentinel.State.Engine
import Sentinel.State.Invariant
import Sentinel.State.History
import Sentinel.State.Severity
import Sentinel.State.Replay
import Sentinel.State.Interleaving
import Sentinel.Controller.Builtin
import Sentinel.Probes.Nfs
import Sentinel.Agent.Spool
import Sentinel.Agent.Replay
import Sentinel.Diagnosis.Basic
import Sentinel.Diagnosis.Context
import Sentinel.Incident.Basic
import Sentinel.Incident.Engine
import Sentinel.Incident.Lifecycle
import Sentinel.Controller.Recovery
import Sentinel.Lib.Reach
import Sentinel.Dependency.Traversal
import Sentinel.Dependency.Indices
import Sentinel.Inventory.Merge
import Sentinel.Inventory.Edges
import Sentinel.Persistence.Entities
import Sentinel.State.Folded
import Sentinel.Controller.Ingest
import Sentinel.Agent.Delivery
import Sentinel.Controller.Batches
import Sentinel.Controller.Discovery
import Sentinel.Controller.Retraction
import Sentinel.Controller.Claims
import Sentinel.Controller.Presence
import Sentinel.Controller.Labels
import Sentinel.Inventory.StaticConfig
import Sentinel.Controller.Registration
import Sentinel.Controller.Facts
import Sentinel.Integrations.Slurm.Hostlist
import Sentinel.Integrations.Slurm.Parser
import Sentinel.Command
import Sentinel.Inventory.Slurm
import Sentinel.Controller.Absence
import Sentinel.Diagnosis.Investigation
import Sentinel.Diagnosis.Rules.Reachability
import Sentinel.Diagnosis.Rules.Services
import Sentinel.Diagnosis.Rules.Slurm
import Sentinel.Diagnosis.Rules.Storage
import Sentinel.Diagnosis.Engine
import Sentinel.Diagnosis.Clients
import Sentinel.Controller.Diagnose
import Sentinel.Persistence.Retention
import Sentinel.Controller.Environments
import Sentinel.Probes.Runner
import Sentinel.Inventory.Nfs
import Sentinel.Controller.Mounts
import Sentinel.Notification.Basic
import Sentinel.Notification.Dedup
import Sentinel.Controller.Notify
import Sentinel.State.Resume
import Sentinel.Controller.Monitoring
import Sentinel.Controller.Restart
import Sentinel.Incident.Resume
import Sentinel.Persistence.Streams
import Sentinel.Diagnosis.Viewpoints
import Sentinel.Inventory.Order
import Sentinel.Dependency.Walks
import Sentinel.Notification.Lifecycle
import Sentinel.Persistence.Incidents
import Sentinel.Persistence.Reset
import Sentinel.Incident.Growth
import Sentinel.Persistence.Hydrate
import Sentinel.Controller.Reset
import Sentinel.Probes.Catalog
import Sentinel.Config
import Sentinel.Config.Validate
import Sentinel.Controller.Peers
import Sentinel.Controller.Observer
import Sentinel.Audit
import Sentinel.Config.Horizons
import Sentinel.Inventory.Versions
import Sentinel.Controller.Assignment
import Sentinel.Lib.Bytes
import Sentinel.Controller.Revision
import Sentinel.Lib.Batched
import Sentinel.Agent.Flush
import Sentinel.Agent.Evict
import Sentinel.Agent.LocalProbes
import Sentinel.Controller.Metadata
import Sentinel.Controller.Reboots
import Sentinel.Controller.Endpoints
import Sentinel.Controller.Correlate
import Sentinel.Inventory.Addresses
import Sentinel.Persistence.Latest
import Sentinel.Lib.Faults
import Sentinel.Controller.Failures
import Sentinel.Incident.Severity
import Sentinel.Diagnosis.Resources
import Sentinel.Lib.Cutting
import Sentinel.Integrations.Slurm.Expansion
import Sentinel.Integrations.Slurm.Records
import Sentinel.Integrations.Slurm.Roles
import Sentinel.Integrations.Slurm.States
import Sentinel.Integrations.Slurm.Gres
import Sentinel.Agent.MountTable
import Sentinel.Incident.Fingerprint
import Sentinel.Incident.Collection
import Sentinel.Incident.Seeding
import Sentinel.Diagnosis.Arrival
import Sentinel.Probes.Guards
import Sentinel.Agent.SshPort
import Sentinel.Agent.Addressing
import Sentinel.Inventory.Declared
import Sentinel.Notification.Slack
import Sentinel.Diagnosis.Newest
import Sentinel.Diagnosis.NodeFacts
import Sentinel.Integrations.Slurm.Observe
import Sentinel.State.Immediate
import Sentinel.Diagnosis.Shown
import Sentinel.Controller.SlurmCycle
import Sentinel.Controller.SlurmOrder
import Sentinel.Protocol
import Sentinel.Controller.Agents
import Sentinel.Controller.Api
import Sentinel.Agent.Session
import Sentinel.Agent.Accepted
import Sentinel.Lib.Gapless
import Sentinel.Agent.Schedule
import Sentinel.Agent.Capabilities
import Sentinel.Agent.Startup
import Sentinel.Probes.Journal
import Sentinel.Controller.Maintenance
