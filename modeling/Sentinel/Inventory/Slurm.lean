import Sentinel.Command
import Sentinel.Integrations.Slurm.Parser
import Sentinel.Inventory.StaticConfig

/-!
# Inventory from Slurm

Slurm contributes compute nodes, a scheduler, and the services that provide it.  The
nodes, the partitions and the controllers come from three queries; a failure of the
first is a failure of the provider, and a failure of another one leaves that part
empty.

## Main definitions

* `SlurmView`, `snapshotFromView` — what was seen, and the snapshot it amounts to.
* `Queries.collectView`, `Queries.discover` — the three queries.
* `Queries.fullView` — what they print, whatever became of them.
-/

namespace Sentinel

namespace Slurm

/-- What one cycle saw. -/
structure SlurmView where
  /-- The nodes. -/
  nodes : List SlurmNode
  /-- The partitions. -/
  partitions : List SlurmPartition
  /-- The controllers. -/
  controllers : List ControllerPing

/-! ### The snapshot -/

/-- The stable form of a base state. -/
def NodeBaseState.toJson : NodeBaseState → Json
  | idle => .str "idle"
  | allocated => .str "allocated"
  | mixed => .str "mixed"
  | down => .str "down"
  | error => .str "error"
  | future => .str "future"
  | unknown => .str "unknown"
  | other name => .obj [("other", .str name)]

/-- The stable form of a flag. -/
def NodeStateFlag.toJson : NodeStateFlag → Json
  | drain => .str "drain"
  | notResponding => .str "not_responding"
  | completing => .str "completing"
  | maintenance => .str "maintenance"
  | powerSave => .str "power_save"
  | poweringUp => .str "powering_up"
  | poweringDown => .str "powering_down"
  | invalidRegistration => .str "invalid_registration"
  | reserved => .str "reserved"
  | reboot => .str "reboot"
  | planned => .str "planned"
  | other name => .obj [("other", .str name)]

/-- The Slurm-side identity and state of a node. -/
def slurmNodeMetadata (node : SlurmNode) : Json :=
  .obj [
    ("node_name", .str node.nodeName),
    ("node_host_name", .ofOptionStr node.nodeHostName),
    ("node_addr", .ofOptionStr node.nodeAddr),
    ("state", .str node.state.raw),
    ("state_base", node.state.base.toJson),
    ("state_flags", .arr (node.state.flags.toList.map NodeStateFlag.toJson)),
    ("reason", .ofOptionStr node.reason),
    ("reason_time", .ofOptionStr node.reasonTime),
    ("partitions", .ofStrings node.partitions),
    ("cfg_tres", .ofOptionStr node.cfgTres),
    ("alloc_tres", .ofOptionStr node.allocTres),
    ("cpu_total", .ofOptionNat node.cpuTotal),
    ("real_memory_mb", .ofOptionNat node.realMemoryMb),
    ("gres", .ofOptionStr node.gres),
    ("configured_gpu_count", .ofOptionNat node.configuredGpuCount),
    ("boot_time", .ofOptionStr node.bootTime),
    ("schedulable", .bool node.state.isSchedulable)]

/-- What a provider over one scheduler is given: the environment, the scheduler's name,
and how identifiers are derived. -/
structure Site where
  /-- The environment. -/
  environment : String
  /-- The name of the scheduler. -/
  schedulerName : String
  /-- The identifier of a natural key. -/
  entityId : EntityKey → EntityId
  /-- The identifier of an edge. -/
  edgeId : Relation → Uuid

namespace Site

variable (site : Site)

/-- The identifier of an entity of the site. -/
def id (entityType : EntityType) (name : String) : EntityId :=
  site.entityId ⟨site.environment, entityType, name⟩

/-- The scheduler. -/
def scheduler : EntityId := site.id .scheduler site.schedulerName

/-- A new entity of the site. -/
def entity (entityType : EntityType) (name : String) : ManagedEntity :=
  .new (site.id entityType name) entityType name

/-- A new edge between entities of the site. -/
def edge (source target : EntityId) (dependencyType : DependencyType) : DependencyEdge :=
  .new (site.edgeId (source, target, dependencyType)) source target dependencyType

/-- The host of a node. -/
def nodeHost (node : SlurmNode) : ManagedEntity :=
  { (site.entity .host node.hostName).withCapabilities ["slurm.compute"] with
    metadata := .obj [("slurm", slurmNodeMetadata node)] }

/-- The daemon of a node. -/
def nodeService (node : SlurmNode) : ManagedEntity :=
  { site.entity .service ("slurmd@" ++ node.hostName) with
    metadata := .obj [("unit", .str "slurmd.service"),
      ("slurm", .obj [("node_name", .str node.nodeName)])] }

/-- Add a node: its host, its daemon, and what they depend on. -/
def addNode (snapshot : InventorySnapshot) (node : SlurmNode) : InventorySnapshot :=
  let host := site.id .host node.hostName
  let service := site.id .service ("slurmd@" ++ node.hostName)
  (((snapshot.addEntity (site.nodeHost node) rfl).addEntity (site.nodeService node) rfl).addDependency
    (site.edge service host .hostedOn)).addDependency
      ((site.edge host site.scheduler .usesScheduler).withCriticality .important)

/-- The host of a controller. -/
def controllerHost (controller : ControllerPing) : ManagedEntity :=
  (site.entity .host controller.host).withCapabilities ["slurm.controller"]

/-- The daemon of a controller. -/
def controllerService (controller : ControllerPing) : ManagedEntity :=
  { site.entity .service ("slurmctld@" ++ controller.host) with
    metadata := .obj [("unit", .str "slurmctld.service"),
      ("slurm", .obj [("role", .str controller.role), ("reachable", .bool controller.up)])] }

/-- Add a controller: its host, its daemon, and that the scheduler depends on it. -/
def addController (snapshot : InventorySnapshot) (controller : ControllerPing) : InventorySnapshot :=
  let host := site.id .host controller.host
  let service := site.id .service ("slurmctld@" ++ controller.host)
  (((snapshot.addEntity (site.controllerHost controller) rfl).addEntity
    (site.controllerService controller) rfl).addDependency
      (site.edge service host .hostedOn)).addDependency (site.edge site.scheduler service .provides)

/-- The scheduler, with its partitions and the number of its nodes. -/
def schedulerEntity (view : SlurmView) : ManagedEntity :=
  { site.entity .scheduler site.schedulerName with
    metadata := .obj [("slurm", .obj [
      ("partitions", .ofStrings (view.partitions.map SlurmPartition.name)),
      ("node_count", .num view.nodes.length)])] }

end Site

/-- Where Slurm's snapshots come from. -/
def source : DiscoverySource := .integration "slurm"

/-- Turn a view into entities and dependency edges. -/
def snapshotFromView (site : Site) (view : SlurmView) : InventorySnapshot :=
  view.controllers.foldl site.addController
    (view.nodes.foldl site.addNode
      ((InventorySnapshot.new source).addEntity (site.schedulerEntity view) rfl))

/-! ### The queries -/

/-- The three queries of a cycle. -/
structure Queries where
  /-- `scontrol show nodes -o`. -/
  nodes : Execution
  /-- `scontrol show partitions -o`. -/
  partitions : Execution
  /-- `scontrol ping`. -/
  ping : Execution

namespace Queries

/-- The text of a query that ended well; whether it was cut is not looked at. -/
def answer (limit : ℕ) (query : Execution) : Option (List Char) :=
  match query.result limit with
  | .ok output => if output.isSuccess then some output.stdout else none
  | .error _ => none

/-- Run the three queries and parse them: without the nodes there is no view, and
without an answer to another query that part of it is empty. -/
def collectView (limit : ℕ) (queries : Queries) : Option SlurmView :=
  (answer limit queries.nodes).map fun nodes =>
    { nodes := parseNodes nodes
      partitions := ((answer limit queries.partitions).map parsePartitions).getD []
      controllers := ((answer limit queries.ping).map parsePing).getD [] }

/-- What the provider answers. -/
def discover (limit : ℕ) (site : Site) (queries : Queries) : Option InventorySnapshot :=
  (queries.collectView limit).map (snapshotFromView site)

/-- What the queries print, whatever became of them. -/
def fullView (queries : Queries) : SlurmView where
  nodes := parseNodes queries.nodes.full
  partitions := parsePartitions queries.partitions.full
  controllers := parsePing queries.ping.full

end Queries

end Slurm

end Sentinel
