import Sentinel.Dependency

/-!
# The inventory

The entities that providers reported, by identifier, and the dependency graph over
them.

## Main definitions

* `ManagedEntity`, `ManagedEntity.new`, `LifecycleState` — a monitored thing.
* `Inventory`, `Inventory.insertEntity`, `Inventory.insertDependency`,
  `Inventory.get`, `Inventory.all` — entities and graph.
-/

namespace Sentinel

/-- Stable string form of an entity type. -/
def EntityType.asStr : EntityType → String
  | host => "host"
  | service => "service"
  | storage => "storage"
  | scheduler => "scheduler"
  | externalDependency => "external_dependency"

/-- Parse the stable string form. -/
def EntityType.parse (s : String) : Option EntityType :=
  if s = "host" then some host
  else if s = "service" then some service
  else if s = "storage" then some storage
  else if s = "scheduler" then some scheduler
  else if s = "external_dependency" then some externalDependency
  else none

/-- Lifecycle of an entity in the inventory. -/
inductive LifecycleState
  /-- Currently discovered by at least one provider. -/
  | active
  /-- Not discovered recently, but retained with its history. -/
  | stale
  /-- Explicitly retired by an operator. -/
  | removed
  deriving DecidableEq, Repr

/-- Free-form operator metadata. -/
abbrev Labels := Std.ExtTreeMap String String

/-- The set of capabilities held by an entity. -/
abbrev CapabilitySet := Std.ExtTreeSet Capability

/-- A monitored thing with state. -/
structure ManagedEntity where
  /-- Stable internal identifier. -/
  id : EntityId
  /-- Optional logical cluster grouping. -/
  cluster : Option String
  /-- What kind of entity this is. -/
  entityType : EntityType
  /-- Natural key within environment and type. -/
  canonicalName : String
  /-- Human-facing name. -/
  displayName : String
  /-- Operator labels. -/
  labels : Labels
  /-- Integration-supplied structured metadata. -/
  metadata : Json
  /-- Capabilities that decide which probes apply. -/
  capabilities : CapabilitySet
  /-- Inventory lifecycle. -/
  lifecycleState : LifecycleState
  /-- Providers that reported this entity. -/
  discoverySources : List DiscoverySource

namespace ManagedEntity

/-- Create an entity, under the identifier derived from its natural key. -/
def new (id : EntityId) (entityType : EntityType) (canonicalName : String) : ManagedEntity where
  id := id
  cluster := none
  entityType := entityType
  canonicalName := canonicalName
  displayName := canonicalName
  labels := ∅
  metadata := .null
  capabilities := ∅
  lifecycleState := .active
  discoverySources := []

/-- Set the logical cluster. -/
def withCluster (entity : ManagedEntity) (cluster : String) : ManagedEntity :=
  { entity with cluster := some cluster }

/-- Set the display name. -/
def withDisplayName (entity : ManagedEntity) (name : String) : ManagedEntity :=
  { entity with displayName := name }

/-- Add a label. -/
def withLabel (entity : ManagedEntity) (key value : String) : ManagedEntity :=
  { entity with labels := entity.labels.insert key value }

/-- Record the provider that discovered this entity. -/
def withDiscoverySource (entity : ManagedEntity) (source : DiscoverySource) : ManagedEntity :=
  if source ∈ entity.discoverySources then entity
  else { entity with discoverySources := entity.discoverySources ++ [source] }

/-- Replace the capability set. -/
def withCapabilities (entity : ManagedEntity) (capabilities : List String) : ManagedEntity :=
  { entity with capabilities := Std.ExtTreeSet.ofList (capabilities.map Capability.mk) }

end ManagedEntity

/-- The entities known, and the dependencies between them. -/
structure Inventory where
  /-- The entities, by identifier. -/
  entities : Std.ExtTreeMap EntityId ManagedEntity
  /-- The dependency graph. -/
  graph : DependencyGraph
  /-- Edges whose ends are not known yet. -/
  pending : List DependencyEdge
  /-- An entity is kept under its own identifier. -/
  keyed : ∀ (id : EntityId) (entity : ManagedEntity), entities[id]? = some entity → entity.id = id

namespace Inventory

/-- An empty inventory. -/
def new : Inventory := ⟨∅, .empty, [], fun _ _ h => by simp at h⟩

/-- Insert an entity, replacing any entity with the same identifier. -/
def insertEntity (inventory : Inventory) (entity : ManagedEntity) : Inventory where
  entities := inventory.entities.insert entity.id entity
  graph := inventory.graph
  pending := inventory.pending
  keyed := by
    intro id entity' h
    rw [Std.ExtTreeMap.getElem?_insert_eq] at h
    split at h
    · next hid => rw [← Option.some.inj h]; exact hid
    · exact inventory.keyed id entity' h

/-- Insert a dependency edge. -/
def insertDependency (inventory : Inventory) (edge : DependencyEdge) : Inventory :=
  { inventory with graph := inventory.graph.insert edge }

/-- An entity by identifier. -/
def get (inventory : Inventory) (id : EntityId) : Option ManagedEntity := inventory.entities[id]?

/-- Every entity, in a stable order. -/
def all (inventory : Inventory) : List ManagedEntity := inventory.entities.vals

end Inventory

end Sentinel
