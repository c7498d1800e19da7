import Sentinel.Inventory.Edges
import Sentinel.Lib.Text

/-!
# Inventory from the configuration file

For everything no integration will find on its own: a file server with no agent yet, a
storage domain that exists only as a concept.  Declarations that do not parse are
skipped.

## Main definitions

* `EntityConfig`, `DependencyConfig`, `StaticConfigProvider` — what is declared.
* `StaticConfigProvider.snapshot` — the snapshot it amounts to.
-/

namespace Sentinel

/-- A statically declared entity. -/
structure EntityConfig where
  /-- Entity type, such as `host` or `storage`. -/
  entityType : String
  /-- Canonical name. -/
  name : String
  /-- Optional display name. -/
  displayName : Option String := none
  /-- Optional cluster. -/
  cluster : Option String := none
  /-- Operator labels. -/
  labels : Labels := ∅
  /-- Capabilities to declare for this entity. -/
  capabilities : List String := []
  /-- Addresses to reach this entity at. -/
  addresses : List String := []
  /-- Non-default ports, by service name. -/
  ports : Std.ExtTreeMap String UInt16 := ∅

/-- A statically declared dependency edge. -/
structure DependencyConfig where
  /-- Dependent entity, as `type/name`. -/
  source : String
  /-- Depended-upon entity, as `type/name`. -/
  target : String
  /-- Dependency type. -/
  dependencyType : String := "depends_on"
  /-- Criticality. -/
  criticality : String := "critical"

/-- Reads entities and dependencies out of the configuration. -/
structure StaticConfigProvider where
  /-- The environment declared for. -/
  environment : String
  /-- The entities declared. -/
  entities : List EntityConfig
  /-- The dependencies declared. -/
  dependencies : List DependencyConfig

namespace Json

/-- A list of texts. -/
def ofStrings (items : List String) : Json := arr (items.map str)

/-- Ports by service name. -/
def ofPorts (ports : Std.ExtTreeMap String UInt16) : Json :=
  obj (ports.toList.map fun port => (port.1, num port.2.toNat))

end Json

namespace EntityConfig

/-- Reachability data hung off the entity: what was declared of it. -/
def metadata (declared : EntityConfig) : Json :=
  let addresses :=
    if declared.addresses.isEmpty then [] else [("addresses", Json.ofStrings declared.addresses)]
  let ports := if declared.ports.isEmpty then [] else [("ports", Json.ofPorts declared.ports)]
  match addresses ++ ports with
  | [] => .null
  | fields => .obj fields

/-- The entity declared, under its identifier. -/
def entity (declared : EntityConfig) (id : EntityId) (entityType : EntityType) : ManagedEntity :=
  let entity := (ManagedEntity.new id entityType declared.name).withCapabilities declared.capabilities
  let entity := declared.displayName.elim entity entity.withDisplayName
  let entity := declared.cluster.elim entity entity.withCluster
  let entity := declared.labels.toList.foldl (fun entity label => entity.withLabel label.1 label.2) entity
  { entity with metadata := declared.metadata }

/-- What is declared of an entity beside its capabilities leaves the other columns. -/
theorem column_entity {α : Type*} (column : ManagedEntity → α)
    (hdisplay : ∀ entity name, column (entity.withDisplayName name) = column entity)
    (hcluster : ∀ entity cluster, column (entity.withCluster cluster) = column entity)
    (hlabel : ∀ entity key value, column (entity.withLabel key value) = column entity)
    (hmetadata : ∀ (entity : ManagedEntity) metadata, column { entity with metadata := metadata } = column entity)
    (declared : EntityConfig) (id : EntityId) (entityType : EntityType) :
    column (declared.entity id entityType) =
      column ((ManagedEntity.new id entityType declared.name).withCapabilities declared.capabilities) := by
  have hlabels : ∀ (labels : List (String × String)) (entity : ManagedEntity),
      column (labels.foldl (fun entity label => entity.withLabel label.1 label.2) entity) = column entity := by
    intro labels
    induction labels with
    | nil => intro entity; rfl
    | cons label labels ih =>
      intro entity
      rw [List.foldl_cons, ih, hlabel]
  rw [entity, hmetadata, hlabels]
  cases declared.cluster with
  | none => cases declared.displayName <;> simp only [Option.elim, hdisplay]
  | some cluster =>
    refine (hcluster _ cluster).trans ?_
    cases declared.displayName <;> simp only [Option.elim, hdisplay]

theorem lifecycleState_entity (declared : EntityConfig) (id : EntityId) (entityType : EntityType) :
    (declared.entity id entityType).lifecycleState = .active :=
  column_entity ManagedEntity.lifecycleState (fun _ _ => rfl) (fun _ _ => rfl)
    (fun _ _ _ => rfl) (fun _ _ => rfl) declared id entityType

theorem id_entity (declared : EntityConfig) (id : EntityId) (entityType : EntityType) :
    (declared.entity id entityType).id = id :=
  column_entity ManagedEntity.id (fun _ _ => rfl) (fun _ _ => rfl) (fun _ _ _ => rfl)
    (fun _ _ => rfl) declared id entityType

end EntityConfig

namespace StaticConfigProvider

-- identifiers are derived from natural keys, those of edges from the relation
variable (entityId : EntityKey → EntityId) (edgeId : Relation → Uuid)

/-- The entity a reference `type/name` names. -/
def resolve (provider : StaticConfigProvider) (reference : String) : Option EntityId := do
  let (entityType, name) ← Text.splitOnce ['/'] reference.toList
  let entityType ← EntityType.parse (String.ofList entityType)
  return entityId ⟨provider.environment, entityType, String.ofList name⟩

/-- Add a declared entity, unless its type does not parse. -/
def addDeclared (provider : StaticConfigProvider) (snapshot : InventorySnapshot)
    (declared : EntityConfig) : InventorySnapshot :=
  match EntityType.parse declared.entityType with
  | none => snapshot
  | some entityType =>
    let id := entityId ⟨provider.environment, entityType, declared.name⟩
    snapshot.addEntity (declared.entity id entityType) (declared.lifecycleState_entity id entityType)

/-- Add a declared dependency, unless an end does not parse. -/
def addEdge (provider : StaticConfigProvider) (snapshot : InventorySnapshot)
    (declared : DependencyConfig) : InventorySnapshot :=
  match provider.resolve entityId declared.source, provider.resolve entityId declared.target with
  | some source, some target =>
    let dependencyType := DependencyType.parse declared.dependencyType
    let edge := DependencyEdge.new (edgeId (source, target, dependencyType)) source target dependencyType
    snapshot.addDependency
      (edge.withCriticality ((Criticality.parse declared.criticality).getD .critical))
  | _, _ => snapshot

/-- Build the snapshot. -/
def snapshot (provider : StaticConfigProvider) : InventorySnapshot :=
  provider.dependencies.foldl (provider.addEdge entityId edgeId)
    (provider.entities.foldl (provider.addDeclared entityId) (.new .staticConfig))

end StaticConfigProvider

end Sentinel
