import Sentinel.Inventory.Edges

/-!
# The inventory tables

What the database keeps of the inventory: a row for every entity with its labels,
its capabilities and who claimed each of them, and the providers that ever reported
it; and the dependency rows.  Writes are upserts by identifier and nothing is
deleted, except for what a provider's reconciliation retracts.

The rows that name an entity are kept with its row, since every one of them
references it.

## Main definitions

* `EntityRow`, `Tables` — the rows.
* `Tables.loadInventory`, `Tables.saveInventory` — reading and writing the inventory.
* `Tables.reconcileDependencies`, `Tables.reconcileCapabilities` — what a provider no
  longer reports.

## Main results

* `Tables.getElem?_saveInventory`, `Tables.mem_dependencies_saveInventory` — what the
  rows are after a save.
* `EntityRow.getElem?_reconcile` — who owns a capability after a reconciliation.
-/

namespace Sentinel

/-- An entity's row, with its labels, capabilities and discovery sources. -/
structure EntityRow where
  /-- Logical cluster grouping. -/
  cluster : Option String
  /-- What kind of entity this is. -/
  entityType : EntityType
  /-- Natural key within environment and type. -/
  canonicalName : String
  /-- Human-facing name. -/
  displayName : String
  /-- Structured metadata. -/
  metadata : Json
  /-- Inventory lifecycle. -/
  lifecycleState : LifecycleState
  /-- Operator labels. -/
  labels : Labels
  /-- Each capability, with the source it is attributed to. -/
  capabilities : Std.ExtTreeMap Capability DiscoverySource
  /-- Every provider that reported the entity. -/
  sources : List DiscoverySource

/-- The rows of one environment's inventory. -/
structure Tables where
  /-- The entities, by identifier. -/
  entities : Std.ExtTreeMap EntityId EntityRow
  /-- The dependencies. -/
  dependencies : List DependencyEdge

/-- Capabilities that one source claims. -/
def CapabilitySet.claimedBy (capabilities : CapabilitySet) (source : DiscoverySource) :
    Std.ExtTreeMap Capability DiscoverySource :=
  capabilities.toList.foldl (fun claims capability => claims.insert capability source) ∅

theorem CapabilitySet.getElem?_claimedBy (capabilities : CapabilitySet) (source : DiscoverySource)
    (capability : Capability) : (capabilities.claimedBy source)[capability]? =
      if capability ∈ capabilities then some source else none := by
  have hfold : ∀ (l : List Capability) (claims : Std.ExtTreeMap Capability DiscoverySource),
      (l.foldl (fun claims c => claims.insert c source) claims)[capability]? =
        if capability ∈ l then some source else claims[capability]? := by
    intro l
    induction l with
    | nil => intro claims; rfl
    | cons c l ih =>
      intro claims
      rw [List.foldl_cons, ih, Std.ExtTreeMap.getElem?_insert_eq]
      by_cases hc : c = capability
      · simp [hc]
      · simp [hc, Ne.symm hc]
  rw [claimedBy, hfold]
  simp

namespace EntityRow

/-- The entity a row describes. -/
def toEntity (row : EntityRow) (id : EntityId) : ManagedEntity where
  id := id
  cluster := row.cluster
  entityType := row.entityType
  canonicalName := row.canonicalName
  displayName := row.displayName
  labels := row.labels
  metadata := row.metadata
  capabilities := Std.ExtTreeSet.ofList row.capabilities.keys
  lifecycleState := row.lifecycleState
  discoverySources := row.sources

/-- The row after an entity is saved.  Labels are replaced wholesale.  Capabilities and
discovery sources accumulate; a capability not stored yet is attributed to the
entity's first source. -/
def save (row : Option EntityRow) (entity : ManagedEntity) : EntityRow where
  cluster := entity.cluster
  entityType := (row.map EntityRow.entityType).getD entity.entityType
  canonicalName := (row.map EntityRow.canonicalName).getD entity.canonicalName
  displayName := entity.displayName
  metadata := entity.metadata
  lifecycleState := entity.lifecycleState
  labels := entity.labels
  capabilities := entity.capabilities.claimedBy (entity.discoverySources.head?.getD .manual) ∪
    (row.map EntityRow.capabilities).getD ∅
  sources := ManagedEntity.addSources ((row.map EntityRow.sources).getD []) entity.discoverySources

/-- Bring one provider's capability claims up to date: the rows attributed to it that
it no longer claims go, and what it claims is attributed to it. -/
def reconcile (row : EntityRow) (source : DiscoverySource) (capabilities : CapabilitySet) :
    EntityRow :=
  { row with
    capabilities := row.capabilities.filter
      (fun capability owner => owner ≠ source ∨ capability ∈ capabilities) ∪
        capabilities.claimedBy source }

/-- **Who owns a capability after a reconciliation.** -/
theorem getElem?_reconcile (row : EntityRow) (source : DiscoverySource)
    (capabilities : CapabilitySet) (capability : Capability) :
    (row.reconcile source capabilities).capabilities[capability]? =
      if capability ∈ capabilities then some source
      else row.capabilities[capability]?.filter fun owner => owner ≠ source := by
  rw [reconcile, Std.ExtTreeMap.getElem?_union, CapabilitySet.getElem?_claimedBy,
    Std.ExtTreeMap.getElem?_filter']
  split
  · rfl
  · next hnot => simp [hnot]

theorem mem_capabilities_toEntity {row : EntityRow} {id : EntityId} {capability : Capability} :
    capability ∈ (row.toEntity id).capabilities ↔ row.capabilities[capability]?.isSome := by
  rw [toEntity, Std.ExtTreeSet.mem_ofList, List.contains_iff_mem, Std.ExtTreeMap.mem_keys,
    Std.ExtTreeMap.mem_iff_isSome_getElem?]

end EntityRow

namespace Tables

/-- Load every entity and dependency edge. -/
def loadInventory (tables : Tables) : Inventory where
  entities := tables.entities.map fun id row => row.toEntity id
  graph := DependencyGraph.fromEdges tables.dependencies
  pending := []
  keyed := by
    intro id entity h
    rw [Std.ExtTreeMap.getElem?_map, Option.map_eq_some_iff] at h
    obtain ⟨row, -, rfl⟩ := h
    rfl

/-- Write one entity. -/
def saveEntity (tables : Tables) (entity : ManagedEntity) : Tables :=
  { tables with
    entities := tables.entities.insert entity.id (EntityRow.save tables.entities[entity.id]? entity) }

/-- Write one dependency: a row with its identifier keeps the relation it states. -/
def saveDependency (rows : List DependencyEdge) (edge : DependencyEdge) : List DependencyEdge :=
  match rows.findIdx? (fun row => row.id = edge.id) with
  | some place => rows.modify place fun row =>
    { row with
      criticality := edge.criticality
      metadata := edge.metadata
      discoverySource := edge.discoverySource }
  | none => rows ++ [edge]

/-- Write a whole inventory. -/
def saveInventory (tables : Tables) (inventory : Inventory) : Tables :=
  let tables := inventory.all.foldl saveEntity tables
  { tables with dependencies := inventory.graph.edges.foldl saveDependency tables.dependencies }

/-- Delete the dependency rows this source no longer reports. -/
def reconcileDependencies (tables : Tables) (source : DiscoverySource) (keep : List Uuid) : Tables :=
  { tables with
    dependencies := tables.dependencies.filter fun row => row.discoverySource ≠ source ∨ row.id ∈ keep }

/-- Bring one provider's capability claims for an entity up to date. -/
def reconcileCapabilities (tables : Tables) (source : DiscoverySource) (entity : ManagedEntity) :
    Tables :=
  { tables with
    entities := tables.entities.modify entity.id fun row => row.reconcile source entity.capabilities }

/-- Let a snapshot retract capability claims it no longer makes. -/
def reconcileSnapshotCapabilities (tables : Tables) (snapshot : InventorySnapshot) : Tables :=
  snapshot.entities.foldl (fun tables entity => tables.reconcileCapabilities snapshot.source entity)
    tables

variable {names : Uuid → Relation} {tables : Tables} {rows edges : List DependencyEdge}
  {edge row : DependencyEdge}

/-! ### What the rows are after a save -/

/-- The entities with an identifier: the one kept under it. -/
theorem filter_all (inventory : Inventory) (id : EntityId) :
    (inventory.all.filter fun entity => entity.id = id) = (inventory.get id).toList := by
  have hkeys : ∀ entry ∈ inventory.entities.toList,
      ((fun entity : ManagedEntity => decide (entity.id = id)) ∘ Prod.snd) entry =
        decide (entry.1 = id) := by
    intro entry hentry
    rw [Function.comp_apply,
      inventory.keyed _ _ (Std.ExtTreeMap.mem_toList_iff_getElem?_eq_some.mp hentry)]
  rw [Inventory.all, Std.ExtTreeMap.vals, List.filter_map, List.filter_congr hkeys,
    Std.ExtTreeMap.filter_toList, Inventory.get]
  cases inventory.entities[id]? <;> rfl

/-- **The row of an entity after a save.** -/
theorem getElem?_saveInventory (tables : Tables) (inventory : Inventory) (id : EntityId) :
    (tables.saveInventory inventory).entities[id]? =
      ((inventory.get id).map (EntityRow.save tables.entities[id]?)).or tables.entities[id]? := by
  have hlook := List.foldl_look (fun (tables : Tables) id => tables.entities[id]?) saveEntity
    ManagedEntity.id (fun row entity => some (EntityRow.save row entity)) ?_ inventory.all id tables
  · change (inventory.all.foldl saveEntity tables).entities[id]? = _
    rw [hlook, filter_all]
    cases inventory.get id <;> rfl
  · intro tables entity id
    change (tables.entities.insert entity.id _)[id]? = _
    rw [Std.ExtTreeMap.getElem?_insert_eq]
    split
    · next hid => rw [← hid]
    · rfl

/-- With identifiers that name relations, a row is replaced by the edge saved. -/
theorem saveDependency_eq {graph : DependencyGraph} (hgraph : ∀ row ∈ graph.edges, row.Names names)
    (hedge : edge.Names names) : saveDependency graph.edges edge = (graph.insert edge).edges := by
  rw [saveDependency, DependencyGraph.insert]
  cases hplace : graph.edges.findIdx? (fun row => row.id = edge.id) with
  | none => rfl
  | some place =>
    obtain ⟨hlt, hid, -⟩ := List.findIdx?_eq_some_iff_getElem.mp hplace
    have hid := of_decide_eq_true hid
    have hrel := (hgraph _ (List.getElem_mem hlt)).relation_eq hedge hid
    obtain ⟨hsource, htarget, htype⟩ :
        graph.edges[place].source = edge.source ∧ graph.edges[place].target = edge.target ∧
          graph.edges[place].dependencyType = edge.dependencyType := by
      simpa only [DependencyEdge.relation, Prod.mk.injEq] using hrel
    change graph.edges.modify place _ = graph.edges.set place edge
    rw [List.modify_eq_set_getElem?, List.getElem?_eq_getElem hlt]
    change graph.edges.set place _ = _
    rw [hid, hsource, htarget, htype]

theorem saveDependencies_eq (edges : List DependencyEdge) :
    ∀ {graph : DependencyGraph}, (∀ row ∈ graph.edges, row.Names names) →
      (∀ edge ∈ edges, edge.Names names) →
      edges.foldl saveDependency graph.edges = (edges.foldl DependencyGraph.insert graph).edges := by
  induction edges with
  | nil => intro graph _ _; rfl
  | cons edge edges ih =>
    intro graph hgraph hedges
    rw [List.forall_mem_cons] at hedges
    rw [List.foldl_cons, saveDependency_eq hgraph hedges.1, List.foldl_cons,
      ih (DependencyGraph.forall_mem_insert hgraph hedges.1) hedges.2]

theorem dependencies_foldl_saveEntity (entities : List ManagedEntity) :
    ∀ tables : Tables, (entities.foldl saveEntity tables).dependencies = tables.dependencies := by
  induction entities with
  | nil => intro tables; rfl
  | cons entity entities ih => intro tables; exact ih _

theorem dependencies_saveInventory {inventory : Inventory}
    (hrows : ∀ row ∈ tables.dependencies, row.Names names)
    (hedges : ∀ edge ∈ inventory.graph.edges, edge.Names names) :
    (tables.saveInventory inventory).dependencies =
      (inventory.graph.edges.foldl DependencyGraph.insert ⟨tables.dependencies, ∅, ∅⟩).edges := by
  rw [← saveDependencies_eq _ hrows hedges, saveInventory, dependencies_foldl_saveEntity]

/-- **The dependency rows after a save**: the edges of the graph, and the rows of
other relations. -/
theorem mem_dependencies_saveInventory {inventory : Inventory}
    (hrows : ∀ row ∈ tables.dependencies, row.Names names)
    (hnodup : (tables.dependencies.map DependencyEdge.id).Nodup)
    (hedges : ∀ edge ∈ inventory.graph.edges, edge.Names names)
    (hids : inventory.graph.ids.Nodup) :
    row ∈ (tables.saveInventory inventory).dependencies ↔
      row ∈ inventory.graph.edges ∨ row ∈ tables.dependencies ∧ row.id ∉ inventory.graph.ids := by
  rw [dependencies_saveInventory hrows hedges]
  exact DependencyGraph.mem_edges_foldl_insert _ _ hnodup hids

theorem nodup_dependencies_saveInventory {inventory : Inventory}
    (hrows : ∀ row ∈ tables.dependencies, row.Names names)
    (hnodup : (tables.dependencies.map DependencyEdge.id).Nodup)
    (hedges : ∀ edge ∈ inventory.graph.edges, edge.Names names) :
    ((tables.saveInventory inventory).dependencies.map DependencyEdge.id).Nodup := by
  rw [dependencies_saveInventory hrows hedges]
  exact DependencyGraph.nodup_ids_foldl_insert _ hnodup

/-! ### Loading -/

theorem get_loadInventory (tables : Tables) (id : EntityId) :
    tables.loadInventory.get id = tables.entities[id]?.map fun row => row.toEntity id :=
  Std.ExtTreeMap.getElem?_map

theorem mem_edges_loadInventory (hnodup : (tables.dependencies.map DependencyEdge.id).Nodup) :
    edge ∈ tables.loadInventory.graph.edges ↔ edge ∈ tables.dependencies := by
  change edge ∈ (tables.dependencies.foldl DependencyGraph.insert .empty).edges ↔ _
  have hempty : DependencyGraph.empty.ids.Nodup := List.nodup_nil
  rw [DependencyGraph.mem_edges_foldl_insert _ _ hempty hnodup]
  simp [DependencyGraph.empty]

/-! ### Reconciling -/

/-- The capability claims of a snapshot, as they reach one row. -/
def reconciled (snapshot : InventorySnapshot) (id : EntityId) (row : EntityRow) : EntityRow :=
  (snapshot.reportsOf id).foldl (fun row entity => row.reconcile snapshot.source entity.capabilities)
    row

theorem getElem?_reconcileCapabilities (tables : Tables) (source : DiscoverySource)
    (entity : ManagedEntity) (id : EntityId) :
    (tables.reconcileCapabilities source entity).entities[id]? =
      if entity.id = id then tables.entities[id]?.map fun row => row.reconcile source entity.capabilities
      else tables.entities[id]? := by
  change (tables.entities.modify entity.id _)[id]? = _
  rw [Std.ExtTreeMap.getElem?_modify]
  simp only [Std.LawfulEqOrd.compare_eq_iff_eq]
  split
  · next hid => rw [← hid]
  · rfl

theorem getElem?_reconcileSnapshotCapabilities (tables : Tables) (snapshot : InventorySnapshot)
    (id : EntityId) : (tables.reconcileSnapshotCapabilities snapshot).entities[id]? =
      tables.entities[id]?.map (reconciled snapshot id) := by
  have hlook := List.foldl_look (fun (tables : Tables) id => tables.entities[id]?)
    (fun tables entity => tables.reconcileCapabilities snapshot.source entity) ManagedEntity.id
    (fun row entity => row.map fun row => row.reconcile snapshot.source entity.capabilities)
    (fun tables entity id => getElem?_reconcileCapabilities tables snapshot.source entity id)
    snapshot.entities id tables
  rw [List.foldl_optionMap] at hlook
  exact hlook

end Tables

end Sentinel
