import Sentinel.Inventory

/-!
# Merging snapshots

Several providers report entities and dependencies; the inventory is the union of
what they said.  An edge is added once both its ends are known and held back until
then.  What a provider no longer reports is marked stale, or, for the edges of the
storage topology, dropped.

## Main definitions

* `InventorySnapshot` — one provider's view of the world at one moment.
* `mergeMetadata`, `ManagedEntity.mergeInto` — one report folded into an entity.
* `Inventory.merge`, `Inventory.offerEdge`, `Inventory.resolvePending` — one snapshot
  folded into the inventory.
* `Inventory.markAbsentAsStale`, `Inventory.retractAbsentDependencies` — what a
  provider no longer reports.

## Main results

* `Inventory.get_merge` — an entity after a merge is what its own reports make of it.
-/

namespace Sentinel

/-! ### Snapshots -/

/-- One provider's view of the world at one moment.  An entity is reported active and
carries the provider as a source; an edge carries it as its source. -/
structure InventorySnapshot where
  /-- Which provider produced it. -/
  source : DiscoverySource
  /-- Entities this provider saw. -/
  entities : List ManagedEntity
  /-- Dependency edges this provider saw. -/
  dependencies : List DependencyEdge
  /-- Every entity is reported active, by this provider. -/
  reported : ∀ entity ∈ entities,
    source ∈ entity.discoverySources ∧ entity.lifecycleState = .active
  /-- Every edge is stamped with the source. -/
  stamped : ∀ edge ∈ dependencies, edge.discoverySource = source

namespace InventorySnapshot

/-- An empty snapshot attributed to a source. -/
def new (source : DiscoverySource) : InventorySnapshot :=
  ⟨source, [], [], by simp, by simp⟩

/-- Add an entity, stamping it with this snapshot's source. -/
def addEntity (snapshot : InventorySnapshot) (entity : ManagedEntity)
    (hactive : entity.lifecycleState = .active) : InventorySnapshot :=
  { snapshot with
    entities := snapshot.entities ++ [entity.withDiscoverySource snapshot.source]
    reported := by
      intro e he
      rcases List.mem_append.mp he with he | he
      · exact snapshot.reported e he
      · rw [List.mem_singleton.mp he, ManagedEntity.withDiscoverySource]
        split
        · next hsource => exact ⟨hsource, hactive⟩
        · exact ⟨List.mem_append_right _ List.mem_cons_self, hactive⟩ }

/-- Add a dependency edge, stamping it with this snapshot's source. -/
def addDependency (snapshot : InventorySnapshot) (edge : DependencyEdge) : InventorySnapshot :=
  { snapshot with
    dependencies := snapshot.dependencies ++ [edge.withDiscoverySource snapshot.source]
    stamped := by
      intro e he
      rcases List.mem_append.mp he with he | he
      · exact snapshot.stamped e he
      · rw [List.mem_singleton.mp he]
        rfl }

/-- The reports of one entity in a snapshot. -/
def reportsOf (snapshot : InventorySnapshot) (id : EntityId) : List ManagedEntity :=
  snapshot.entities.filter fun entity => entity.id = id

/-- The identifiers of the edges of a snapshot. -/
def edgeIds (snapshot : InventorySnapshot) : List Uuid := snapshot.dependencies.map DependencyEdge.id

end InventorySnapshot

/-! ### Folding one report into an entity -/

namespace Json

/-- Set a field of an object. -/
def setField (fields : List (String × Json)) (key : String) (value : Json) : List (String × Json) :=
  match fields with
  | [] => [(key, value)]
  | (k, v) :: rest => if k = key then (key, value) :: rest else (k, v) :: setField rest key value

/-- Shallow-merge objects, keeping keys the incoming side does not mention; anything
else is replaced, unless the incoming side is null.  The fields of an object have
distinct names, so their order is of no consequence. -/
def mergeMetadata : Json → Json → Json
  | obj existing, obj incoming =>
    obj (incoming.foldr (fun field fields => setField fields field.1 field.2) existing)
  | existing, null => existing
  | _, incoming => incoming

end Json

namespace ManagedEntity

/-- Add the sources not listed yet. -/
def addSources (sources incoming : List DiscoverySource) : List DiscoverySource :=
  incoming.foldl (fun sources source => if source ∈ sources then sources else sources ++ [source])
    sources

/-- Fold a report into an entity: union rather than replace. -/
def mergeInto (existing incoming : ManagedEntity) : ManagedEntity where
  id := existing.id
  entityType := existing.entityType
  canonicalName := existing.canonicalName
  capabilities := existing.capabilities ∪ incoming.capabilities
  labels := existing.labels ∪ incoming.labels
  discoverySources := addSources existing.discoverySources incoming.discoverySources
  cluster := incoming.cluster.or existing.cluster
  displayName :=
    if incoming.displayName ≠ incoming.canonicalName then incoming.displayName
    else existing.displayName
  metadata := existing.metadata.mergeMetadata incoming.metadata
  lifecycleState := .active

/-- The first report of an entity is taken as it is, a later one folded into it. -/
def absorb (existing : Option ManagedEntity) (incoming : ManagedEntity) : Option ManagedEntity :=
  match existing with
  | some existing => some (existing.mergeInto incoming)
  | none => some incoming

theorem mem_addSources {source : DiscoverySource} (incoming : List DiscoverySource) :
    ∀ sources, source ∈ addSources sources incoming ↔ source ∈ sources ∨ source ∈ incoming := by
  induction incoming with
  | nil => intro sources; simp [addSources]
  | cons s incoming ih =>
    intro sources
    rw [addSources, List.foldl_cons, ← addSources, ih, List.mem_cons]
    split
    · next hs =>
      constructor
      · rintro (h | h)
        · exact Or.inl h
        · exact Or.inr (Or.inr h)
      · rintro (h | rfl | h)
        · exact Or.inl h
        · exact Or.inl hs
        · exact Or.inr h
    · rw [List.mem_append, List.mem_singleton, or_assoc]

end ManagedEntity

/-! ### Folding a snapshot into the inventory -/

namespace Inventory

/-- Whether both ends of an edge are known. -/
def knows (inventory : Inventory) (edge : DependencyEdge) : Bool :=
  edge.source ∈ inventory.entities ∧ edge.target ∈ inventory.entities

/-- Fold one entity of a snapshot in. -/
def mergeEntity (inventory : Inventory) (incoming : ManagedEntity) : Inventory :=
  match inventory.get incoming.id with
  | some existing => inventory.insertEntity (existing.mergeInto incoming)
  | none => inventory.insertEntity incoming

/-- Add an edge if both ends are known, else hold it back. -/
def offerEdge (inventory : Inventory) (edge : DependencyEdge) : Inventory :=
  if inventory.knows edge then inventory.insertDependency edge
  else if inventory.pending.any (fun e => e.id = edge.id) then inventory
  else { inventory with pending := inventory.pending ++ [edge] }

/-- The edges held back whose ends have since appeared. -/
def ready (inventory : Inventory) : List DependencyEdge := inventory.pending.filter inventory.knows

/-- One round over the edges held back. -/
def resolveRound (inventory : Inventory) : Inventory :=
  let ready := inventory.ready
  ready.foldl offerEdge
    { inventory with pending := inventory.pending.filter fun e => !ready.any fun r => r.id = e.id }

/-- Retry the edges held back until none of them is ready.  Every round takes one of
them away, so as many rounds as there are edges held back are enough. -/
def resolvePending (inventory : Inventory) : Inventory :=
  let rec rounds : ℕ → Inventory → Inventory
    | 0, inventory => inventory
    | n + 1, inventory =>
      if inventory.ready = [] then inventory else rounds n inventory.resolveRound
  rounds inventory.pending.length inventory

/-- Fold a provider's snapshot in. -/
def merge (inventory : Inventory) (snapshot : InventorySnapshot) : Inventory :=
  (snapshot.dependencies.foldl offerEdge (snapshot.entities.foldl mergeEntity inventory)).resolvePending

/-- Mark an entity stale that only this source reported, and no longer does. -/
def markStale (snapshot : InventorySnapshot) (entity : ManagedEntity) : ManagedEntity :=
  let reportedByThisSource := snapshot.source ∈ entity.discoverySources
  let reportedByAnother := entity.discoverySources.any fun source => source ≠ snapshot.source
  if reportedByThisSource ∧ ¬ reportedByAnother ∧ entity.id ∉ snapshot.entities.map ManagedEntity.id ∧
      entity.lifecycleState = .active then
    { entity with lifecycleState := .stale }
  else entity

theorem markStale_id (snapshot : InventorySnapshot) (entity : ManagedEntity) :
    (markStale snapshot entity).id = entity.id := by
  rw [markStale]
  split <;> rfl

/-- Mark every entity this source alone reported, but that is absent from its
snapshot, as stale. -/
def markAbsentAsStale (inventory : Inventory) (snapshot : InventorySnapshot) : Inventory :=
  { inventory with
    entities := inventory.entities.map fun _ entity => markStale snapshot entity
    keyed := by
      intro id entity h
      rw [Std.ExtTreeMap.getElem?_map, Option.map_eq_some_iff] at h
      obtain ⟨e, he, rfl⟩ := h
      rw [markStale_id]
      exact inventory.keyed id e he }

/-- Drop the dependencies this source used to report and no longer does. -/
def retractAbsentDependencies (inventory : Inventory) (snapshot : InventorySnapshot) : Inventory :=
  { inventory with graph := (inventory.graph.retainFromSource snapshot.source snapshot.edgeIds).1 }

/-! ### One entity of a merge -/

variable {inventory : Inventory}

theorem get_insertEntity {entity : ManagedEntity} {id : EntityId} :
    (inventory.insertEntity entity).get id = if entity.id = id then some entity else inventory.get id :=
  Std.ExtTreeMap.getElem?_insert_eq

theorem mem_all {entity : ManagedEntity} : entity ∈ inventory.all ↔ inventory.get entity.id = some entity := by
  rw [all, Std.ExtTreeMap.mem_vals]
  constructor
  · rintro ⟨id, hid⟩
    rw [get, inventory.keyed id entity hid]
    exact hid
  · intro hget
    exact ⟨entity.id, hget⟩

theorem nodup_ids (inventory : Inventory) : (inventory.all.map ManagedEntity.id).Nodup := by
  have hids : inventory.all.map ManagedEntity.id = inventory.entities.toList.map Prod.fst := by
    rw [all, Std.ExtTreeMap.vals, List.map_map]
    refine List.map_congr_left fun entry hentry => ?_
    exact inventory.keyed _ _ (Std.ExtTreeMap.mem_toList_iff_getElem?_eq_some.mp hentry)
  rw [hids]
  exact Std.ExtTreeMap.nodup_keys_toList _

theorem get_mergeEntity (inventory : Inventory) (incoming : ManagedEntity) (id : EntityId) :
    (inventory.mergeEntity incoming).get id =
      if incoming.id = id then ManagedEntity.absorb (inventory.get id) incoming else inventory.get id := by
  rw [mergeEntity]
  cases hget : inventory.get incoming.id with
  | none =>
    rw [get_insertEntity]
    split
    · next hid => rw [← hid, hget, ManagedEntity.absorb]
    · rfl
  | some existing =>
    have hid : (existing.mergeInto incoming).id = incoming.id :=
      inventory.keyed incoming.id existing hget
    simp only [get_insertEntity, hid]
    split
    · next hid => rw [← hid, hget, ManagedEntity.absorb]
    · rfl

/-- Edges do not touch the entities. -/
theorem entities_offerEdge (inventory : Inventory) (edge : DependencyEdge) :
    (inventory.offerEdge edge).entities = inventory.entities := by
  rw [offerEdge]
  split
  · rfl
  · split <;> rfl

theorem entities_offerEdges (edges : List DependencyEdge) :
    ∀ inventory : Inventory, (edges.foldl offerEdge inventory).entities = inventory.entities := by
  induction edges with
  | nil => intro inventory; rfl
  | cons edge edges ih =>
    intro inventory
    rw [List.foldl_cons, ih, entities_offerEdge]

theorem entities_resolvePending (inventory : Inventory) :
    inventory.resolvePending.entities = inventory.entities := by
  have hrounds : ∀ n (inventory : Inventory),
      (resolvePending.rounds n inventory).entities = inventory.entities := by
    intro n
    induction n with
    | zero => intro inventory; rfl
    | succ n ih =>
      intro inventory
      rw [resolvePending.rounds]
      split
      · rfl
      · rw [ih, resolveRound, entities_offerEdges]
  exact hrounds _ inventory

/-- **One entity of a merge**: its reports are folded into it, one after the other. -/
theorem get_merge (inventory : Inventory) (snapshot : InventorySnapshot) (id : EntityId) :
    (inventory.merge snapshot).get id =
      (snapshot.reportsOf id).foldl ManagedEntity.absorb (inventory.get id) := by
  have hentities : (inventory.merge snapshot).entities =
      (snapshot.entities.foldl mergeEntity inventory).entities := by
    rw [merge, entities_resolvePending, entities_offerEdges]
  rw [get, hentities]
  exact List.foldl_look get mergeEntity ManagedEntity.id ManagedEntity.absorb get_mergeEntity
    snapshot.entities id inventory

theorem get_markAbsentAsStale (inventory : Inventory) (snapshot : InventorySnapshot)
    (id : EntityId) : (inventory.markAbsentAsStale snapshot).get id =
      (inventory.get id).map (markStale snapshot) :=
  Std.ExtTreeMap.getElem?_map

/-- The entities after a merge: those there were, and those reported. -/
theorem mem_entities_merge {snapshot : InventorySnapshot} {id : EntityId} :
    id ∈ (inventory.merge snapshot).entities ↔
      id ∈ inventory.entities ∨ id ∈ snapshot.entities.map ManagedEntity.id := by
  have hfold : ∀ (reports : List ManagedEntity) (entity : Option ManagedEntity),
      (reports.foldl ManagedEntity.absorb entity).isSome ↔ entity.isSome ∨ reports ≠ [] := by
    intro reports
    induction reports with
    | nil => intro entity; simp
    | cons report reports ih =>
      intro entity
      rw [List.foldl_cons, ih]
      cases entity <;> simp [ManagedEntity.absorb]
  have hget := get_merge inventory snapshot id
  rw [get, get] at hget
  rw [Std.ExtTreeMap.mem_iff_isSome_getElem?, hget, hfold, Std.ExtTreeMap.mem_iff_isSome_getElem?]
  refine or_congr_right ?_
  rw [InventorySnapshot.reportsOf, ne_eq, List.filter_eq_nil_iff, List.mem_map]
  push Not
  simp only [decide_eq_true_eq]

end Inventory

end Sentinel
