import Sentinel.Persistence.Entities
import Sentinel.Lib.Machine

/-!
# Discovery

A discovery cycle asks every provider for a snapshot, folds what they answered into
the stored inventory, derives the storage topology and writes the result back.  An
agent's registration folds one snapshot in.  A provider that fails is passed over.

The storage topology is derived from the mounts the agents reported; here it is one
more snapshot of the cycle, whatever it contains.

## Main definitions

* `Cycle` — what the providers answered in one cycle.
* `Tables.discoverOnce`, `Tables.ingestSnapshot` — the two ways the inventory changes.
* `discovery` — the machine of all cycles and registrations.

## Main results

* `Cycle.get_merged`, `Tables.getElem?_discoverOnce` — one entity over a cycle.
* `Cycle.held_merged`, `Tables.mem_dependencies_discoverOnce` — the edges over a cycle.
* `Tables.Sound.run` — the dependency rows stay consistent.
-/

namespace Sentinel

/-! ### The cycle -/

/-- What one discovery cycle was told. -/
structure Cycle where
  /-- What each provider answered, in the order they ran; a provider that failed
  answered nothing. -/
  answers : List (Option InventorySnapshot)
  /-- The storage topology derived from the reported mounts, if that is enabled. -/
  topology : Option InventorySnapshot
  /-- Every provider has a source of its own. -/
  distinct : ((answers.filterMap id ++ topology.toList).map InventorySnapshot.source).Nodup

namespace Cycle

/-- The snapshots of the providers that succeeded. -/
def providers (cycle : Cycle) : List InventorySnapshot := cycle.answers.filterMap id

/-- All snapshots of the cycle, in the order they are folded in. -/
def snapshots (cycle : Cycle) : List InventorySnapshot := cycle.providers ++ cycle.topology.toList

/-- Fold in what one provider answered: its report, and what it no longer reports. -/
def report (inventory : Inventory) (snapshot : InventorySnapshot) : Inventory :=
  (inventory.merge snapshot).markAbsentAsStale snapshot

/-- A provider that failed leaves the picture as it is. -/
def fold (inventory : Inventory) : Option InventorySnapshot → Inventory
  | some snapshot => report inventory snapshot
  | none => inventory

/-- The inventory once everything the cycle was told is folded in. -/
def merged (cycle : Cycle) (tables : Tables) : Inventory :=
  fold (cycle.answers.foldl fold tables.loadInventory) cycle.topology

/-- The inventory the cycle saves: the topology's own edges it no longer reports are
dropped. -/
def inventory (cycle : Cycle) (tables : Tables) : Inventory :=
  match cycle.topology with
  | some topology => (cycle.merged tables).retractAbsentDependencies topology
  | none => cycle.merged tables

end Cycle

namespace Tables

/-- Delete the rows the topology no longer reports. -/
def retract (tables : Tables) (cycle : Cycle) : Tables :=
  match cycle.topology with
  | some topology => tables.reconcileDependencies topology.source topology.edgeIds
  | none => tables

/-- Run one discovery cycle and persist what it produced. -/
def discoverOnce (tables : Tables) (cycle : Cycle) : Tables :=
  cycle.snapshots.foldl reconcileSnapshotCapabilities
    ((tables.retract cycle).saveInventory (cycle.inventory tables))

/-- Merge a snapshot directly, as an agent's registration does. -/
def ingestSnapshot (tables : Tables) (snapshot : InventorySnapshot) : Tables :=
  (tables.saveInventory (tables.loadInventory.merge snapshot)).reconcileSnapshotCapabilities snapshot

end Tables

/-- A change of the stored inventory. -/
inductive Update
  /-- A discovery cycle. -/
  | discover (cycle : Cycle)
  /-- A snapshot merged directly. -/
  | ingest (snapshot : InventorySnapshot)

namespace Update

/-- The snapshots an update folds in, in order. -/
def snapshots : Update → List InventorySnapshot
  | discover cycle => cycle.snapshots
  | ingest snapshot => [snapshot]

end Update

/-- The tables after an update. -/
def Tables.update (tables : Tables) : Update → Tables
  | .discover cycle => tables.discoverOnce cycle
  | .ingest snapshot => tables.ingestSnapshot snapshot

/-- The snapshots folded in so far, in order. -/
def reports (log : List Update) : List InventorySnapshot := log.flatMap Update.snapshots

theorem reports_concat (log : List Update) (update : Update) :
    reports (log ++ [update]) = reports log ++ update.snapshots := by
  rw [reports, List.flatMap_append, List.flatMap_singleton, reports]

/-- All cycles and registrations from an empty database.  The topology always comes
from one source, which is no provider's, and the edges in every snapshot are named by
their identifiers. -/
def discovery (topologySource : DiscoverySource) (names : Uuid → Relation) : Machine Tables Update where
  Init := fun tables => tables = ⟨∅, []⟩
  step := Tables.update
  Allowed := fun _ update =>
    (∀ snapshot ∈ update.snapshots, ∀ edge ∈ snapshot.dependencies, edge.Names names) ∧
    match update with
    | .discover cycle => (∀ topology ∈ cycle.topology, topology.source = topologySource) ∧
      ∀ snapshot ∈ cycle.providers, snapshot.source ≠ topologySource
    | .ingest _ => True

/-! ### One entity over a cycle -/

/-- What a snapshot makes of an entity. -/
def InventorySnapshot.seen (id : EntityId) (entity : Option ManagedEntity)
    (snapshot : InventorySnapshot) : Option ManagedEntity :=
  ((snapshot.reportsOf id).foldl ManagedEntity.absorb entity).map (Inventory.markStale snapshot)

namespace Cycle

variable {cycle : Cycle} {tables : Tables}

theorem fold_answers (answers : List (Option InventorySnapshot)) :
    ∀ inventory : Inventory, answers.foldl fold inventory =
      (answers.filterMap id).foldl report inventory := by
  induction answers with
  | nil => intro inventory; rfl
  | cons answer answers ih =>
    intro inventory
    cases answer with
    | none => exact ih inventory
    | some snapshot => exact ih (report inventory snapshot)

theorem merged_eq (cycle : Cycle) (tables : Tables) :
    cycle.merged tables = cycle.snapshots.foldl report tables.loadInventory := by
  rw [merged, snapshots, List.foldl_append, fold_answers]
  cases cycle.topology <;> rfl

theorem get_report (inventory : Inventory) (snapshot : InventorySnapshot) (id : EntityId) :
    (report inventory snapshot).get id = snapshot.seen id (inventory.get id) := by
  rw [report, Inventory.get_markAbsentAsStale, Inventory.get_merge, InventorySnapshot.seen]

theorem get_foldl_report (snapshots : List InventorySnapshot) (id : EntityId) :
    ∀ inventory : Inventory, (snapshots.foldl report inventory).get id =
      snapshots.foldl (fun entity snapshot => snapshot.seen id entity) (inventory.get id) := by
  induction snapshots with
  | nil => intro inventory; rfl
  | cons snapshot snapshots ih =>
    intro inventory
    rw [List.foldl_cons, ih, get_report]
    rfl

/-- **One entity over a cycle**: what each snapshot in turn makes of it. -/
theorem get_merged (cycle : Cycle) (tables : Tables) (id : EntityId) :
    (cycle.merged tables).get id = cycle.snapshots.foldl (fun entity snapshot => snapshot.seen id entity)
      (tables.entities[id]?.map fun row => row.toEntity id) := by
  rw [merged_eq, get_foldl_report, Tables.get_loadInventory]

theorem get_inventory (cycle : Cycle) (tables : Tables) (id : EntityId) :
    (cycle.inventory tables).get id = (cycle.merged tables).get id := by
  rw [inventory]
  split <;> rfl

end Cycle

namespace Tables

variable {cycle : Cycle} {tables : Tables}

theorem entities_retract : (tables.retract cycle).entities = tables.entities := by
  rw [retract]
  split <;> rfl

theorem getElem?_foldl_reconcile (snapshots : List InventorySnapshot) (id : EntityId) :
    ∀ tables : Tables, (snapshots.foldl reconcileSnapshotCapabilities tables).entities[id]? =
      tables.entities[id]?.map fun row => snapshots.foldl (fun row s => reconciled s id row) row := by
  induction snapshots with
  | nil => intro tables; simp
  | cons snapshot snapshots ih =>
    intro tables
    rw [List.foldl_cons, ih, getElem?_reconcileSnapshotCapabilities, Option.map_map]
    rfl

/-- The row a set of snapshots leaves for an entity. -/
def saved (row : Option EntityRow) (entity : Option ManagedEntity) (snapshots : List InventorySnapshot)
    (id : EntityId) : Option EntityRow :=
  ((entity.map (EntityRow.save row)).or row).map fun row =>
    snapshots.foldl (fun row snapshot => reconciled snapshot id row) row

/-- **One row over a cycle.** -/
theorem getElem?_discoverOnce (tables : Tables) (cycle : Cycle) (id : EntityId) :
    (tables.discoverOnce cycle).entities[id]? =
      saved tables.entities[id]? ((cycle.merged tables).get id) cycle.snapshots id := by
  rw [discoverOnce, getElem?_foldl_reconcile, getElem?_saveInventory, entities_retract,
    Cycle.get_inventory, saved]

theorem getElem?_ingestSnapshot (tables : Tables) (snapshot : InventorySnapshot) (id : EntityId) :
    (tables.ingestSnapshot snapshot).entities[id]? =
      saved tables.entities[id]? ((snapshot.reportsOf id).foldl ManagedEntity.absorb
        (tables.entities[id]?.map fun row => row.toEntity id)) [snapshot] id := by
  rw [ingestSnapshot, getElem?_reconcileSnapshotCapabilities, getElem?_saveInventory,
    Inventory.get_merge, get_loadInventory, saved]
  rfl

end Tables

/-! ### The edges over a cycle -/

namespace Cycle

variable {cycle : Cycle} {tables : Tables} {names : Uuid → Relation} {edge : DependencyEdge}
  {before offered : List DependencyEdge} {inventory : Inventory}

/-- The edges of snapshots, in order. -/
def offers (snapshots : List InventorySnapshot) : List DependencyEdge :=
  snapshots.flatMap InventorySnapshot.dependencies

/-- Whether both ends of an edge are stored or reported in the cycle. -/
def Knows (cycle : Cycle) (tables : Tables) (edge : DependencyEdge) : Prop :=
  ∀ id ∈ [edge.source, edge.target],
    id ∈ tables.entities ∨ ∃ snapshot ∈ cycle.snapshots, id ∈ snapshot.entities.map ManagedEntity.id

theorem held_foldl_report (hbefore : ∀ edge ∈ before, edge.Names names)
    (snapshots : List InventorySnapshot) :
    ∀ {offered : List DependencyEdge} {inventory : Inventory}, Inventory.Held before offered inventory →
      (∀ edge ∈ offered ++ offers snapshots, edge.Names names) →
      Inventory.Held before (offered ++ offers snapshots) (snapshots.foldl report inventory) := by
  induction snapshots with
  | nil =>
    intro offered inventory h _
    rwa [offers, List.flatMap_nil, List.append_nil]
  | cons snapshot snapshots ih =>
    intro offered inventory h hnames
    rw [offers, List.flatMap_cons, ← offers, ← List.append_assoc] at hnames ⊢
    refine ih ?_ hnames
    refine (h.merge snapshot hbefore fun edge hedge => hnames edge ?_).markAbsentAsStale snapshot
    exact List.mem_append_left _ hedge

theorem pending_foldl_report (snapshots : List InventorySnapshot) :
    ∀ {inventory : Inventory}, (∀ edge ∈ inventory.pending, inventory.knows edge = false) →
      ∀ edge ∈ (snapshots.foldl report inventory).pending,
        (snapshots.foldl report inventory).knows edge = false := by
  induction snapshots with
  | nil => intro inventory h; exact h
  | cons snapshot snapshots ih =>
    intro inventory _
    refine ih fun edge hedge => ?_
    rw [report, Inventory.knows_markAbsentAsStale]
    exact Inventory.not_knows_of_mem_pending_merge hedge

theorem mem_entities_foldl_report {id : EntityId} (snapshots : List InventorySnapshot) :
    ∀ inventory : Inventory, id ∈ (snapshots.foldl report inventory).entities ↔
      id ∈ inventory.entities ∨ ∃ snapshot ∈ snapshots, id ∈ snapshot.entities.map ManagedEntity.id := by
  induction snapshots with
  | nil => intro inventory; simp
  | cons snapshot snapshots ih =>
    intro inventory
    rw [List.foldl_cons, ih, report, Inventory.mem_entities_markAbsentAsStale,
      Inventory.mem_entities_merge, or_assoc]
    simp only [List.mem_cons, exists_eq_or_imp]

theorem mem_entities_load {id : EntityId} : id ∈ tables.loadInventory.entities ↔ id ∈ tables.entities :=
  Std.ExtTreeMap.mem_map

theorem mem_entities_merged {id : EntityId} : id ∈ (cycle.merged tables).entities ↔
    id ∈ tables.entities ∨
      ∃ snapshot ∈ cycle.snapshots, id ∈ snapshot.entities.map ManagedEntity.id := by
  rw [merged_eq, mem_entities_foldl_report, mem_entities_load]

theorem knows_merged : (cycle.merged tables).knows edge = true ↔ cycle.Knows tables edge := by
  rw [Inventory.knows_iff, mem_entities_merged, mem_entities_merged, Knows]
  simp

/-- Two snapshots of a cycle with one source are the same. -/
theorem eq_of_source_eq {s s' : InventorySnapshot} (hs : s ∈ cycle.snapshots)
    (hs' : s' ∈ cycle.snapshots) (h : s.source = s'.source) : s = s' :=
  List.inj_on_of_nodup_map cycle.distinct hs hs' h

/-- What is stored of an entity is held while a cycle goes on. -/
theorem isSome_merged {id : EntityId} (h : tables.entities[id]?.isSome) :
    ((cycle.merged tables).get id).isSome := by
  rw [← Std.ExtTreeMap.mem_iff_isSome_getElem?] at h
  rw [Inventory.get, ← Std.ExtTreeMap.mem_iff_isSome_getElem?, mem_entities_merged]
  exact Or.inl h

theorem isSome_merge_load (snapshot : InventorySnapshot) {id : EntityId} (h : tables.entities[id]?.isSome) :
    ((tables.loadInventory.merge snapshot).get id).isSome := by
  rw [← Std.ExtTreeMap.mem_iff_isSome_getElem?] at h
  rw [Inventory.get, ← Std.ExtTreeMap.mem_iff_isSome_getElem?, Inventory.mem_entities_merge, mem_entities_load]
  exact Or.inl h

theorem names_offers (hnames : ∀ snapshot ∈ cycle.snapshots, ∀ edge ∈ snapshot.dependencies, edge.Names names) :
    ∀ edge ∈ offers cycle.snapshots, edge.Names names := by
  intro edge hedge
  obtain ⟨snapshot, hsnapshot, hedge⟩ := List.mem_flatMap.mp hedge
  exact hnames snapshot hsnapshot edge hedge

end Cycle

namespace Tables

variable {cycle : Cycle} {tables : Tables} {names : Uuid → Relation} {row edge : DependencyEdge}

/-- The dependency rows are consistent: one for an identifier, which names the
relation, between stored entities. -/
structure Sound (names : Uuid → Relation) (tables : Tables) : Prop where
  /-- One row for an identifier. -/
  nodup : (tables.dependencies.map DependencyEdge.id).Nodup
  /-- Identifiers name relations. -/
  named : ∀ row ∈ tables.dependencies, row.Names names
  /-- Both ends are stored. -/
  ends : ∀ row ∈ tables.dependencies, row.source ∈ tables.entities ∧ row.target ∈ tables.entities

/-- What is loaded is held. -/
theorem Sound.held (h : tables.Sound names) :
    Inventory.Held tables.dependencies [] tables.loadInventory := by
  have hids : tables.loadInventory.graph.ids.Nodup :=
    DependencyGraph.nodup_ids_foldl_insert tables.dependencies List.nodup_nil
  refine ⟨⟨hids, ?_, ?_, ?_, ?_⟩, ?_⟩
  · intro edge hedge
    rw [mem_edges_loadInventory h.nodup] at hedge
    rw [Inventory.knows_iff, Cycle.mem_entities_load, Cycle.mem_entities_load]
    exact h.ends edge hedge
  · intro edge hedge
    rw [mem_edges_loadInventory h.nodup] at hedge
    exact Or.inr ⟨hedge, fun f hf => absurd hf List.not_mem_nil⟩
  · intro edge hedge
    exact List.mem_map_of_mem ((mem_edges_loadInventory h.nodup).mpr hedge)
  · intro edge hedge
    exact absurd hedge List.not_mem_nil
  · intro edge hedge
    exact absurd hedge List.not_mem_nil

/-- **The edges over a cycle**, before the topology's retraction. -/
theorem Sound.held_merged (h : tables.Sound names)
    (hnames : ∀ snapshot ∈ cycle.snapshots, ∀ edge ∈ snapshot.dependencies, edge.Names names) :
    Inventory.Held tables.dependencies (Cycle.offers cycle.snapshots) (cycle.merged tables) := by
  rw [Cycle.merged_eq]
  refine Cycle.held_foldl_report h.named cycle.snapshots h.held fun edge hedge => ?_
  obtain ⟨snapshot, hsnapshot, hedge⟩ := List.mem_flatMap.mp hedge
  exact hnames snapshot hsnapshot edge hedge

theorem pending_merged : ∀ edge ∈ (cycle.merged tables).pending,
    (cycle.merged tables).knows edge = false := by
  rw [Cycle.merged_eq]
  exact Cycle.pending_foldl_report cycle.snapshots fun edge hedge => absurd hedge List.not_mem_nil

theorem mem_edges_inventory : edge ∈ (cycle.inventory tables).graph.edges ↔
    edge ∈ (cycle.merged tables).graph.edges ∧
      ∀ topology ∈ cycle.topology, edge.discoverySource = topology.source → edge.id ∈ topology.edgeIds := by
  rw [Cycle.inventory]
  cases cycle.topology with
  | none => simp
  | some topology =>
    change edge ∈ (cycle.merged tables).graph.edges.filter _ ↔ _
    rw [List.mem_filter, decide_eq_true_eq, ← imp_iff_not_or]
    simp

theorem mem_dependencies_retract : row ∈ (tables.retract cycle).dependencies ↔
    row ∈ tables.dependencies ∧
      ∀ topology ∈ cycle.topology, row.discoverySource = topology.source → row.id ∈ topology.edgeIds := by
  rw [retract]
  cases cycle.topology with
  | none => simp
  | some topology =>
    change row ∈ tables.dependencies.filter _ ↔ _
    rw [List.mem_filter, decide_eq_true_eq, ← imp_iff_not_or]
    simp

theorem dependencies_reconcileSnapshotCapabilities (tables : Tables) (snapshot : InventorySnapshot) :
    (tables.reconcileSnapshotCapabilities snapshot).dependencies = tables.dependencies := by
  rw [reconcileSnapshotCapabilities]
  induction snapshot.entities generalizing tables with
  | nil => rfl
  | cons entity entities ih => exact ih _

theorem dependencies_foldl_reconcile (snapshots : List InventorySnapshot) :
    ∀ tables : Tables,
      (snapshots.foldl reconcileSnapshotCapabilities tables).dependencies = tables.dependencies := by
  induction snapshots with
  | nil => intro tables; rfl
  | cons snapshot snapshots ih =>
    intro tables
    rw [List.foldl_cons, ih, dependencies_reconcileSnapshotCapabilities]

/-- What a provider reported itself is not retracted. -/
theorem reported_of_mem_offers {topology : InventorySnapshot}
    (hedge : edge ∈ Cycle.offers cycle.snapshots) (htopology : topology ∈ cycle.topology)
    (hsource : edge.discoverySource = topology.source) : edge.id ∈ topology.edgeIds := by
  obtain ⟨snapshot, hsnapshot, hedge⟩ := List.mem_flatMap.mp hedge
  have hmem : topology ∈ cycle.snapshots :=
    List.mem_append_right _ (Option.mem_toList.mpr htopology)
  have heq := Cycle.eq_of_source_eq hsnapshot hmem ((snapshot.stamped edge hedge).symm.trans hsource)
  rw [← heq]
  exact List.mem_map_of_mem hedge

theorem Sound.nodup_retract (h : tables.Sound names) (cycle : Cycle) :
    ((tables.retract cycle).dependencies.map DependencyEdge.id).Nodup := by
  rw [retract]
  split
  · exact h.nodup.sublist (List.filter_sublist.map _)
  · exact h.nodup

theorem Sound.nodup_inventory (h : tables.Sound names)
    (hnames : ∀ snapshot ∈ cycle.snapshots, ∀ edge ∈ snapshot.dependencies, edge.Names names) :
    (cycle.inventory tables).graph.ids.Nodup := by
  rw [Cycle.inventory]
  split
  · exact (h.held_merged hnames).nodup.sublist (List.filter_sublist.map _)
  · exact (h.held_merged hnames).nodup

theorem Sound.names_inventory (h : tables.Sound names)
    (hnames : ∀ snapshot ∈ cycle.snapshots, ∀ edge ∈ snapshot.dependencies, edge.Names names) :
    ∀ edge ∈ (cycle.inventory tables).graph.edges, edge.Names names := fun edge hedge =>
  (h.held_merged hnames).edgesName h.named (Cycle.names_offers hnames) edge (mem_edges_inventory.mp hedge).1

/-- The ends of what is stored are known. -/
theorem Sound.knows_of_stored (h : tables.Sound names) (hrow : row ∈ tables.dependencies)
    (hrelation : edge.relation = row.relation) : cycle.Knows tables edge := by
  rw [← Cycle.knows_merged, Inventory.knows_congr hrelation, Inventory.knows_iff, Cycle.mem_entities_merged,
    Cycle.mem_entities_merged]
  exact ⟨Or.inl (h.ends row hrow).1, Or.inl (h.ends row hrow).2⟩

/-- **The dependency rows after a cycle** are the edges of the inventory it saved. -/
theorem Sound.mem_dependencies_discoverOnce (h : tables.Sound names)
    (hnames : ∀ snapshot ∈ cycle.snapshots, ∀ edge ∈ snapshot.dependencies, edge.Names names) :
    row ∈ (tables.discoverOnce cycle).dependencies ↔ row ∈ (cycle.inventory tables).graph.edges := by
  have hheld := h.held_merged hnames
  rw [discoverOnce, dependencies_foldl_reconcile, mem_dependencies_saveInventory
    (fun row hrow => h.named row (mem_dependencies_retract.mp hrow).1) (h.nodup_retract cycle)
    (h.names_inventory hnames) (h.nodup_inventory hnames)]
  refine ⟨fun hrow => hrow.resolve_right ?_, Or.inl⟩
  -- a row that is not deleted has its edge in the graph that is saved
  rintro ⟨hrow, hnot⟩
  obtain ⟨hrow, hkeep⟩ := mem_dependencies_retract.mp hrow
  obtain ⟨edge, hedge, hid⟩ := List.mem_map.mp (hheld.kept row hrow)
  refine hnot (List.mem_map.mpr ⟨edge, mem_edges_inventory.mpr ⟨hedge, ?_⟩, hid⟩)
  intro topology htopology hsource
  rcases hheld.origin edge hedge with hoffer | ⟨hbefore, -⟩
  · exact reported_of_mem_offers hoffer htopology hsource
  · rw [List.inj_on_of_nodup_map h.nodup hbefore hrow hid] at hsource ⊢
    exact hkeep topology htopology hsource

/-- The dependency rows after a snapshot merged directly are the edges of the merged
inventory. -/
theorem Sound.mem_dependencies_ingestSnapshot (h : tables.Sound names) {snapshot : InventorySnapshot}
    (hnames : ∀ edge ∈ snapshot.dependencies, edge.Names names) :
    row ∈ (tables.ingestSnapshot snapshot).dependencies ↔
      row ∈ (tables.loadInventory.merge snapshot).graph.edges := by
  have hheld := h.held.merge snapshot h.named (by simpa using hnames)
  rw [ingestSnapshot, dependencies_reconcileSnapshotCapabilities, mem_dependencies_saveInventory h.named
    h.nodup (hheld.edgesName h.named (by simpa using hnames)) hheld.nodup]
  exact ⟨fun hrow => hrow.resolve_right fun hrow => hrow.2 (hheld.kept row hrow.1), Or.inl⟩

/-- What the saved inventory knows is stored. -/
theorem mem_entities_saved {row? : Option EntityRow} {entity : Option ManagedEntity}
    {snapshots : List InventorySnapshot} {id : EntityId} (h : entity.isSome) :
    (saved row? entity snapshots id).isSome := by
  obtain ⟨entity, rfl⟩ := Option.isSome_iff_exists.mp h
  simp [saved]

/-- A cycle keeps the dependency rows consistent. -/
theorem Sound.discoverOnce (h : tables.Sound names)
    (hnames : ∀ snapshot ∈ cycle.snapshots, ∀ edge ∈ snapshot.dependencies, edge.Names names) :
    (tables.discoverOnce cycle).Sound names := by
  have hheld := h.held_merged hnames
  refine ⟨?_, ?_, ?_⟩
  · rw [Tables.discoverOnce, dependencies_foldl_reconcile]
    exact nodup_dependencies_saveInventory (fun row hrow => h.named row (mem_dependencies_retract.mp hrow).1)
      (h.nodup_retract cycle) (h.names_inventory hnames)
  · intro row hrow
    exact h.names_inventory hnames row ((h.mem_dependencies_discoverOnce hnames).mp hrow)
  · intro row hrow
    have hmem := (mem_edges_inventory.mp ((h.mem_dependencies_discoverOnce hnames).mp hrow)).1
    obtain ⟨hsource, htarget⟩ := Inventory.knows_iff.mp (hheld.known row hmem)
    simp only [Std.ExtTreeMap.mem_iff_isSome_getElem?, getElem?_discoverOnce] at hsource htarget ⊢
    exact ⟨mem_entities_saved hsource, mem_entities_saved htarget⟩

/-- So does a snapshot merged directly. -/
theorem Sound.ingestSnapshot (h : tables.Sound names) {snapshot : InventorySnapshot}
    (hnames : ∀ edge ∈ snapshot.dependencies, edge.Names names) :
    (tables.ingestSnapshot snapshot).Sound names := by
  have hheld := h.held.merge snapshot h.named (by simpa using hnames)
  have hedges := hheld.edgesName h.named (by simpa using hnames)
  refine ⟨?_, ?_, ?_⟩
  · rw [Tables.ingestSnapshot, dependencies_reconcileSnapshotCapabilities]
    exact nodup_dependencies_saveInventory h.named h.nodup hedges
  · intro row hrow
    exact hedges row ((h.mem_dependencies_ingestSnapshot hnames).mp hrow)
  · intro row hrow
    have hmem := (h.mem_dependencies_ingestSnapshot hnames).mp hrow
    obtain ⟨hsource, htarget⟩ := Inventory.knows_iff.mp (hheld.known row hmem)
    rw [Std.ExtTreeMap.mem_iff_isSome_getElem?] at hsource htarget
    rw [Std.ExtTreeMap.mem_iff_isSome_getElem?, Std.ExtTreeMap.mem_iff_isSome_getElem?,
      getElem?_ingestSnapshot, getElem?_ingestSnapshot]
    have hget := fun id => (Inventory.get_merge tables.loadInventory snapshot id).symm
    simp only [get_loadInventory] at hget
    rw [hget, hget]
    exact ⟨mem_entities_saved hsource, mem_entities_saved htarget⟩

/-- **The dependency rows stay consistent in every run.** -/
theorem Sound.run {topologySource : DiscoverySource} {log : List Update}
    (h : (discovery topologySource names).Run log tables) : tables.Sound names := by
  refine h.invariant (P := fun _ tables => tables.Sound names) ?_ ?_
  · rintro tables rfl
    exact ⟨List.nodup_nil, by simp, by simp⟩
  · intro log tables update _ hsound hallowed
    cases update with
    | discover cycle => exact hsound.discoverOnce hallowed.1
    | ingest snapshot => exact hsound.ingestSnapshot (hallowed.1 snapshot List.mem_cons_self)

end Tables

end Sentinel
