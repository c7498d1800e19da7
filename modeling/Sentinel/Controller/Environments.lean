import Sentinel.Controller.Discovery
import Sentinel.Controller.Registration

/-!
# Environments that share a database

Several environments may be kept in one database.  A controller serves one of them: it
loads that environment's entities and the dependencies that start at one of them, folds
snapshots in and writes the result back.  Identifiers are derived from the environment,
so what is written by identifier stays within it.

Two writes do not.  The dependency rows a source no longer reports are deleted by their
source alone, in every environment; and an agent is registered in the environment it
claims, whatever the controller serves.

## Main definitions

* `Tables.within` — the rows of one environment.
* `Request`, `Tables.serve` — what a controller does to the shared database for its own
  environment.
* `Request.Spares` — a request that leaves another environment alone.

## Main results

* `Inventory.Within.merge` — the inventory of an environment stays within it.
* `Tables.within_saveInventory` — saving it changes no other environment.
* `other_environment_unchanged` — runs of requests that spare an environment.
-/

namespace Sentinel

variable (home : EntityId → String)

/-- The rows of one environment: its entities, and the dependencies that start at one of
them.  `home` is the environment column, which an identifier is derived from. -/
def Tables.within (tables : Tables) (environment : String) : Tables where
  entities := tables.entities.filter fun id _ => home id = environment
  dependencies := tables.dependencies.filter fun edge => home edge.source = environment

/-! ### What a controller does -/

/-- What is asked of a controller that shares its database. -/
inductive Request
  /-- Run a discovery cycle. -/
  | discover (cycle : Cycle)
  /-- Register an agent. -/
  | register (request : RegisterRequest)
  /-- Bring one provider's capability claims for an entity up to date. -/
  | capabilities (source : DiscoverySource) (entity : ManagedEntity)
  /-- Delete the dependency rows a source no longer reports. -/
  | dependencies (source : DiscoverySource) (keep : List Uuid)

/-- The shared database after a request to the controller of an environment. -/
def Tables.serve (entityId : EntityKey → EntityId) (environment : String) (tables : Tables) :
    Request → Tables
  | .discover cycle =>
    cycle.snapshots.foldl reconcileSnapshotCapabilities
      ((tables.retract cycle).saveInventory (cycle.inventory (tables.within home environment)))
  | .register request =>
    let snapshot := snapshotFromRegistration entityId request
    (tables.saveInventory ((tables.within home environment).loadInventory.merge snapshot)).reconcileSnapshotCapabilities
      snapshot
  | .capabilities source entity => tables.reconcileCapabilities source entity
  | .dependencies source keep => tables.reconcileDependencies source keep

/-! ### The inventory of an environment -/

/-- Every entity and edge belongs to the environment, and the edges are named by their
identifiers. -/
structure Inventory.Within (names : Uuid → Relation) (environment : String) (inventory : Inventory) :
    Prop where
  /-- The entities. -/
  entities : ∀ id, (inventory.get id).isSome → home id = environment
  /-- The edges. -/
  edges : ∀ edge ∈ inventory.graph.edges, home edge.source = environment ∧ edge.Names names
  /-- The edges held back. -/
  pending : ∀ edge ∈ inventory.pending, home edge.source = environment ∧ edge.Names names

/-- Every entity and edge of a snapshot belongs to the environment, and the edges are
named by their identifiers. -/
structure InventorySnapshot.Within (names : Uuid → Relation) (environment : String)
    (snapshot : InventorySnapshot) : Prop where
  /-- The entities. -/
  entities : ∀ entity ∈ snapshot.entities, home entity.id = environment
  /-- The edges. -/
  edges : ∀ edge ∈ snapshot.dependencies, home edge.source = environment ∧ edge.Names names

variable {home} {names : Uuid → Relation} {environment other : String} {tables : Tables}
  {inventory : Inventory} {snapshot : InventorySnapshot}

namespace Inventory

theorem Within.load (hnamed : ∀ row ∈ tables.dependencies, row.Names names) :
    (tables.within home environment).loadInventory.Within home names environment where
  entities := by
    intro id hid
    rw [Tables.get_loadInventory, Option.isSome_map, Tables.within,
      Std.ExtTreeMap.getElem?_filter'] at hid
    obtain ⟨row, hrow⟩ := Option.isSome_iff_exists.mp hid
    exact of_decide_eq_true (Option.filter_eq_some_iff.mp hrow).2
  edges := by
    refine DependencyGraph.forall_mem_foldl_insert (P := fun edge => _) _ (by simp [DependencyGraph.empty]) ?_
    intro edge hedge
    obtain ⟨hmem, hhome⟩ := List.mem_filter.mp hedge
    exact ⟨of_decide_eq_true hhome, hnamed edge hmem⟩
  pending := by
    intro edge hedge
    cases hedge

theorem Within.mergeEntities (h : inventory.Within home names environment) (entities : List ManagedEntity)
    (hentities : ∀ entity ∈ entities, home entity.id = environment) :
    (entities.foldl mergeEntity inventory).Within home names environment := by
  induction entities generalizing inventory with
  | nil => exact h
  | cons entity entities ih =>
    rw [List.forall_mem_cons] at hentities
    refine ih ?_ hentities.2
    have hframe := edges_mergeEntities [entity] inventory
    refine ⟨fun id hid => ?_, ?_, ?_⟩
    · rw [get_mergeEntity] at hid
      split at hid
      · next heq => rw [← heq]; exact hentities.1
      · exact h.entities id hid
    · exact hframe.1 ▸ h.edges
    · exact hframe.2 ▸ h.pending

theorem Within.offerEdge (h : inventory.Within home names environment) {edge : DependencyEdge}
    (hedge : home edge.source = environment ∧ edge.Names names) :
    (inventory.offerEdge edge).Within home names environment := by
  rw [Inventory.offerEdge]
  split
  · exact ⟨h.entities, DependencyGraph.forall_mem_insert h.edges hedge, h.pending⟩
  split
  · exact h
  · refine ⟨h.entities, h.edges, fun e he => ?_⟩
    rcases List.mem_append.mp he with he | he
    · exact h.pending e he
    · rw [List.mem_singleton.mp he]
      exact hedge

theorem Within.offerEdges (edges : List DependencyEdge) :
    ∀ {inventory : Inventory}, inventory.Within home names environment →
      (∀ edge ∈ edges, home edge.source = environment ∧ edge.Names names) →
      (edges.foldl Inventory.offerEdge inventory).Within home names environment := by
  induction edges with
  | nil => intro inventory h _; exact h
  | cons edge edges ih =>
    intro inventory h hedges
    rw [List.forall_mem_cons] at hedges
    exact ih (h.offerEdge hedges.1) hedges.2

/-- **The inventory of an environment stays within it** when a snapshot of that
environment is folded in. -/
theorem Within.merge (h : inventory.Within home names environment)
    (hsnapshot : snapshot.Within home names environment) :
    (inventory.merge snapshot).Within home names environment := by
  have hoffered := Within.offerEdges _ (h.mergeEntities _ hsnapshot.entities) hsnapshot.edges
  rw [Inventory.merge, resolvePending_eq, resolveRound_eq]
  refine ⟨hoffered.entities, ?_, fun edge hedge => hoffered.pending edge (List.mem_of_mem_filter hedge)⟩
  exact DependencyGraph.forall_mem_foldl_insert _ hoffered.edges fun edge hedge =>
    hoffered.pending edge (List.mem_of_mem_filter hedge)

theorem Within.report (h : inventory.Within home names environment)
    (hsnapshot : snapshot.Within home names environment) :
    (Cycle.report inventory snapshot).Within home names environment := by
  have hmerged := h.merge hsnapshot
  refine ⟨fun id hid => ?_, hmerged.edges, hmerged.pending⟩
  rw [Cycle.report, get_markAbsentAsStale, Option.isSome_map] at hid
  exact hmerged.entities id hid

theorem Within.cycle (hnamed : ∀ row ∈ tables.dependencies, row.Names names) {cycle : Cycle}
    (hcycle : ∀ snapshot ∈ cycle.snapshots, snapshot.Within home names environment) :
    (cycle.inventory (tables.within home environment)).Within home names environment := by
  have hfold : ∀ (snapshots : List InventorySnapshot) (inventory : Inventory),
      (∀ snapshot ∈ snapshots, snapshot.Within home names environment) →
      inventory.Within home names environment →
      (snapshots.foldl Cycle.report inventory).Within home names environment := by
    intro snapshots
    induction snapshots with
    | nil => intro inventory _ h; exact h
    | cons snapshot snapshots ih =>
      intro inventory hsnapshots h
      rw [List.forall_mem_cons] at hsnapshots
      exact ih _ hsnapshots.2 (h.report hsnapshots.1)
  have hload : (tables.within home environment).loadInventory.Within home names environment :=
    Within.load hnamed
  have hmerged := hfold _ _ hcycle hload
  rw [← Cycle.merged_eq] at hmerged
  rw [Cycle.inventory]
  split
  · refine ⟨hmerged.entities, fun edge hedge => ?_, hmerged.pending⟩
    exact hmerged.edges edge (List.mem_of_mem_filter hedge)
  · exact hmerged

end Inventory

/-! ### What reaches another environment -/

namespace Tables

theorem getElem?_within (tables : Tables) (environment : String) (id : EntityId) :
    (tables.within home environment).entities[id]? =
      if home id = environment then tables.entities[id]? else none := by
  rw [within, Std.ExtTreeMap.getElem?_filter']
  cases tables.entities[id]? with
  | none => simp
  | some row => simp [Option.filter]

/-- Two databases hold the same rows of an environment. -/
theorem within_congr {tables' : Tables}
    (hentities : ∀ id, home id = environment → tables'.entities[id]? = tables.entities[id]?)
    (hdependencies : (tables'.dependencies.filter fun edge => home edge.source = environment) =
      tables.dependencies.filter fun edge => home edge.source = environment) :
    tables'.within home environment = tables.within home environment := by
  have hrows : (tables'.within home environment).entities = (tables.within home environment).entities := by
    refine Std.ExtTreeMap.ext_getElem? fun id => ?_
    rw [getElem?_within, getElem?_within]
    split
    · next h => exact hentities id h
    · rfl
  exact congrArg₂ Tables.mk hrows hdependencies

/-- Saving an edge of one environment keeps the rows of another. -/
theorem filter_saveDependency {rows : List DependencyEdge} {edge : DependencyEdge}
    (hne : environment ≠ other) (hrows : ∀ row ∈ rows, row.Names names)
    (hedge : home edge.source = environment ∧ edge.Names names) :
    (saveDependency rows edge).filter (fun row => home row.source = other) =
      rows.filter fun row => home row.source = other := by
  have hout : ¬ home edge.source = other := fun h => hne (hedge.1.symm.trans h)
  rw [saveDependency]
  split
  · next place hplace =>
    -- the row that is touched states the relation of the edge
    obtain ⟨hlt, hid, -⟩ := List.findIdx?_eq_some_iff_getElem.mp hplace
    have hrel := (hrows _ (List.getElem_mem hlt)).relation_eq hedge.2 (of_decide_eq_true hid)
    have hsource : rows[place].source = edge.source := by
      simp only [DependencyEdge.relation, Prod.mk.injEq] at hrel
      exact hrel.1
    rw [List.modify_eq_take_cons_drop hlt, List.filter_append, List.filter_cons_of_neg (by simp [hsource, hout])]
    conv_rhs => rw [← List.take_append_drop place rows, List.drop_eq_getElem_cons hlt]
    rw [List.filter_append, List.filter_cons_of_neg (by simp [hsource, hout])]
  · rw [List.filter_append, List.filter_cons_of_neg (by simp [hout]), List.filter_nil, List.append_nil]

theorem names_saveDependency {rows : List DependencyEdge} {edge : DependencyEdge}
    (hrows : ∀ row ∈ rows, row.Names names) (hedge : edge.Names names) :
    ∀ row ∈ saveDependency rows edge, row.Names names := by
  intro row hrow
  have hgraph : ∀ row ∈ (DependencyGraph.mk rows ∅ ∅).edges, row.Names names := hrows
  have hsaved := saveDependency_eq hgraph hedge
  change saveDependency rows edge = _ at hsaved
  rw [hsaved] at hrow
  exact DependencyGraph.forall_mem_insert hgraph hedge row hrow

theorem filter_saveDependencies (hne : environment ≠ other) (edges : List DependencyEdge) :
    ∀ {rows : List DependencyEdge}, (∀ row ∈ rows, row.Names names) →
      (∀ edge ∈ edges, home edge.source = environment ∧ edge.Names names) →
      ((edges.foldl saveDependency rows).filter (fun row => home row.source = other) =
        rows.filter fun row => home row.source = other) ∧
      ∀ row ∈ edges.foldl saveDependency rows, row.Names names := by
  induction edges with
  | nil => intro rows hrows _; exact ⟨rfl, hrows⟩
  | cons edge edges ih =>
    intro rows hrows hedges
    rw [List.forall_mem_cons] at hedges
    obtain ⟨hfilter, hnamed⟩ := ih (names_saveDependency hrows hedges.1.2) hedges.2
    exact ⟨hfilter.trans (filter_saveDependency hne hrows hedges.1), hnamed⟩

theorem dependencies_saveInventory_eq (tables : Tables) (inventory : Inventory) :
    (tables.saveInventory inventory).dependencies =
      inventory.graph.edges.foldl saveDependency tables.dependencies := by
  rw [saveInventory, dependencies_foldl_saveEntity]

/-- **Saving the inventory of one environment changes no other.** -/
theorem within_saveInventory (hne : environment ≠ other) (hnamed : ∀ row ∈ tables.dependencies, row.Names names)
    (hinventory : inventory.Within home names environment) :
    (tables.saveInventory inventory).within home other = tables.within home other ∧
      ∀ row ∈ (tables.saveInventory inventory).dependencies, row.Names names := by
  obtain ⟨hfilter, hkept⟩ := filter_saveDependencies hne _ hnamed hinventory.edges
  rw [dependencies_saveInventory_eq]
  refine ⟨within_congr (fun id hid => ?_) ?_, hkept⟩
  · have hnone : inventory.get id = none := by
      rw [← Option.not_isSome_iff_eq_none]
      exact fun hsome => hne ((hinventory.entities id hsome).symm.trans hid)
    rw [getElem?_saveInventory, hnone]
    rfl
  · rw [dependencies_saveInventory_eq]
    exact hfilter

theorem within_reconcileCapabilities (hne : environment ≠ other) (source : DiscoverySource)
    {entity : ManagedEntity} (hentity : home entity.id = environment) :
    (tables.reconcileCapabilities source entity).within home other = tables.within home other := by
  refine within_congr (fun id hid => ?_) rfl
  rw [getElem?_reconcileCapabilities, if_neg]
  rintro rfl
  exact hne (hentity.symm.trans hid)

theorem within_reconcileSnapshotCapabilities (hne : environment ≠ other)
    (hsnapshot : ∀ entity ∈ snapshot.entities, home entity.id = environment) :
    (tables.reconcileSnapshotCapabilities snapshot).within home other = tables.within home other := by
  refine within_congr (fun id hid => ?_) ?_
  · have hnone : snapshot.reportsOf id = [] := by
      refine List.filter_eq_nil_iff.mpr fun entity hentity hsame => ?_
      rw [← of_decide_eq_true hsame] at hid
      exact hne ((hsnapshot entity hentity).symm.trans hid)
    rw [getElem?_reconcileSnapshotCapabilities]
    cases tables.entities[id]? with
    | none => rfl
    | some row => rw [Option.map_some, reconciled, hnone, List.foldl_nil]
  · rw [dependencies_reconcileSnapshotCapabilities]

/-- A reconciliation keeps an environment that has no row of its source. -/
theorem within_reconcileDependencies {source : DiscoverySource} {keep : List Uuid}
    (hspared : ∀ row ∈ tables.dependencies, home row.source = other → row.discoverySource = source →
      row.id ∈ keep) :
    (tables.reconcileDependencies source keep).within home other = tables.within home other := by
  refine within_congr (fun _ _ => rfl) ?_
  change (tables.dependencies.filter _).filter _ = _
  rw [List.filter_filter]
  refine List.filter_congr fun row hrow => ?_
  by_cases hhome : home row.source = other
  · have hkept : row.discoverySource ≠ source ∨ row.id ∈ keep :=
      or_iff_not_imp_left.mpr fun h => hspared row hrow hhome (not_not.mp h)
    simp [hhome, hkept]
  · simp [hhome]

end Tables

/-! ### Runs -/

section Runs

variable (home names) (entityId : EntityKey → EntityId)

/-- A request to the controller of one environment that leaves another one alone: what it
is told is about its own environment, and a source whose rows it reconciles has none in
the other one. -/
def Request.Spares (environment other : String) (tables : Tables) : Request → Prop
  | .discover cycle =>
    (∀ snapshot ∈ cycle.snapshots, snapshot.Within home names environment) ∧
    ∀ topology ∈ cycle.topology, ∀ row ∈ tables.dependencies, home row.source = other →
      row.discoverySource ≠ topology.source
  | .register request => request.environment = environment
  | .capabilities _ entity => home entity.id = environment
  | .dependencies source _ => ∀ row ∈ tables.dependencies, home row.source = other →
    row.discoverySource ≠ source

/-- The requests to the controller of one environment that leave another one alone, from
a database on. -/
def sharing (environment other : String) (start : Tables) : Machine Tables Request where
  Init := fun tables => tables = start
  step := Tables.serve home entityId environment
  Allowed := Request.Spares home names environment other

end Runs

variable {entityId : EntityKey → EntityId}

theorem within_registration
    (hhome : ∀ key : EntityKey, key.environment = environment → home (entityId key) = environment)
    {request : RegisterRequest} (hrequest : request.environment = environment) :
    (snapshotFromRegistration entityId request).Within home names environment where
  entities := by
    intro entity hentity
    change entity ∈ [(request.entity _).withDiscoverySource .agentRegistration] at hentity
    rw [List.mem_singleton.mp hentity, ManagedEntity.withDiscoverySource]
    split
    · exact hhome _ hrequest
    · exact hhome _ hrequest
  edges := by
    intro edge hedge
    cases hedge

/-- One request that spares another environment leaves its rows as they are. -/
theorem within_serve
    (hhome : ∀ key : EntityKey, key.environment = environment → home (entityId key) = environment)
    (hne : environment ≠ other) (hnamed : ∀ row ∈ tables.dependencies, row.Names names) {request : Request}
    (hspares : request.Spares home names environment other tables) :
    (tables.serve home entityId environment request).within home other = tables.within home other ∧
      ∀ row ∈ (tables.serve home entityId environment request).dependencies, row.Names names := by
  cases request with
  | discover cycle =>
    obtain ⟨hcycle, hspared⟩ := hspares
    have hretracted : (tables.retract cycle).within home other = tables.within home other ∧
        ∀ row ∈ (tables.retract cycle).dependencies, row.Names names := by
      refine ⟨?_, fun row hrow => hnamed row (Tables.mem_dependencies_retract.mp hrow).1⟩
      rw [Tables.retract]
      split
      · next topology htopology =>
        refine Tables.within_reconcileDependencies fun row hrow hother hsource => ?_
        exact absurd hsource (hspared topology htopology row hrow hother)
      · rfl
    obtain ⟨hsaved, hkept⟩ := Tables.within_saveInventory hne hretracted.2
      (Inventory.Within.cycle hnamed hcycle)
    have hfold : ∀ (snapshots : List InventorySnapshot) (tables : Tables),
        (∀ snapshot ∈ snapshots, snapshot.Within home names environment) →
        (snapshots.foldl Tables.reconcileSnapshotCapabilities tables).within home other =
          tables.within home other := by
      intro snapshots
      induction snapshots with
      | nil => intro tables _; rfl
      | cons snapshot snapshots ih =>
        intro tables hsnapshots
        rw [List.forall_mem_cons] at hsnapshots
        rw [List.foldl_cons, ih _ hsnapshots.2,
          Tables.within_reconcileSnapshotCapabilities hne hsnapshots.1.entities]
    rw [Tables.serve, Tables.dependencies_foldl_reconcile]
    exact ⟨(hfold _ _ hcycle).trans (hsaved.trans hretracted.1), hkept⟩
  | register request =>
    have hsnapshot : (snapshotFromRegistration entityId request).Within home names environment :=
      within_registration hhome hspares
    obtain ⟨hsaved, hkept⟩ := Tables.within_saveInventory hne hnamed
      ((Inventory.Within.load hnamed).merge hsnapshot)
    rw [Tables.serve, Tables.dependencies_reconcileSnapshotCapabilities]
    exact ⟨(Tables.within_reconcileSnapshotCapabilities hne hsnapshot.entities).trans hsaved, hkept⟩
  | capabilities source entity =>
    exact ⟨Tables.within_reconcileCapabilities hne source hspares, hnamed⟩
  | dependencies source keep =>
    refine ⟨Tables.within_reconcileDependencies fun row hrow hother hsource => ?_, ?_⟩
    · exact absurd hsource (hspares row hrow hother)
    · exact fun row hrow => hnamed row (List.mem_of_mem_filter hrow)

/-- **Another environment stays as it is** over every run of requests that spare it. -/
theorem other_environment_unchanged
    (hhome : ∀ key : EntityKey, key.environment = environment → home (entityId key) = environment)
    (hne : environment ≠ other) {start : Tables} (hnamed : ∀ row ∈ start.dependencies, row.Names names)
    {log : List Request} (hrun : (sharing home names entityId environment other start).Run log tables) :
    (tables.within home other).loadInventory = (start.within home other).loadInventory := by
  have hinvariant := hrun.invariant
    (P := fun _ tables => tables.within home other = start.within home other ∧
      ∀ row ∈ tables.dependencies, row.Names names) ?_ ?_
  · rw [hinvariant.1]
  · rintro tables rfl
    exact ⟨rfl, hnamed⟩
  · rintro log tables request - ⟨hwithin, hnames⟩ hspares
    obtain ⟨hstep, hkept⟩ := within_serve hhome hne hnames hspares
    exact ⟨hstep.trans hwithin, hkept⟩

namespace TwoEnvironments

/-- The environments `a` and `b`. -/
def homeOf (id : EntityId) : String := if id = ⟨⟨1⟩⟩ then "a" else "b"

/-- A host of `a`, and one of `b`. -/
def idOf (key : EntityKey) : EntityId := if key.environment = "a" then ⟨⟨1⟩⟩ else ⟨⟨10⟩⟩

/-- A database with a client of a storage in `b`, found by the mounts it reported. -/
def start : Tables where
  entities := (((∅ : Std.ExtTreeMap EntityId EntityRow).insert ⟨⟨10⟩⟩
    (EntityRow.save none (.new ⟨⟨10⟩⟩ .host "node-b"))).insert ⟨⟨11⟩⟩
    (EntityRow.save none (.new ⟨⟨11⟩⟩ .storage "fs-b")))
  dependencies := [{ DependencyEdge.new ⟨1⟩ ⟨⟨10⟩⟩ ⟨⟨11⟩⟩ .usesStorage with
    discoverySource := .integration "nfs" }]

/-- An agent that registers in an environment. -/
def agent (environment : String) : RegisterRequest :=
  ⟨1, "1.0.0", environment, "node", none, none, [], ∅, ∅, .null, []⟩

end TwoEnvironments

open TwoEnvironments in
/-- An agent registers in `a`. -/
theorem other_environment_unchanged_registration :
    let tables := start.serve homeOf idOf "a" (.register (agent "a"))
    (tables.within homeOf "a").loadInventory.all.length = 1 ∧
      (tables.within homeOf "b").loadInventory = (start.within homeOf "b").loadInventory := by
  intro tables
  refine ⟨by decide +kernel, ?_⟩
  have hnamed : ∀ row ∈ start.dependencies, row.Names fun _ => (⟨⟨10⟩⟩, ⟨⟨11⟩⟩, .usesStorage) := by
    intro row hrow
    rw [List.mem_singleton.mp hrow]
    rfl
  have hrun : (sharing homeOf (fun _ => (⟨⟨10⟩⟩, ⟨⟨11⟩⟩, .usesStorage)) idOf "a" "b" start).Run
      [.register (agent "a")] tables := .snoc (.init rfl) rfl
  refine other_environment_unchanged (fun key hkey => ?_) (by decide) hnamed hrun
  rw [idOf, if_pos hkey]
  rfl

open TwoEnvironments in
/-- **Two ways to reach into another environment**: a cycle of `a` that derives a storage
topology deletes what `b` found by its own, and an agent that claims to be of `b` is
registered there by the controller of `a`. -/
theorem other_environment_changed :
    let cycle : Cycle := ⟨[], some (.new (.integration "nfs")), by decide⟩
    let after (request : Request) :=
      ((start.serve homeOf idOf "a" request).within homeOf "b").loadInventory
    let before := (start.within homeOf "b").loadInventory
    before.graph.edges.length = 1 ∧ (after (.discover cycle)).graph.edges.length = 0 ∧
    (before.get ⟨⟨10⟩⟩).map (fun e => e.capabilities.toList) = some [] ∧
    ((after (.register (agent "b"))).get ⟨⟨10⟩⟩).map (fun e => e.capabilities.toList) =
      some [⟨"sentinel.agent"⟩] := by
  decide +kernel

end Sentinel
