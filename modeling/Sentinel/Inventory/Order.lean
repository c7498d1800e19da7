import Sentinel.Inventory.Edges

/-!
# The order of the snapshots is of no consequence

Providers run in sequence, and an edge may be offered before, with or after the entities
it joins.  Whatever the order, the inventory holds the entities reported, its graph the
edges offered whose ends are known, and the list of the edges held back the others.

## Main definitions

* `Inventory.mergeAll` — snapshots folded into the empty inventory.
* `Inventory.Settled` — what holds after any number of merges.

## Main results

* `Inventory.settled_mergeAll` — it does.
* `Inventory.mem_ids_mergeAll` — which edges are in the graph, and which are held back.
* `Inventory.mergeAll_spec` — the graph is sound, complete and independent of the order.
-/

namespace Sentinel

namespace Inventory

variable {inventory : Inventory} {edge : DependencyEdge} {names : Uuid → Relation}
  {offered : List DependencyEdge}

/-- The identifiers of the edges held back. -/
def pendingIds (inventory : Inventory) : List Uuid := inventory.pending.map DependencyEdge.id

/-- Fold snapshots into the empty inventory. -/
def mergeAll (snapshots : List InventorySnapshot) : Inventory := snapshots.foldl merge new

/-- The edges snapshots offer. -/
def offers (snapshots : List InventorySnapshot) : List DependencyEdge :=
  snapshots.flatMap InventorySnapshot.dependencies

/-! ### The edges held back -/

theorem nodup_pendingIds_offerEdge (h : inventory.pendingIds.Nodup) (edge : DependencyEdge) :
    (inventory.offerEdge edge).pendingIds.Nodup := by
  rw [offerEdge]
  split
  · exact h
  · split
    · exact h
    · next hnew =>
      have hid : edge.id ∉ inventory.pendingIds := by
        intro hmem
        obtain ⟨e, he, heq⟩ := List.mem_map.mp hmem
        exact hnew (List.any_eq_true.mpr ⟨e, he, decide_eq_true heq⟩)
      rw [pendingIds, List.map_append, List.map_singleton, ← List.concat_eq_append]
      exact h.concat hid

theorem nodup_pendingIds_offerEdges (edges : List DependencyEdge) :
    ∀ {inventory : Inventory}, inventory.pendingIds.Nodup →
      (edges.foldl offerEdge inventory).pendingIds.Nodup := by
  induction edges with
  | nil => intro inventory h; exact h
  | cons edge edges ih => intro inventory h; exact ih (nodup_pendingIds_offerEdge h edge)

theorem nodup_pendingIds_merge (h : inventory.pendingIds.Nodup) (snapshot : InventorySnapshot) :
    (inventory.merge snapshot).pendingIds.Nodup := by
  have hentities : (snapshot.entities.foldl mergeEntity inventory).pendingIds.Nodup := by
    rw [pendingIds, (edges_mergeEntities snapshot.entities inventory).2]
    exact h
  have hoffers := nodup_pendingIds_offerEdges snapshot.dependencies hentities
  rw [merge, resolvePending_eq, resolveRound_eq]
  exact hoffers.sublist (List.filter_sublist.map _)

/-- **The loop over the edges held back ends**, and with nothing ready: as many rounds as
there are edges held back are enough, and more make no difference. -/
theorem resolvePending_ends (inventory : Inventory) :
    inventory.resolvePending.ready = [] ∧
      ∀ n, inventory.pending.length ≤ n → resolvePending.rounds n inventory = inventory.resolvePending := by
  have hready : inventory.resolvePending.ready = [] := by
    rw [resolvePending_eq]
    exact ready_resolveRound inventory
  refine ⟨hready, fun n hn => ?_⟩
  -- once nothing is ready, a round changes nothing
  have hmore : ∀ n k (inventory : Inventory), (resolvePending.rounds n inventory).ready = [] →
      resolvePending.rounds (n + k) inventory = resolvePending.rounds n inventory := by
    intro n k
    induction n with
    | zero =>
      intro inventory h
      cases k with
      | zero => rfl
      | succ k =>
        rw [Nat.zero_add, resolvePending.rounds]
        exact if_pos h
    | succ n ih =>
      intro inventory h
      rw [Nat.succ_add, resolvePending.rounds, resolvePending.rounds]
      rw [resolvePending.rounds] at h
      split
      · rfl
      · next hnot =>
        rw [if_neg hnot] at h
        exact ih inventory.resolveRound h
  obtain ⟨k, rfl⟩ := Nat.exists_eq_add_of_le hn
  exact hmore _ k inventory hready

/-! ### Any number of merges -/

/-- What holds after any number of merges: every edge offered is in the graph if its ends
are known, and held back if not. -/
structure Settled (offered : List DependencyEdge) (inventory : Inventory) : Prop
    extends Held [] offered inventory where
  /-- Nothing is held back twice. -/
  nodup_pending : inventory.pendingIds.Nodup
  /-- Nothing held back is ready. -/
  unknown : ∀ edge ∈ inventory.pending, inventory.knows edge = false

theorem settled_new : Settled [] new where
  nodup := List.nodup_nil
  known := by simp [new, DependencyGraph.empty]
  origin := by simp [new, DependencyGraph.empty]
  kept := by simp
  waits := by simp [new]
  landed := by simp
  nodup_pending := List.nodup_nil
  unknown := by simp [new]

theorem Settled.merge (h : Settled offered inventory) (snapshot : InventorySnapshot)
    (hoffered : ∀ edge ∈ offered ++ snapshot.dependencies, edge.Names names) :
    Settled (offered ++ snapshot.dependencies) (inventory.merge snapshot) where
  toHeld := h.toHeld.merge snapshot (by simp) hoffered
  nodup_pending := nodup_pendingIds_merge h.nodup_pending snapshot
  unknown := fun _ hedge => not_knows_of_mem_pending_merge hedge

/-- **Any number of merges.** -/
theorem settled_mergeAll (snapshots : List InventorySnapshot)
    (hnames : ∀ edge ∈ offers snapshots, edge.Names names) :
    Settled (offers snapshots) (mergeAll snapshots) := by
  induction snapshots using List.reverseRecOn with
  | nil => exact settled_new
  | append_singleton snapshots snapshot ih =>
    have hoffers : offers (snapshots ++ [snapshot]) = offers snapshots ++ snapshot.dependencies := by
      simp [offers]
    rw [hoffers] at hnames ⊢
    rw [mergeAll, List.foldl_append]
    exact (ih fun edge hedge => hnames edge (List.mem_append_left _ hedge)).merge snapshot hnames

/-- The entities after any number of merges are those reported. -/
theorem mem_entities_mergeAll (snapshots : List InventorySnapshot) {id : EntityId} :
    id ∈ (mergeAll snapshots).entities ↔
      ∃ snapshot ∈ snapshots, id ∈ snapshot.entities.map ManagedEntity.id := by
  induction snapshots using List.reverseRecOn with
  | nil => simp [mergeAll, new]
  | append_singleton snapshots snapshot ih =>
    rw [mergeAll, List.foldl_append, List.foldl_cons, List.foldl_nil, ← mergeAll, mem_entities_merge, ih]
    simp only [List.mem_append, List.mem_singleton, or_and_right, exists_or, exists_eq_left]

/-- What is held back is not in the graph. -/
theorem Settled.not_mem_ids (h : Settled offered inventory)
    (hnames : ∀ edge ∈ offered, edge.Names names) {id : Uuid} (hid : id ∈ inventory.pendingIds) :
    id ∉ inventory.graph.ids := by
  intro hgraph
  obtain ⟨edge, hedge, rfl⟩ := List.mem_map.mp hid
  obtain ⟨edge', hedge', heq⟩ := List.mem_map.mp hgraph
  -- one identifier is one relation, whose ends are known or not
  have hrel := (h.edgesName (by simp) hnames edge' hedge').relation_eq
    (hnames edge (h.waits edge hedge)) heq
  have hknown := h.known edge' hedge'
  rw [knows_congr hrel, h.unknown edge hedge] at hknown
  cases hknown

/-- **Which edges are in the graph, and which are held back.** -/
theorem Settled.mem_ids (h : Settled offered inventory) (hnames : ∀ edge ∈ offered, edge.Names names)
    {id : Uuid} :
    (id ∈ inventory.graph.ids ↔ ∃ edge ∈ offered, edge.id = id ∧ inventory.knows edge = true) ∧
    (id ∈ inventory.pendingIds ↔ ∃ edge ∈ offered, edge.id = id ∧ inventory.knows edge = false) := by
  refine ⟨⟨fun hid => ?_, ?_⟩, fun hid => ?_, ?_⟩
  · obtain ⟨edge, hedge, rfl⟩ := List.mem_map.mp hid
    rcases h.origin edge hedge with hoffered | ⟨hbefore, -⟩
    · exact ⟨edge, hoffered, rfl, h.known edge hedge⟩
    · cases hbefore
  · rintro ⟨edge, hedge, rfl, hknows⟩
    exact h.landed_of_knows hnames h.unknown hedge hknows
  · obtain ⟨edge, hedge, rfl⟩ := List.mem_map.mp hid
    exact ⟨edge, h.waits edge hedge, rfl, h.unknown edge hedge⟩
  · rintro ⟨edge, hedge, rfl, hknows⟩
    refine (h.landed edge hedge).resolve_left fun hgraph => ?_
    obtain ⟨edge', hedge', heq⟩ := List.mem_map.mp hgraph
    have hrel := (h.edgesName (by simp) hnames edge' hedge').relation_eq (hnames edge hedge) heq
    rw [← knows_congr hrel, h.known edge' hedge'] at hknows
    cases hknows

/-- **The merged inventory.**  Every edge of the graph joins known entities; an edge that
was offered is in the graph or held back, never both and never twice, and in the graph
once its ends are known; the loop over the edges held back ends; and the entities, the
edges and the edges held back do not depend on the order of the snapshots. -/
theorem mergeAll_spec (names : Uuid → Relation) (snapshots : List InventorySnapshot)
    (hnames : ∀ edge ∈ offers snapshots, edge.Names names) :
    let inventory := mergeAll snapshots
    (∀ edge ∈ inventory.graph.edges,
      edge.source ∈ inventory.entities ∧ edge.target ∈ inventory.entities) ∧
    (∀ edge ∈ offers snapshots, Xor (edge.id ∈ inventory.graph.ids) (edge.id ∈ inventory.pendingIds)) ∧
    inventory.graph.ids.Nodup ∧ inventory.pendingIds.Nodup ∧
    (∀ edge ∈ offers snapshots, edge.source ∈ inventory.entities → edge.target ∈ inventory.entities →
      edge.id ∈ inventory.graph.ids) ∧
    (∀ held : Inventory, held.resolvePending.ready = [] ∧ ∀ n, held.pending.length ≤ n →
      resolvePending.rounds n held = held.resolvePending) ∧
    ∀ snapshots', snapshots'.Perm snapshots →
      (∀ id, id ∈ (mergeAll snapshots').entities ↔ id ∈ inventory.entities) ∧
      (∀ id, id ∈ (mergeAll snapshots').graph.ids ↔ id ∈ inventory.graph.ids) ∧
      ∀ id, id ∈ (mergeAll snapshots').pendingIds ↔ id ∈ inventory.pendingIds := by
  intro inventory
  have hsettled := settled_mergeAll snapshots hnames
  refine ⟨fun edge hedge => knows_iff.mp (hsettled.known edge hedge), ?_, hsettled.nodup,
    hsettled.nodup_pending, ?_, resolvePending_ends, ?_⟩
  · intro edge hedge
    rcases hsettled.landed edge hedge with hgraph | hpending
    · exact Or.inl ⟨hgraph, fun hpending => hsettled.not_mem_ids hnames hpending hgraph⟩
    · exact Or.inr ⟨hpending, hsettled.not_mem_ids hnames hpending⟩
  · intro edge hedge hsource htarget
    exact hsettled.landed_of_knows hnames hsettled.unknown hedge (knows_iff.mpr ⟨hsource, htarget⟩)
  · intro snapshots' hperm
    have hentities : ∀ id, id ∈ (mergeAll snapshots').entities ↔ id ∈ inventory.entities := by
      intro id
      rw [mem_entities_mergeAll, mem_entities_mergeAll]
      simp only [hperm.mem_iff]
    have hoffers : ∀ edge, edge ∈ offers snapshots' ↔ edge ∈ offers snapshots := by
      intro edge
      simp only [offers, List.mem_flatMap, hperm.mem_iff]
    have hnames' : ∀ edge ∈ offers snapshots', edge.Names names :=
      fun edge hedge => hnames edge ((hoffers edge).mp hedge)
    have hsettled' := settled_mergeAll snapshots' hnames'
    have hknows : ∀ edge, (mergeAll snapshots').knows edge = inventory.knows edge := by
      intro edge
      rw [Bool.eq_iff_iff, knows_iff, knows_iff, hentities, hentities]
    refine ⟨hentities, fun id => ?_, fun id => ?_⟩
    · rw [(hsettled'.mem_ids hnames').1, (hsettled.mem_ids hnames).1]
      simp only [hoffers, hknows, inventory]
    · rw [(hsettled'.mem_ids hnames').2, (hsettled.mem_ids hnames).2]
      simp only [hoffers, hknows, inventory]

/-- An edge offered before its ends are reported is in the graph in the end. -/
theorem mergeAll_spec_edge_first :
    let a := ManagedEntity.new ⟨⟨1⟩⟩ .host "node-a"
    let b := ManagedEntity.new ⟨⟨2⟩⟩ .storage "home"
    let edge := DependencyEdge.new ⟨1⟩ a.id b.id .usesStorage
    let first := (InventorySnapshot.new .manual).addDependency edge
    let second := ((InventorySnapshot.new .manual).addEntity a rfl).addEntity b rfl
    edge.id ∈ (mergeAll [first, second]).graph.ids := by
  intro a b edge first second
  have hnames : ∀ e ∈ offers [first, second], e.Names fun _ => edge.relation := by
    intro e he
    have he : e = edge.withDiscoverySource .manual := by
      simpa [offers, first, second, InventorySnapshot.new, InventorySnapshot.addDependency,
        InventorySnapshot.addEntity] using he
    rw [he]
    rfl
  obtain ⟨-, -, -, -, hknown, -⟩ := mergeAll_spec (fun _ => edge.relation) [first, second] hnames
  refine hknown (edge.withDiscoverySource .manual) ?_ ?_ ?_
  · simp [offers, first, InventorySnapshot.new, InventorySnapshot.addDependency]
  · rw [mem_entities_mergeAll]
    exact ⟨second, by simp, by decide +kernel⟩
  · rw [mem_entities_mergeAll]
    exact ⟨second, by simp, by decide +kernel⟩

end Inventory

end Sentinel
