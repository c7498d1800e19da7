import Sentinel.Inventory.Merge

/-!
# The edges of a merged inventory

Which edges the graph holds after any number of offers, and who reported them: an
edge of the graph was offered, or was there before and offered by nobody since.

An edge's identifier is derived from the relation it states, so identifiers that are
equal name one relation; `Names` says so of the edges in play.

## Main definitions

* `DependencyEdge.Names` — an identifier names the relation its edge states.
* `Inventory.Held` — what the graph and the edges held back are, given the edges there
  were before and the edges offered since.

## Main results

* `Inventory.Held.merge` — one more snapshot.
* `Inventory.Held.landed_of_knows` — an offered edge whose ends are known is in the
  graph.
-/

namespace Sentinel

/-- The relation an edge states. -/
abbrev Relation := EntityId × EntityId × DependencyType

/-- The relation an edge states. -/
def DependencyEdge.relation (edge : DependencyEdge) : Relation :=
  (edge.source, edge.target, edge.dependencyType)

/-- The edge's identifier names the relation it states. -/
def DependencyEdge.Names (names : Uuid → Relation) (edge : DependencyEdge) : Prop :=
  names edge.id = edge.relation

variable {names : Uuid → Relation} {edge edge' : DependencyEdge}

theorem DependencyEdge.Names.relation_eq (h : edge.Names names) (h' : edge'.Names names)
    (hid : edge.id = edge'.id) : edge.relation = edge'.relation := by
  rw [← h, ← h', hid]

/-! ### The edges of the graph -/

namespace DependencyGraph

variable {graph : DependencyGraph}

/-- The identifiers of the edges. -/
def ids (graph : DependencyGraph) : List Uuid := graph.edges.map DependencyEdge.id

/-- Inserting an edge adds its identifier at the end, unless it is there. -/
theorem ids_insert : (graph.insert edge).ids =
    if edge.id ∈ graph.ids then graph.ids else graph.ids ++ [edge.id] := by
  rw [insert]
  cases hplace : graph.edges.findIdx? (fun e => e.id = edge.id) with
  | none =>
    have hnew : edge.id ∉ graph.ids := by
      rintro hmem
      obtain ⟨e, he, heq⟩ := List.mem_map.mp hmem
      exact of_decide_eq_false (List.findIdx?_eq_none_iff.mp hplace e he) heq
    rw [if_neg hnew]
    exact List.map_append
  | some place =>
    obtain ⟨hlt, hid, -⟩ := List.findIdx?_eq_some_iff_getElem.mp hplace
    have hid := of_decide_eq_true hid
    have hlt' : place < graph.ids.length := by rwa [ids, List.length_map]
    have hget : graph.ids[place] = edge.id := by rw [← hid]; exact List.getElem_map _
    rw [if_pos (hget ▸ List.getElem_mem hlt'), ids, List.map_set, ← ids, ← hget,
      List.set_getElem_self]

theorem mem_ids_insert {id : Uuid} : id ∈ (graph.insert edge).ids ↔ id = edge.id ∨ id ∈ graph.ids := by
  rw [ids_insert]
  split
  · next h =>
    refine ⟨Or.inr, ?_⟩
    rintro (rfl | h')
    · exact h
    · exact h'
  · rw [List.mem_append, List.mem_singleton, or_comm]

theorem nodup_ids_insert (hnodup : graph.ids.Nodup) : (graph.insert edge).ids.Nodup := by
  rw [ids_insert]
  split
  · exact hnodup
  · next h =>
    rw [← List.concat_eq_append]
    exact hnodup.concat h

/-- The edges after an insertion: the edge, and the others. -/
theorem mem_edges_insert (hnodup : graph.ids.Nodup) :
    edge' ∈ (graph.insert edge).edges ↔ edge' = edge ∨ edge' ∈ graph.edges ∧ edge'.id ≠ edge.id := by
  rw [insert]
  cases hplace : graph.edges.findIdx? (fun e => e.id = edge.id) with
  | none =>
    rw [List.findIdx?_eq_none_iff] at hplace
    change edge' ∈ graph.edges ++ [edge] ↔ _
    rw [List.mem_append, List.mem_singleton, or_comm]
    refine or_congr_right ⟨fun h => ⟨h, ?_⟩, fun h => h.1⟩
    exact of_decide_eq_false (hplace edge' h)
  | some place =>
    obtain ⟨hlt, hid, -⟩ := List.findIdx?_eq_some_iff_getElem.mp hplace
    have hid := of_decide_eq_true hid
    change edge' ∈ graph.edges.set place edge ↔ _
    rw [List.mem_iff_getElem?]
    constructor
    · rintro ⟨i, hi⟩
      rcases eq_or_ne place i with rfl | hne
      · rw [List.getElem?_set_self hlt] at hi
        exact Or.inl (Option.some.inj hi).symm
      · rw [List.getElem?_set_ne hne] at hi
        refine Or.inr ⟨List.mem_of_getElem? hi, fun heq => hne ?_⟩
        -- two places with one identifier are one place
        obtain ⟨hilt, hi⟩ := List.getElem?_eq_some_iff.mp hi
        have hget : graph.ids[place]? = graph.ids[i]? := by
          simp only [ids, List.getElem?_map, List.getElem?_eq_getElem hlt,
            List.getElem?_eq_getElem hilt, Option.map_some, hid, hi, heq]
        exact (List.getElem?_inj (by rwa [ids, List.length_map]) hnodup).mp hget
    · rintro (rfl | ⟨hmem, hne⟩)
      · exact ⟨place, List.getElem?_set_self hlt⟩
      · obtain ⟨i, hi⟩ := List.mem_iff_getElem?.mp hmem
        refine ⟨i, ?_⟩
        rw [List.getElem?_set_ne, hi]
        rintro rfl
        rw [List.getElem?_eq_getElem hlt] at hi
        exact hne (Option.some.inj hi ▸ hid)

theorem nodup_ids_foldl_insert (edges : List DependencyEdge) :
    ∀ {graph : DependencyGraph}, graph.ids.Nodup → (edges.foldl insert graph).ids.Nodup := by
  induction edges with
  | nil => intro graph h; exact h
  | cons edge edges ih => intro graph h; exact ih (nodup_ids_insert h)

/-- The edges after insertions: the edges inserted, and the others. -/
theorem mem_edges_foldl_insert (edges : List DependencyEdge) :
    ∀ graph : DependencyGraph, graph.ids.Nodup → (edges.map DependencyEdge.id).Nodup →
      (edge ∈ (edges.foldl insert graph).edges ↔
        edge ∈ edges ∨ edge ∈ graph.edges ∧ edge.id ∉ edges.map DependencyEdge.id) := by
  induction edges with
  | nil => intro graph _ _; simp
  | cons first edges ih =>
    intro graph hgraph hnodup
    rw [List.map_cons, List.nodup_cons] at hnodup
    rw [List.foldl_cons, ih _ (nodup_ids_insert hgraph) hnodup.2, mem_edges_insert hgraph,
      List.mem_cons, List.map_cons, List.mem_cons, not_or]
    constructor
    · rintro (h | ⟨rfl | ⟨h, hne⟩, hnot⟩)
      · exact Or.inl (Or.inr h)
      · exact Or.inl (Or.inl rfl)
      · exact Or.inr ⟨h, hne, hnot⟩
    · rintro ((rfl | h) | ⟨h, hne, hnot⟩)
      · exact Or.inr ⟨Or.inl rfl, hnodup.1⟩
      · exact Or.inl h
      · exact Or.inr ⟨Or.inr ⟨h, hne⟩, hnot⟩

theorem mem_ids_foldl_insert {id : Uuid} (edges : List DependencyEdge) :
    ∀ graph : DependencyGraph, id ∈ (edges.foldl insert graph).ids ↔
      id ∈ edges.map DependencyEdge.id ∨ id ∈ graph.ids := by
  induction edges with
  | nil => intro graph; simp
  | cons edge edges ih =>
    intro graph
    rw [List.foldl_cons, ih, mem_ids_insert, List.map_cons, List.mem_cons, or_left_comm, or_assoc]

end DependencyGraph

/-! ### Offers -/

namespace Inventory

variable {inventory : Inventory} {before offered : List DependencyEdge}

theorem knows_iff : inventory.knows edge = true ↔
    edge.source ∈ inventory.entities ∧ edge.target ∈ inventory.entities := decide_eq_true_iff

theorem knows_congr (h : edge.relation = edge'.relation) :
    inventory.knows edge = inventory.knows edge' := by
  obtain ⟨hsource, htarget, -⟩ : edge.source = edge'.source ∧ edge.target = edge'.target ∧ _ := by
    simpa only [DependencyEdge.relation, Prod.mk.injEq] using h
  rw [knows, knows, hsource, htarget]

theorem knows_offerEdge : (inventory.offerEdge edge').knows edge = inventory.knows edge := by
  rw [knows, knows, entities_offerEdge]

theorem mem_entities_markAbsentAsStale {snapshot : InventorySnapshot} {id : EntityId} :
    id ∈ (inventory.markAbsentAsStale snapshot).entities ↔ id ∈ inventory.entities :=
  Std.ExtTreeMap.mem_map

theorem knows_markAbsentAsStale {snapshot : InventorySnapshot} :
    (inventory.markAbsentAsStale snapshot).knows edge = inventory.knows edge := by
  simp only [knows, mem_entities_markAbsentAsStale]

/-- Offering edges whose ends are known only adds them to the graph. -/
theorem offerEdges_of_knows (edges : List DependencyEdge) :
    ∀ inventory : Inventory, (∀ edge ∈ edges, inventory.knows edge = true) →
      edges.foldl offerEdge inventory =
        { inventory with graph := edges.foldl DependencyGraph.insert inventory.graph } := by
  induction edges with
  | nil => intro inventory _; rfl
  | cons edge edges ih =>
    intro inventory h
    rw [List.forall_mem_cons] at h
    have hoffer : inventory.offerEdge edge = inventory.insertDependency edge := by
      rw [offerEdge, if_pos h.1]
    rw [List.foldl_cons, hoffer, ih]
    · rfl
    · exact h.2

/-- A round puts what is ready into the graph. -/
theorem resolveRound_eq (inventory : Inventory) : inventory.resolveRound =
    { inventory with
      graph := inventory.ready.foldl DependencyGraph.insert inventory.graph
      pending := inventory.pending.filter fun e => !inventory.ready.any fun r => r.id = e.id } :=
  offerEdges_of_knows _ _ fun _ h => (List.mem_filter.mp h).2

/-- A round leaves nothing ready. -/
theorem ready_resolveRound (inventory : Inventory) : inventory.resolveRound.ready = [] := by
  rw [resolveRound_eq, ready, List.filter_eq_nil_iff]
  intro edge hedge hknows
  obtain ⟨hpending, hnot⟩ := List.mem_filter.mp hedge
  have hmem : edge ∈ inventory.ready := List.mem_filter.mpr ⟨hpending, hknows⟩
  have hany : inventory.ready.any (fun r => r.id = edge.id) = true :=
    List.any_eq_true.mpr ⟨edge, hmem, decide_eq_true rfl⟩
  rw [hany] at hnot
  exact Bool.false_ne_true hnot

/-- The loop ends after one round. -/
theorem resolvePending_eq (inventory : Inventory) :
    inventory.resolvePending = inventory.resolveRound := by
  have hdone : ∀ n (inventory : Inventory), inventory.ready = [] →
      resolvePending.rounds n inventory = inventory := by
    intro n inventory h
    cases n with
    | zero => rfl
    | succ n => rw [resolvePending.rounds, if_pos h]
  have hsame : inventory.ready = [] → inventory.resolveRound = inventory := by
    intro h
    rw [resolveRound, h]
    simp
  rw [resolvePending]
  by_cases h : inventory.ready = []
  · rw [hdone _ _ h, hsame h]
  · obtain ⟨n, hn⟩ : ∃ n, inventory.pending.length = n + 1 := by
      refine Nat.exists_eq_succ_of_ne_zero fun hzero => h ?_
      rw [ready, List.length_eq_zero_iff.mp hzero, List.filter_nil]
    rw [hn, resolvePending.rounds, if_neg h, hdone _ _ (ready_resolveRound inventory)]

/-! ### What the graph holds -/

/-- The graph after offers: every edge was offered, or was there before and nobody
offered it; what was there before is still there; the edges held back were offered. -/
structure Placed (before offered : List DependencyEdge) (inventory : Inventory) : Prop where
  /-- One edge for an identifier. -/
  nodup : inventory.graph.ids.Nodup
  /-- The graph never references an unknown entity. -/
  known : ∀ edge ∈ inventory.graph.edges, inventory.knows edge = true
  /-- Where an edge of the graph comes from. -/
  origin : ∀ edge ∈ inventory.graph.edges,
    edge ∈ offered ∨ edge ∈ before ∧ ∀ f ∈ offered, f.id ≠ edge.id
  /-- No relation is lost. -/
  kept : ∀ edge ∈ before, edge.id ∈ inventory.graph.ids
  /-- Where an edge held back comes from. -/
  waits : ∀ edge ∈ inventory.pending, edge ∈ offered

/-- And every edge offered is in the graph or held back. -/
structure Held (before offered : List DependencyEdge) (inventory : Inventory) : Prop
    extends Placed before offered inventory where
  /-- No offer is lost. -/
  landed : ∀ edge ∈ offered,
    edge.id ∈ inventory.graph.ids ∨ edge.id ∈ inventory.pending.map DependencyEdge.id

/-- The edges of the graph name their relations, if those they come from do. -/
theorem Placed.edgesName (h : Placed before offered inventory)
    (hbefore : ∀ edge ∈ before, edge.Names names) (hoffered : ∀ edge ∈ offered, edge.Names names) :
    ∀ edge ∈ inventory.graph.edges, edge.Names names := by
  intro edge hedge
  rcases h.origin edge hedge with hmem | ⟨hmem, -⟩
  · exact hoffered edge hmem
  · exact hbefore edge hmem

/-- One more offer. -/
theorem Placed.offerEdge (h : Placed before offered inventory)
    (hbefore : ∀ edge ∈ before, edge.Names names) (hoffered : ∀ edge ∈ offered, edge.Names names)
    (hedge : edge.Names names) : Placed before (offered ++ [edge]) (inventory.offerEdge edge) := by
  by_cases hknows : inventory.knows edge = true
  · -- the edge is the graph's edge for its identifier now
    have hoffer : inventory.offerEdge edge = inventory.insertDependency edge := by
      rw [Inventory.offerEdge, if_pos hknows]
    rw [hoffer]
    refine ⟨DependencyGraph.nodup_ids_insert h.nodup, ?_, ?_, ?_, ?_⟩
    · intro e he
      rcases (DependencyGraph.mem_edges_insert h.nodup).mp he with rfl | ⟨he, -⟩
      · exact hknows
      · exact h.known e he
    · intro e he
      rcases (DependencyGraph.mem_edges_insert h.nodup).mp he with rfl | ⟨he, hne⟩
      · exact Or.inl (List.mem_append_right _ List.mem_cons_self)
      · rcases h.origin e he with hmem | ⟨hmem, hnone⟩
        · exact Or.inl (List.mem_append_left _ hmem)
        · refine Or.inr ⟨hmem, fun f hf => ?_⟩
          rcases List.mem_append.mp hf with hf | hf
          · exact hnone f hf
          · rw [List.mem_singleton.mp hf]
            exact hne.symm
    · exact fun e he => DependencyGraph.mem_ids_insert.mpr (Or.inr (h.kept e he))
    · exact fun e he => List.mem_append_left _ (h.waits e he)
  · -- an edge of the graph with its identifier would have known ends
    have hgraph : (inventory.offerEdge edge).graph = inventory.graph := by
      rw [Inventory.offerEdge, if_neg hknows]
      split <;> rfl
    have hne : ∀ e ∈ inventory.graph.edges, edge.id ≠ e.id := by
      intro e he heq
      have hrel := hedge.relation_eq (h.edgesName hbefore hoffered e he) heq
      exact hknows ((knows_congr hrel).trans (h.known e he))
    refine ⟨by rw [hgraph]; exact h.nodup, ?_, ?_, by rw [hgraph]; exact h.kept, ?_⟩
    · intro e he
      rw [hgraph] at he
      rw [knows_offerEdge]
      exact h.known e he
    · intro e he
      rw [hgraph] at he
      rcases h.origin e he with hmem | ⟨hmem, hnone⟩
      · exact Or.inl (List.mem_append_left _ hmem)
      · refine Or.inr ⟨hmem, fun f hf => ?_⟩
        rcases List.mem_append.mp hf with hf | hf
        · exact hnone f hf
        · rw [List.mem_singleton.mp hf]
          exact hne e he
    · intro e he
      rw [Inventory.offerEdge, if_neg hknows] at he
      split at he
      · exact List.mem_append_left _ (h.waits e he)
      · rcases List.mem_append.mp he with he | he
        · exact List.mem_append_left _ (h.waits e he)
        · exact List.mem_append_right _ he

/-- An offer loses no relation and nothing held back. -/
theorem ids_subset_offerEdge {id : Uuid}
    (h : id ∈ inventory.graph.ids ∨ id ∈ inventory.pending.map DependencyEdge.id ∨ id = edge.id) :
    id ∈ (inventory.offerEdge edge).graph.ids ∨
      id ∈ (inventory.offerEdge edge).pending.map DependencyEdge.id := by
  rw [Inventory.offerEdge]
  split
  · rcases h with h | h | h
    · exact Or.inl (DependencyGraph.mem_ids_insert.mpr (Or.inr h))
    · exact Or.inr h
    · exact Or.inl (DependencyGraph.mem_ids_insert.mpr (Or.inl h))
  · split
    · next hany =>
      rcases h with h | h | rfl
      · exact Or.inl h
      · exact Or.inr h
      · obtain ⟨e, he, heq⟩ := List.any_eq_true.mp hany
        exact Or.inr (List.mem_map.mpr ⟨e, he, of_decide_eq_true heq⟩)
    · rcases h with h | h | rfl
      · exact Or.inl h
      · exact Or.inr (by rw [List.map_append]; exact List.mem_append_left _ h)
      · exact Or.inr (by rw [List.map_append]; exact List.mem_append_right _ List.mem_cons_self)

theorem Held.offerEdge (h : Held before offered inventory)
    (hbefore : ∀ edge ∈ before, edge.Names names) (hoffered : ∀ edge ∈ offered, edge.Names names)
    (hedge : edge.Names names) : Held before (offered ++ [edge]) (inventory.offerEdge edge) where
  toPlaced := h.toPlaced.offerEdge hbefore hoffered hedge
  landed := by
    intro e he
    refine ids_subset_offerEdge ?_
    rcases List.mem_append.mp he with he | he
    · rcases h.landed e he with hmem | hmem
      · exact Or.inl hmem
      · exact Or.inr (Or.inl hmem)
    · exact Or.inr (Or.inr (congrArg DependencyEdge.id (List.mem_singleton.mp he)))

theorem Held.offerEdges (hbefore : ∀ edge ∈ before, edge.Names names) (edges : List DependencyEdge) :
    ∀ {offered : List DependencyEdge} {inventory : Inventory}, Held before offered inventory →
      (∀ edge ∈ offered ++ edges, edge.Names names) →
      Held before (offered ++ edges) (edges.foldl Inventory.offerEdge inventory) := by
  induction edges with
  | nil =>
    intro offered inventory h _
    rwa [List.append_nil]
  | cons edge edges ih =>
    intro offered inventory h hnames
    have hstep := h.offerEdge hbefore (fun e he => hnames e (List.mem_append_left _ he))
      (hnames edge (List.mem_append_right _ List.mem_cons_self))
    have hrest := ih hstep (by simpa using hnames)
    rwa [List.append_assoc, List.singleton_append] at hrest

/-- Offering again what was offered already places it anew. -/
theorem Placed.offerAgain (hbefore : ∀ edge ∈ before, edge.Names names)
    (hoffered : ∀ edge ∈ offered, edge.Names names) (edges : List DependencyEdge) :
    ∀ {inventory : Inventory}, Placed before offered inventory → (∀ edge ∈ edges, edge ∈ offered) →
      Placed before offered (edges.foldl Inventory.offerEdge inventory) := by
  induction edges with
  | nil => intro inventory h _; exact h
  | cons edge edges ih =>
    intro inventory h hmem
    rw [List.forall_mem_cons] at hmem
    have hstep := h.offerEdge hbefore hoffered (hoffered edge hmem.1)
    have hsame : ∀ e, e ∈ offered ++ [edge] ↔ e ∈ offered := by
      intro e
      rw [List.mem_append, List.mem_singleton]
      exact ⟨fun he => he.elim id fun heq => heq ▸ hmem.1, Or.inl⟩
    refine ih ⟨hstep.nodup, hstep.known, ?_, hstep.kept, ?_⟩ hmem.2
    · intro e he
      simpa only [hsame] using hstep.origin e he
    · intro e he
      exact (hsame e).mp (hstep.waits e he)

theorem Held.resolvePending (h : Held before offered inventory)
    (hbefore : ∀ edge ∈ before, edge.Names names) (hoffered : ∀ edge ∈ offered, edge.Names names) :
    Held before offered inventory.resolvePending := by
  have hready : ∀ edge ∈ inventory.ready, edge ∈ inventory.pending :=
    fun edge hedge => List.mem_of_mem_filter hedge
  rw [resolvePending_eq]
  refine ⟨?_, ?_⟩
  · refine Placed.offerAgain hbefore hoffered inventory.ready ?_
      fun edge hedge => h.waits edge (hready edge hedge)
    exact ⟨h.nodup, h.known, h.origin, h.kept, fun e he => h.waits e (List.mem_of_mem_filter he)⟩
  · intro edge hedge
    rw [resolveRound_eq]
    rcases h.landed edge hedge with hmem | hmem
    · exact Or.inl ((DependencyGraph.mem_ids_foldl_insert _ _).mpr (Or.inr hmem))
    -- held back: ready now, or still held back
    obtain ⟨e, he, heq⟩ := List.mem_map.mp hmem
    by_cases hany : inventory.ready.any (fun r => r.id = e.id) = true
    · obtain ⟨r, hr, hid⟩ := List.any_eq_true.mp hany
      refine Or.inl ((DependencyGraph.mem_ids_foldl_insert _ _).mpr (Or.inl ?_))
      exact List.mem_map.mpr ⟨r, hr, (of_decide_eq_true hid).trans heq⟩
    · exact Or.inr (List.mem_map.mpr ⟨e, List.mem_filter.mpr ⟨he, by simp [hany]⟩, heq⟩)

/-- New entities take nothing away from what is known. -/
theorem mem_mergeEntities {id : EntityId} (entities : List ManagedEntity) :
    ∀ {inventory : Inventory}, id ∈ inventory.entities →
      id ∈ (entities.foldl mergeEntity inventory).entities := by
  induction entities with
  | nil => intro inventory h; exact h
  | cons entity entities ih =>
    intro inventory h
    refine ih ?_
    rw [Std.ExtTreeMap.mem_iff_isSome_getElem?] at h ⊢
    have hget := get_mergeEntity inventory entity id
    rw [get] at hget
    rw [hget]
    split
    · cases hold : inventory.get id with
      | none => rfl
      | some e => rfl
    · exact h

theorem edges_mergeEntities (entities : List ManagedEntity) :
    ∀ inventory : Inventory, (entities.foldl mergeEntity inventory).graph = inventory.graph ∧
      (entities.foldl mergeEntity inventory).pending = inventory.pending := by
  induction entities with
  | nil => intro inventory; exact ⟨rfl, rfl⟩
  | cons entity entities ih =>
    intro inventory
    have hstep : (inventory.mergeEntity entity).graph = inventory.graph ∧
        (inventory.mergeEntity entity).pending = inventory.pending := by
      rw [mergeEntity]
      split <;> exact ⟨rfl, rfl⟩
    rw [List.foldl_cons, (ih _).1, (ih _).2]
    exact hstep

theorem Held.mergeEntities (h : Held before offered inventory) (entities : List ManagedEntity) :
    Held before offered (entities.foldl mergeEntity inventory) := by
  obtain ⟨hgraph, hpending⟩ := edges_mergeEntities entities inventory
  refine ⟨⟨?_, ?_, ?_, ?_, ?_⟩, ?_⟩
  · rw [hgraph]
    exact h.nodup
  · intro edge hedge
    rw [hgraph] at hedge
    obtain ⟨hsource, htarget⟩ := knows_iff.mp (h.known edge hedge)
    exact knows_iff.mpr ⟨mem_mergeEntities _ hsource, mem_mergeEntities _ htarget⟩
  · rw [hgraph]
    exact h.origin
  · rw [hgraph]
    exact h.kept
  · rw [hpending]
    exact h.waits
  · rw [hgraph, hpending]
    exact h.landed

/-- Marking entities stale leaves the edges alone. -/
theorem Held.markAbsentAsStale (h : Held before offered inventory) (snapshot : InventorySnapshot) :
    Held before offered (inventory.markAbsentAsStale snapshot) := by
  refine ⟨⟨h.nodup, fun edge hedge => ?_, h.origin, h.kept, h.waits⟩, h.landed⟩
  rw [knows_markAbsentAsStale]
  exact h.known edge hedge

/-- **One more snapshot.** -/
theorem Held.merge (h : Held before offered inventory) (snapshot : InventorySnapshot)
    (hbefore : ∀ edge ∈ before, edge.Names names)
    (hoffered : ∀ edge ∈ offered ++ snapshot.dependencies, edge.Names names) :
    Held before (offered ++ snapshot.dependencies) (inventory.merge snapshot) := by
  have hoffer := (h.mergeEntities snapshot.entities).offerEdges hbefore snapshot.dependencies hoffered
  exact hoffer.resolvePending hbefore hoffered

/-- After a merge nothing held back is ready. -/
theorem not_knows_of_mem_pending_merge {snapshot : InventorySnapshot}
    (h : edge ∈ (inventory.merge snapshot).pending) :
    (inventory.merge snapshot).knows edge = false := by
  rw [merge, resolvePending_eq] at h ⊢
  have hready := ready_resolveRound
    (snapshot.dependencies.foldl Inventory.offerEdge (snapshot.entities.foldl mergeEntity inventory))
  rw [ready, List.filter_eq_nil_iff] at hready
  exact Bool.eq_false_iff.mpr (hready edge h)

/-- An offered edge whose ends are known is in the graph, once nothing held back is
ready. -/
theorem Held.landed_of_knows (h : Held before offered inventory)
    (hoffered : ∀ edge ∈ offered, edge.Names names)
    (hpending : ∀ edge ∈ inventory.pending, inventory.knows edge = false)
    (hedge : edge ∈ offered) (hknows : inventory.knows edge = true) :
    edge.id ∈ inventory.graph.ids := by
  rcases h.landed edge hedge with hmem | hmem
  · exact hmem
  obtain ⟨e, he, heq⟩ := List.mem_map.mp hmem
  have hrel := (hoffered e (h.waits e he)).relation_eq (hoffered edge hedge) heq
  rw [← knows_congr hrel, hpending e he] at hknows
  exact absurd hknows Bool.false_ne_true

end Inventory

end Sentinel
