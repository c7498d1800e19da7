import Sentinel.Inventory.Order

/-!
# Which version of an edge wins

An edge is offered again and again, and what was offered last is what is meant.  An edge
whose ends are not known yet is held back in the version that was offered first, and put
into the graph after what is offered together with its missing end.

What the offers of an edge do to it depends on its identifier alone, so an inventory is
looked at here one identifier at a time.

## Main definitions

* `Inventory.edgeOf`, `Inventory.heldOf` — the edge in the graph, and the one held back.
* `lastOffer`, `Inventory.UpToDate` — what was offered last, and that it is what is held.
* `Inventory.Renews` — when a snapshot offers no newer version of what is held back.

## Main results

* `Inventory.edgeOf_merge`, `Inventory.heldOf_merge` — **one edge of a merge**.
* `Inventory.upToDate_iff` — when the last version wins.
-/

namespace Sentinel

/-- The first edge of some identifier, and the last one. -/
def firstOf (edges : List DependencyEdge) (id : Uuid) : Option DependencyEdge :=
  edges.find? fun edge => edge.id = id

/-- The last edge of an identifier. -/
def lastOf (edges : List DependencyEdge) (id : Uuid) : Option DependencyEdge :=
  firstOf edges.reverse id

section Offers

variable {edges : List DependencyEdge} {edge : DependencyEdge} {id : Uuid}

theorem firstOf_cons (edge : DependencyEdge) (edges : List DependencyEdge) (id : Uuid) :
    firstOf (edge :: edges) id = if edge.id = id then some edge else firstOf edges id := by
  unfold firstOf
  rw [List.find?_cons]
  by_cases h : edge.id = id
  · rw [if_pos h, decide_eq_true h]
  · rw [if_neg h, decide_eq_false h]

theorem firstOf_append (edges more : List DependencyEdge) (id : Uuid) :
    firstOf (edges ++ more) id = (firstOf edges id).or (firstOf more id) := List.find?_append

theorem lastOf_append (edges more : List DependencyEdge) (id : Uuid) :
    lastOf (edges ++ more) id = (lastOf more id).or (lastOf edges id) := by
  rw [lastOf, List.reverse_append, firstOf_append]
  rfl

theorem lastOf_cons (edge : DependencyEdge) (edges : List DependencyEdge) (id : Uuid) :
    lastOf (edge :: edges) id = (lastOf edges id).or (if edge.id = id then some edge else none) := by
  rw [← List.singleton_append, lastOf_append]
  exact congrArg _ (firstOf_cons edge [] id)

theorem mem_of_firstOf (h : firstOf edges id = some edge) : edge ∈ edges ∧ edge.id = id :=
  ⟨List.mem_of_find?_eq_some h, by simpa using List.find?_some h⟩

theorem firstOf_eq_none : firstOf edges id = none ↔ ∀ edge ∈ edges, edge.id ≠ id := by
  unfold firstOf
  rw [List.find?_eq_none]
  simp only [decide_eq_true_iff, ne_eq]

/-- Where no identifier comes twice, the first edge of an identifier is the only one. -/
theorem firstOf_eq_some_iff (hnodup : (edges.map DependencyEdge.id).Nodup) :
    firstOf edges id = some edge ↔ edge ∈ edges ∧ edge.id = id := by
  refine ⟨mem_of_firstOf, ?_⟩
  rintro ⟨hmem, hid⟩
  cases hfirst : firstOf edges id with
  | none => exact absurd hid (firstOf_eq_none.mp hfirst edge hmem)
  | some first =>
    obtain ⟨hmem', hid'⟩ := mem_of_firstOf hfirst
    rw [List.inj_on_of_nodup_map hnodup hmem hmem' (hid.trans hid'.symm)]

theorem lastOf_eq_firstOf (hnodup : (edges.map DependencyEdge.id).Nodup) (id : Uuid) :
    lastOf edges id = firstOf edges id := by
  have hreverse : (edges.reverse.map DependencyEdge.id).Nodup := by
    rw [List.map_reverse]
    exact List.nodup_reverse.mpr hnodup
  apply Option.ext
  intro edge
  rw [lastOf, firstOf_eq_some_iff hreverse, firstOf_eq_some_iff hnodup, List.mem_reverse]

end Offers

/-! ### One identifier of an inventory -/

/-- The edge of the graph with an identifier, after an insertion. -/
theorem DependencyGraph.firstOf_insert {graph : DependencyGraph} (hnodup : graph.ids.Nodup)
    (edge : DependencyEdge) (id : Uuid) :
    firstOf (graph.insert edge).edges id = if edge.id = id then some edge else firstOf graph.edges id := by
  apply Option.ext
  intro edge'
  rw [firstOf_eq_some_iff (nodup_ids_insert hnodup), mem_edges_insert hnodup]
  split
  · next hid =>
    rw [Option.some.injEq]
    constructor
    · rintro ⟨rfl | ⟨-, hne⟩, hid'⟩
      · rfl
      · exact absurd (hid'.trans hid.symm) hne
    · rintro rfl
      exact ⟨Or.inl rfl, hid⟩
  · next hid =>
    rw [firstOf_eq_some_iff hnodup]
    constructor
    · rintro ⟨rfl | ⟨hmem, -⟩, hid'⟩
      · exact absurd hid' hid
      · exact ⟨hmem, hid'⟩
    · rintro ⟨hmem, hid'⟩
      exact ⟨Or.inr ⟨hmem, fun heq => hid (heq ▸ hid')⟩, hid'⟩

/-- And after some insertions. -/
theorem DependencyGraph.firstOf_foldl_insert (edges : List DependencyEdge) (id : Uuid) :
    ∀ {graph : DependencyGraph}, graph.ids.Nodup →
      firstOf (edges.foldl insert graph).edges id = (lastOf edges id).or (firstOf graph.edges id) := by
  induction edges with
  | nil => intro graph _; rfl
  | cons edge edges ih =>
    intro graph hnodup
    rw [List.foldl_cons, ih (nodup_ids_insert hnodup), firstOf_insert hnodup, lastOf_cons, Option.or_assoc]
    split
    · rfl
    · rfl

namespace Inventory

variable {inventory : Inventory} {snapshot : InventorySnapshot} {edge : DependencyEdge} {id : Uuid}
  {names : Uuid → Relation}

/-- The edge of the graph with an identifier. -/
def edgeOf (inventory : Inventory) (id : Uuid) : Option DependencyEdge := firstOf inventory.graph.edges id

/-- The edge held back with an identifier. -/
def heldOf (inventory : Inventory) (id : Uuid) : Option DependencyEdge := firstOf inventory.pending id

/-- No identifier comes twice, in the graph or among the edges held back. -/
structure Apart (inventory : Inventory) : Prop where
  graph : inventory.graph.ids.Nodup
  pending : (inventory.pending.map DependencyEdge.id).Nodup

/-- Whether both ends of a relation are known. -/
def knowsEnds (inventory : Inventory) (relation : Relation) : Bool :=
  relation.1 ∈ inventory.entities ∧ relation.2.1 ∈ inventory.entities

theorem knows_eq_knowsEnds (hedge : edge.Names names) (inventory : Inventory) :
    inventory.knows edge = inventory.knowsEnds (names edge.id) := by
  rw [hedge]
  rfl

theorem Apart.offerEdge (h : inventory.Apart) (edge : DependencyEdge) : (inventory.offerEdge edge).Apart := by
  refine ⟨?_, nodup_pendingIds_offerEdge h.pending edge⟩
  unfold Inventory.offerEdge
  split
  · exact DependencyGraph.nodup_ids_insert h.graph
  split
  · exact h.graph
  · exact h.graph

/-- One offer: the graph takes the edge, or it is held back unless one is. -/
theorem offerEdge_view (h : inventory.Apart) (edge : DependencyEdge) (id : Uuid) :
    (inventory.offerEdge edge).Apart ∧
    (inventory.offerEdge edge).edgeOf id =
      (if edge.id = id ∧ inventory.knows edge then some edge else inventory.edgeOf id) ∧
    (inventory.offerEdge edge).heldOf id =
      (if edge.id = id ∧ ¬ inventory.knows edge then (inventory.heldOf id).or (some edge)
        else inventory.heldOf id) := by
  refine ⟨h.offerEdge edge, ?_⟩
  unfold offerEdge
  split
  · next hknows =>
    constructor
    · simp only [hknows, and_true]
      exact DependencyGraph.firstOf_insert h.graph edge id
    · simp only [hknows, not_true, and_false, if_false]
      rfl
  · next hknows =>
    split
    · next hheld =>
      constructor
      · rw [if_neg fun hboth => hknows hboth.2]
      · split
        · next hboth =>
          obtain ⟨e, he, hid⟩ := List.any_eq_true.mp hheld
          have hsome : inventory.heldOf id = some e :=
            (firstOf_eq_some_iff h.pending).mpr ⟨he, (of_decide_eq_true hid).trans hboth.1⟩
          rw [hsome]
          rfl
        · rfl
    · constructor
      · rw [if_neg fun hboth => hknows hboth.2]
        rfl
      · rw [heldOf, firstOf_append, firstOf_cons]
        by_cases hid : edge.id = id
        · simp [hid, hknows, heldOf]
        · simp [hid, heldOf, firstOf]

/-- Some offers: the graph takes the last one of an identifier whose ends are known, and of
one whose ends are not the first is held back. -/
theorem offerEdges_view (id : Uuid) (known : Bool) (edges : List DependencyEdge) :
    ∀ {inventory : Inventory}, inventory.Apart →
      (∀ edge ∈ edges, edge.id = id → inventory.knows edge = known) →
      (edges.foldl offerEdge inventory).Apart ∧
      (edges.foldl offerEdge inventory).edgeOf id =
        (if known then (lastOf edges id).or (inventory.edgeOf id) else inventory.edgeOf id) ∧
      (edges.foldl offerEdge inventory).heldOf id =
        (if known then inventory.heldOf id else (inventory.heldOf id).or (firstOf edges id)) := by
  induction edges with
  | nil =>
    intro inventory h _
    refine ⟨h, ?_, ?_⟩
    · exact (ite_self _).symm
    · rw [firstOf_eq_none.mpr (List.forall_mem_nil _), Option.or_none, ite_self]
      rfl
  | cons edge edges ih =>
    intro inventory h hknown
    rw [List.forall_mem_cons] at hknown
    obtain ⟨hapart, hedge, hheld⟩ := offerEdge_view h edge id
    obtain ⟨hapart', hedge', hheld'⟩ := ih hapart fun later hlater hid => by
      rw [knows_offerEdge]
      exact hknown.2 later hlater hid
    rw [List.foldl_cons, hedge', hheld', hedge, hheld, lastOf_cons, firstOf_cons, Option.or_assoc]
    refine ⟨hapart', ?_, ?_⟩
    · by_cases hid : edge.id = id
      · rw [hknown.1 hid]
        cases known <;> simp [hid]
      · simp [hid]
    · by_cases hid : edge.id = id
      · rw [hknown.1 hid]
        cases known <;> simp [hid]
      · simp [hid]

/-- Retrying what is held back puts it into the graph if its ends are known. -/
theorem resolvePending_view (id : Uuid) (known : Bool) (h : inventory.Apart)
    (hknown : ∀ edge ∈ inventory.pending, edge.id = id → inventory.knows edge = known) :
    inventory.resolvePending.Apart ∧
    inventory.resolvePending.edgeOf id =
      (if known then (inventory.heldOf id).or (inventory.edgeOf id) else inventory.edgeOf id) ∧
    inventory.resolvePending.heldOf id = (if known then none else inventory.heldOf id) := by
  have hready : (inventory.ready.map DependencyEdge.id).Nodup := h.pending.sublist (List.filter_sublist.map _)
  have hfirst : firstOf inventory.ready id = if known then inventory.heldOf id else none := by
    apply Option.ext
    intro edge
    rw [firstOf_eq_some_iff hready, ready, List.mem_filter]
    constructor
    · rintro ⟨⟨hmem, hknows⟩, hid⟩
      rw [← hknown edge hmem hid, hknows, if_pos rfl]
      exact (firstOf_eq_some_iff h.pending).mpr ⟨hmem, hid⟩
    · intro hheld
      split at hheld
      · next hk =>
        obtain ⟨hmem, hid⟩ := mem_of_firstOf hheld
        exact ⟨⟨hmem, (hknown edge hmem hid).trans hk⟩, hid⟩
      · cases hheld
  rw [resolvePending_eq, resolveRound_eq]
  refine ⟨⟨DependencyGraph.nodup_ids_foldl_insert _ h.graph, h.pending.sublist (List.filter_sublist.map _)⟩,
    ?_, ?_⟩
  · show firstOf (inventory.ready.foldl DependencyGraph.insert inventory.graph).edges id = _
    rw [DependencyGraph.firstOf_foldl_insert _ _ h.graph, lastOf_eq_firstOf hready, hfirst]
    split
    · rfl
    · rfl
  · apply Option.ext
    intro edge
    rw [heldOf, firstOf_eq_some_iff (h.pending.sublist (List.filter_sublist.map _)), List.mem_filter]
    constructor
    · rintro ⟨⟨hmem, hwaits⟩, hid⟩
      have hnone : firstOf inventory.ready id = none := by
        refine firstOf_eq_none.mpr fun ready hready hid' => ?_
        rw [Bool.not_eq_true', List.any_eq_false] at hwaits
        exact hwaits ready hready (decide_eq_true (hid'.trans hid.symm))
      have hsome : inventory.heldOf id = some edge := (firstOf_eq_some_iff h.pending).mpr ⟨hmem, hid⟩
      rw [hfirst] at hnone
      split at hnone
      · rw [hsome] at hnone
        cases hnone
      · next hk => rw [if_neg hk, hsome]
    · intro hheld
      split at hheld
      · cases hheld
      · next hk =>
        obtain ⟨hmem, hid⟩ := mem_of_firstOf hheld
        refine ⟨⟨hmem, ?_⟩, hid⟩
        rw [Bool.not_eq_true', List.any_eq_false]
        intro ready hready hid'
        -- what is ready has other identifiers
        obtain ⟨hmem', hknows⟩ := List.mem_filter.mp hready
        exact hk ((hknown ready hmem' ((of_decide_eq_true hid').trans hid)) ▸ hknows)

/-- What is held back was held back before, or is offered. -/
theorem mem_pending_offerEdges (edges : List DependencyEdge) :
    ∀ {inventory : Inventory}, edge ∈ (edges.foldl offerEdge inventory).pending →
      edge ∈ inventory.pending ∨ edge ∈ edges := by
  induction edges with
  | nil => intro inventory h; exact Or.inl h
  | cons first edges ih =>
    intro inventory h
    rcases ih h with h | h
    · unfold offerEdge at h
      split at h
      · exact Or.inl h
      split at h
      · exact Or.inl h
      · rcases List.mem_append.mp h with h | h
        · exact Or.inl h
        · rw [List.mem_singleton.mp h]
          exact Or.inr List.mem_cons_self
    · exact Or.inr (List.mem_cons_of_mem _ h)

/-- The inventory once the entities of a snapshot are merged. -/
def withEntities (inventory : Inventory) (snapshot : InventorySnapshot) : Inventory :=
  snapshot.entities.foldl mergeEntity inventory

/-- **One edge of a merge.**  Once its ends are known, the version held back goes into the
graph, or else the last one offered; before that the first version is held back. -/
theorem merge_view (h : inventory.Apart) (id : Uuid) (hpending : ∀ edge ∈ inventory.pending, edge.Names names)
    (hoffered : ∀ edge ∈ snapshot.dependencies, edge.Names names) :
    let known := (inventory.withEntities snapshot).knowsEnds (names id)
    (inventory.merge snapshot).Apart ∧
    (inventory.merge snapshot).edgeOf id =
      (if known then ((inventory.heldOf id).or (lastOf snapshot.dependencies id)).or (inventory.edgeOf id)
        else inventory.edgeOf id) ∧
    (inventory.merge snapshot).heldOf id =
      (if known then none else (inventory.heldOf id).or (firstOf snapshot.dependencies id)) := by
  intro known
  obtain ⟨hgraph, hheld⟩ : (inventory.withEntities snapshot).graph = inventory.graph ∧
      (inventory.withEntities snapshot).pending = inventory.pending := edges_mergeEntities _ _
  have hapart : (inventory.withEntities snapshot).Apart := by
    refine ⟨?_, ?_⟩
    · rw [hgraph]
      exact h.graph
    · rw [hheld]
      exact h.pending
  have hknows : ∀ edge : DependencyEdge, edge.Names names → edge.id = id →
      (inventory.withEntities snapshot).knows edge = known := by
    intro edge hedge hid
    rw [knows_eq_knowsEnds hedge, hid]
  obtain ⟨hoffers, hgraph', hheld'⟩ := offerEdges_view id known snapshot.dependencies hapart
    fun edge hedge hid => hknows edge (hoffered edge hedge) hid
  obtain ⟨hresolved, hgraph'', hheld''⟩ := resolvePending_view id known hoffers fun edge hedge hid => by
    rw [knows, entities_offerEdges]
    refine hknows edge ?_ hid
    rcases mem_pending_offerEdges _ hedge with hedge | hedge
    · exact hpending edge (hheld ▸ hedge)
    · exact hoffered edge hedge
  refine ⟨hresolved, hgraph''.trans ?_, hheld''.trans ?_⟩
  · rw [hgraph', hheld', edgeOf, hgraph, heldOf, hheld]
    cases known
    · rfl
    · exact (Option.or_assoc ..).symm
  · rw [hheld', heldOf, hheld]
    cases known <;> rfl

/-! ### The last version -/

/-- Every edge of the graph and every edge held back is the one that was offered last, if
it was offered. -/
def UpToDate (offered : List DependencyEdge) (inventory : Inventory) : Prop :=
  ∀ edge ∈ inventory.graph.edges ++ inventory.pending, ∀ last ∈ lastOf offered edge.id, edge = last

/-- The version of an edge that is held back before all others: one from before, or while
its ends are not known the first one that the snapshot offers. -/
def heldFirst (inventory : Inventory) (snapshot : InventorySnapshot) (edge : DependencyEdge) :
    Option DependencyEdge :=
  if (inventory.withEntities snapshot).knows edge then inventory.heldOf edge.id
  else (inventory.heldOf edge.id).or (firstOf snapshot.dependencies edge.id)

/-- A snapshot offers an edge last in the version that is held back, if one is. -/
def Renews (inventory : Inventory) (snapshot : InventorySnapshot) : Prop :=
  ∀ edge ∈ snapshot.dependencies, lastOf snapshot.dependencies edge.id = some edge →
    ∀ first ∈ inventory.heldFirst snapshot edge, first = edge

theorem renews_iff : inventory.Renews snapshot ↔ ∀ id, ∀ last ∈ lastOf snapshot.dependencies id,
    ∀ first ∈ inventory.heldFirst snapshot last, first = last := by
  constructor
  · intro h id last hlast
    obtain ⟨hmem, rfl⟩ := mem_of_firstOf hlast
    exact h last (List.mem_reverse.mp hmem) hlast
  · intro h edge _ hlast
    exact h edge.id edge hlast

theorem upToDate_iff_views {offered : List DependencyEdge} (h : inventory.Apart) :
    UpToDate offered inventory ↔ ∀ id edge, (inventory.edgeOf id = some edge ∨ inventory.heldOf id = some edge) →
      ∀ last ∈ lastOf offered id, edge = last := by
  simp only [UpToDate, List.mem_append, edgeOf, heldOf, firstOf_eq_some_iff h.graph,
    firstOf_eq_some_iff h.pending, ← or_and_right]
  constructor
  · rintro huptodate id edge ⟨hmem, rfl⟩
    exact huptodate edge hmem
  · intro huptodate edge hmem
    exact huptodate edge.id edge ⟨hmem, rfl⟩

/-- **One more snapshot** leaves what is held up to date exactly if it renews it. -/
theorem upToDate_merge_iff {before offered : List DependencyEdge} (hheld : Held before offered inventory)
    (hapart : inventory.Apart) (hbefore : ∀ edge ∈ before, edge.Names names)
    (hoffered : ∀ edge ∈ offered ++ snapshot.dependencies, edge.Names names) (h : UpToDate offered inventory) :
    UpToDate (offered ++ snapshot.dependencies) (inventory.merge snapshot) ↔ inventory.Renews snapshot := by
  have hnames : ∀ edge ∈ snapshot.dependencies, edge.Names names :=
    fun edge hedge => hoffered edge (List.mem_append_right _ hedge)
  have hnames' : ∀ edge ∈ offered, edge.Names names :=
    fun edge hedge => hoffered edge (List.mem_append_left _ hedge)
  have hview := fun id => merge_view hapart id (fun edge hedge => hnames' edge (hheld.waits edge hedge)) hnames
  rw [upToDate_iff_views (hview ⟨0⟩).1, renews_iff]
  rw [upToDate_iff_views hapart] at h
  refine forall_congr' fun id => ?_
  obtain ⟨-, hgraph, hpending⟩ := hview id
  rw [hgraph, hpending, lastOf_append]
  cases hlast : lastOf snapshot.dependencies id with
  | none =>
    -- the snapshot does not offer the edge
    have hfirst : firstOf snapshot.dependencies id = none := by
      rw [lastOf, firstOf_eq_none] at hlast
      exact firstOf_eq_none.mpr fun edge hedge => hlast edge (List.mem_reverse.mpr hedge)
    refine iff_of_true (fun edge hedge last hoffer => ?_) fun last hnone => by cases hnone
    rw [Option.none_or] at hoffer
    refine h id edge ?_ last hoffer
    rw [hfirst, Option.or_none] at hedge
    split at hedge
    · rcases hedge with hedge | hedge
      · exact (Option.or_eq_some_iff.mp hedge).symm.imp And.right fun hheld => hheld
      · cases hedge
    · exact hedge
  | some last =>
    obtain ⟨hmem, hid⟩ := mem_of_firstOf hlast
    have hlastNames : last.Names names := hnames last (List.mem_reverse.mp hmem)
    have hknows : (inventory.withEntities snapshot).knows last =
        (inventory.withEntities snapshot).knowsEnds (names id) := by
      rw [knows_eq_knowsEnds hlastNames, hid]
    simp only [Option.some_or, Option.mem_some_iff, forall_eq', heldFirst, hknows, hid]
    cases hknown : (inventory.withEntities snapshot).knowsEnds (names id) with
    | true =>
      cases hheldOf : inventory.heldOf id with
      | none => simp
      | some first => simp
    | false =>
      -- an edge of the graph would have known ends
      have hnone : inventory.edgeOf id = none := by
        refine firstOf_eq_none.mpr fun edge hedge hid' => ?_
        have hknow := hheld.known edge hedge
        rw [knows_eq_knowsEnds (hheld.edgesName hbefore hnames' edge hedge), hid'] at hknow
        rw [knowsEnds, decide_eq_false_iff_not] at hknown
        rw [knowsEnds, decide_eq_true_iff] at hknow
        exact hknown ⟨mem_mergeEntities _ hknow.1, mem_mergeEntities _ hknow.2⟩
      simp [hnone]

/-! ### Over any number of snapshots -/

/-- An inventory as it is when it is loaded: nothing is held back, and the ends of every
edge are known. -/
structure Loaded (names : Uuid → Relation) (inventory : Inventory) : Prop where
  nodup : inventory.graph.ids.Nodup
  known : ∀ edge ∈ inventory.graph.edges, inventory.knows edge = true
  names : ∀ edge ∈ inventory.graph.edges, edge.Names names
  pending : inventory.pending = []

theorem offers_concat (snapshots : List InventorySnapshot) (snapshot : InventorySnapshot) :
    offers (snapshots ++ [snapshot]) = offers snapshots ++ snapshot.dependencies := by
  rw [offers, List.flatMap_append, List.flatMap_singleton]
  rfl

theorem loaded_new (names : Uuid → Relation) : new.Loaded names :=
  ⟨List.nodup_nil, List.forall_mem_nil _, List.forall_mem_nil _, rfl⟩

/-- What merges keep of an inventory. -/
theorem Loaded.merges (h : inventory.Loaded names) (snapshots : List InventorySnapshot)
    (hoffered : ∀ edge ∈ offers snapshots, edge.Names names) :
    Held inventory.graph.edges (offers snapshots) (snapshots.foldl merge inventory) ∧
      (snapshots.foldl merge inventory).Apart := by
  induction snapshots using List.reverseRecOn with
  | nil =>
    refine ⟨⟨⟨h.nodup, h.known, fun edge hedge => Or.inr ⟨hedge, List.forall_mem_nil _⟩, fun edge hedge => ?_, ?_⟩,
      List.forall_mem_nil _⟩, h.nodup, ?_⟩
    · exact List.mem_map_of_mem hedge
    · rw [List.foldl_nil, h.pending]
      exact List.forall_mem_nil _
    · rw [List.foldl_nil, h.pending]
      exact List.nodup_nil
  | append_singleton snapshots snapshot ih =>
    rw [offers_concat] at hoffered ⊢
    obtain ⟨hheld, hapart⟩ := ih fun edge hedge => hoffered edge (List.mem_append_left _ hedge)
    have hwaits : ∀ edge ∈ (snapshots.foldl merge inventory).pending, edge.Names names :=
      fun edge hedge => hoffered edge (List.mem_append_left _ (hheld.waits edge hedge))
    have hnames : ∀ edge ∈ snapshot.dependencies, edge.Names names :=
      fun edge hedge => hoffered edge (List.mem_append_right _ hedge)
    rw [List.foldl_append]
    exact ⟨hheld.merge snapshot h.names hoffered, (merge_view hapart ⟨0⟩ hwaits hnames).1⟩

/-- **The last version wins** over any number of snapshots, all along, exactly when every
snapshot offers an edge last in the version that is held back, if one is. -/
theorem upToDate_iff {start : Inventory} (hstart : start.Loaded names) (snapshots : List InventorySnapshot)
    (hoffered : ∀ edge ∈ offers snapshots, edge.Names names) :
    (∀ seen, seen <+: snapshots → UpToDate (offers seen) (seen.foldl merge start)) ↔
      ∀ seen snapshot, seen ++ [snapshot] <+: snapshots → (seen.foldl merge start).Renews snapshot := by
  have hnames : ∀ {seen : List InventorySnapshot}, seen <+: snapshots → ∀ edge ∈ offers seen, edge.Names names := by
    rintro seen ⟨rest, rfl⟩ edge hedge
    rw [offers, List.flatMap_append] at hoffered
    exact hoffered edge (List.mem_append_left _ hedge)
  have hstep : ∀ {seen : List InventorySnapshot} {snapshot : InventorySnapshot},
      seen ++ [snapshot] <+: snapshots → UpToDate (offers seen) (seen.foldl merge start) →
      (UpToDate (offers (seen ++ [snapshot])) ((seen ++ [snapshot]).foldl merge start) ↔
        (seen.foldl merge start).Renews snapshot) := by
    intro seen snapshot hseen huptodate
    have hall := hnames hseen
    obtain ⟨hheld, hapart⟩ := hstart.merges seen (hnames ((List.prefix_append _ _).trans hseen))
    rw [offers_concat] at hall ⊢
    rw [List.foldl_append]
    exact upToDate_merge_iff hheld hapart hstart.names hall huptodate
  constructor
  · intro huptodate seen snapshot hseen
    exact (hstep hseen (huptodate seen ((List.prefix_append _ _).trans hseen))).mp (huptodate _ hseen)
  · intro hrenews seen
    induction seen using List.reverseRecOn with
    | nil => intro _ edge _ last hlast; cases hlast
    | append_singleton seen snapshot ih =>
      intro hseen
      exact (hstep hseen (ih ((List.prefix_append _ _).trans hseen))).mpr (hrenews seen snapshot hseen)

end Inventory

/-! ### A client that names its storage before the storage is known -/

namespace Mounting

/-- What the one edge relates. -/
def relationOf (_ : Uuid) : Relation := (⟨⟨1⟩⟩, ⟨⟨2⟩⟩, .usesStorage)

/-- The client mounts the storage. -/
def mount : DependencyEdge := .new ⟨1⟩ ⟨⟨1⟩⟩ ⟨⟨2⟩⟩ .usesStorage

/-- A report of the client. -/
def client (edge : DependencyEdge) : InventorySnapshot :=
  ((InventorySnapshot.new .staticConfig).addEntity (.new ⟨⟨1⟩⟩ .host "client") rfl).addDependency edge

/-- A report of the storage that names the mount again. -/
def storage (edge : DependencyEdge) : InventorySnapshot :=
  ((InventorySnapshot.new .staticConfig).addEntity (.new ⟨⟨2⟩⟩ .storage "fs") rfl).addDependency edge

/-- The newer version of the mount. -/
def renewed : DependencyEdge := (mount.withCriticality .optional).withMetadata (.str "read-only")

end Mounting

namespace Inventory

open Mounting

/-- Held back and offered again in the same version. -/
theorem upToDate_iff_unchanged :
    UpToDate (offers [client mount, storage mount]) ([client mount, storage mount].foldl merge new) ∧
      (([client mount, storage mount].foldl merge new).edgeOf ⟨1⟩).map DependencyEdge.criticality = some .critical := by
  have hnames : ∀ edge ∈ offers [client mount, storage mount], edge.Names relationOf := by
    unfold DependencyEdge.Names
    decide +kernel
  refine ⟨(upToDate_iff (loaded_new _) _ hnames).mpr ?_ _ List.prefix_rfl, by decide +kernel⟩
  intro seen snapshot hseen
  obtain ⟨rest, hrest⟩ := hseen
  match seen with
  | [] =>
    cases hrest
    unfold Renews
    decide +kernel
  | [_] =>
    cases hrest
    unfold Renews
    decide +kernel
  | _ :: _ :: seen =>
    have hlength := congrArg List.length hrest
    simp at hlength

/-- Offered again with its missing end, the mount falls back to the older version. -/
theorem older_version_wins :
    let snapshots := [client mount, storage renewed]
    let merged := snapshots.foldl merge new
    (lastOf (offers snapshots) ⟨1⟩).map DependencyEdge.criticality = some .optional ∧
      (merged.edgeOf ⟨1⟩).map DependencyEdge.criticality = some .critical ∧
      ¬ UpToDate (offers snapshots) merged := by
  unfold UpToDate
  decide +kernel

end Inventory

end Sentinel
