import Sentinel.Controller.Discovery

/-!
# Which entities are still there

An entity that a snapshot of the cycle lists is active.  One that no snapshot lists
becomes stale only through the snapshot of its one and only source: with two sources
on record, each of them is taken to be kept alive by the other, whether or not the
other still reports it.

## Main definitions

* `Cycle.Lists` — an entity is in some snapshot of a cycle.
* `ManagedEntity.Sole` — an entity has one source and no other.
* `Tables.Lived` — what holds of the lifecycle states in every run.

## Main results

* `lifecycle_foldl_seen_of_lists`, `foldl_seen_of_not_lists` — the two fates of an
  entity in a cycle.
* `Tables.Lived.run` — a stale entity has one source.
* `Cycle.active_iff_listed_iff` — when a cycle leaves the lifecycle that its
  snapshots call for.
-/

namespace Sentinel

variable {id : EntityId} {source : DiscoverySource} {snapshot : InventorySnapshot}
  {snapshots : List InventorySnapshot} {entity e : ManagedEntity} {reports : List ManagedEntity}

/-! ### Lists and sole sources -/

/-- A snapshot lists an entity. -/
def InventorySnapshot.Lists (snapshot : InventorySnapshot) (id : EntityId) : Prop :=
  id ∈ snapshot.entities.map ManagedEntity.id

instance (snapshot : InventorySnapshot) (id : EntityId) : Decidable (snapshot.Lists id) :=
  inferInstanceAs (Decidable (id ∈ _))

/-- Some snapshot of a cycle lists an entity. -/
def Cycle.Lists (cycle : Cycle) (id : EntityId) : Prop :=
  ∃ snapshot ∈ cycle.snapshots, snapshot.Lists id

/-- A list of sources names one source and no other. -/
def Sole (sources : List DiscoverySource) (source : DiscoverySource) : Prop :=
  source ∈ sources ∧ ∀ s ∈ sources, s = source

instance (sources : List DiscoverySource) (source : DiscoverySource) :
    Decidable (Sole sources source) :=
  inferInstanceAs (Decidable (_ ∧ _))

theorem InventorySnapshot.reportsOf_eq_nil_iff :
    snapshot.reportsOf id = [] ↔ ¬ snapshot.Lists id := by
  simp [InventorySnapshot.reportsOf, InventorySnapshot.Lists]

theorem Sole.eq {sources : List DiscoverySource} {s s' : DiscoverySource} (h : Sole sources s)
    (h' : Sole sources s') : s = s' :=
  h'.2 s h.1

/-- Marking, in terms of the sole source. -/
theorem Inventory.markStale_eq (snapshot : InventorySnapshot) (entity : ManagedEntity) :
    markStale snapshot entity =
      if Sole entity.discoverySources snapshot.source ∧ ¬ snapshot.Lists entity.id ∧
        entity.lifecycleState = .active then { entity with lifecycleState := .stale } else entity := by
  rw [markStale]
  refine if_congr ?_ rfl rfl
  simp [Sole, InventorySnapshot.Lists, and_assoc]

/-! ### Reports of one entity -/

/-- Reports are taken in: the identifier and the sources on record stay, and the
entity is active. -/
theorem foldl_absorb_of_ne_nil (reports : List ManagedEntity) :
    ∀ {entity : Option ManagedEntity}, reports ≠ [] →
      (∀ report ∈ reports, report.id = id ∧ source ∈ report.discoverySources ∧
        report.lifecycleState = .active) → (∀ e ∈ entity, e.id = id) →
      ∃ e, reports.foldl ManagedEntity.absorb entity = some e ∧ e.id = id ∧
        source ∈ e.discoverySources ∧ e.lifecycleState = .active := by
  induction reports using List.reverseRecOn with
  | nil => intro entity h; exact absurd rfl h
  | append_singleton reports report ih =>
    intro entity _ hreports hid
    obtain ⟨hrid, hsource, hactive⟩ := hreports report (by simp)
    have hrest : ∀ e ∈ reports.foldl ManagedEntity.absorb entity, e.id = id := by
      intro e he
      by_cases hnil : reports = []
      · rw [hnil] at he
        exact hid e he
      · obtain ⟨e', he', hid', -⟩ := ih hnil (fun r hr => hreports r (List.mem_append_left _ hr)) hid
        rw [he', Option.mem_some_iff] at he
        rw [← he, hid']
    rw [List.foldl_append, List.foldl_cons, List.foldl_nil]
    cases hfold : reports.foldl ManagedEntity.absorb entity with
    | none => exact ⟨report, rfl, hrid, hsource, hactive⟩
    | some e =>
      refine ⟨e.mergeInto report, rfl, hrest e (by rw [hfold]; rfl), ?_, rfl⟩
      exact (ManagedEntity.mem_addSources _ _).mpr (Or.inr hsource)

/-! ### One entity over snapshots -/

namespace InventorySnapshot

/-- The reports of a snapshot that lists an entity. -/
theorem foldl_absorb_of_lists (hlists : snapshot.Lists id) {entity : Option ManagedEntity}
    (hid : ∀ e ∈ entity, e.id = id) :
    ∃ e, (snapshot.reportsOf id).foldl ManagedEntity.absorb entity = some e ∧ e.id = id ∧
      snapshot.source ∈ e.discoverySources ∧ e.lifecycleState = .active := by
  have hne : snapshot.reportsOf id ≠ [] := fun h => reportsOf_eq_nil_iff.mp h hlists
  refine foldl_absorb_of_ne_nil _ hne (fun report hreport => ?_) hid
  obtain ⟨hmem, heq⟩ := List.mem_filter.mp hreport
  exact ⟨of_decide_eq_true heq, snapshot.reported report hmem⟩

/-- A snapshot that lists an entity leaves it active, with its source on record. -/
theorem seen_of_lists (hlists : snapshot.Lists id) {entity : Option ManagedEntity}
    (hid : ∀ e ∈ entity, e.id = id) :
    ∃ e, snapshot.seen id entity = some e ∧ e.id = id ∧ snapshot.source ∈ e.discoverySources ∧
      e.lifecycleState = .active := by
  obtain ⟨e, hfold, heid, hsource, hactive⟩ := foldl_absorb_of_lists hlists hid
  refine ⟨e, ?_, heid, hsource, hactive⟩
  rw [seen, hfold, Option.map_some, Inventory.markStale_eq, if_neg]
  rintro ⟨-, hnot, -⟩
  rw [heid] at hnot
  exact hnot hlists

/-- A snapshot that does not list an entity marks it at most. -/
theorem seen_of_not_lists (hlists : ¬ snapshot.Lists id) (entity : Option ManagedEntity) :
    snapshot.seen id entity = entity.map (Inventory.markStale snapshot) := by
  rw [seen, reportsOf_eq_nil_iff.mpr hlists, List.foldl_nil]

theorem id_seen {entity : Option ManagedEntity} (hid : ∀ e ∈ entity, e.id = id) :
    ∀ e ∈ snapshot.seen id entity, e.id = id := by
  intro e he
  by_cases hlists : snapshot.Lists id
  · obtain ⟨e', he', heid, -⟩ := seen_of_lists hlists hid
    rw [he', Option.mem_some_iff] at he
    rw [← he, heid]
  · rw [seen_of_not_lists hlists, Option.mem_map] at he
    obtain ⟨e', he', rfl⟩ := he
    rw [Inventory.markStale_id, hid e' he']

end InventorySnapshot

theorem id_foldl_seen (snapshots : List InventorySnapshot) :
    ∀ {entity : Option ManagedEntity}, (∀ e ∈ entity, e.id = id) →
      ∀ e ∈ snapshots.foldl (fun entity s => s.seen id entity) entity, e.id = id := by
  induction snapshots with
  | nil => intro entity h; exact h
  | cons snapshot snapshots ih => intro entity h; exact ih (InventorySnapshot.id_seen h)

/-- **An entity some snapshot lists** is active after all of them: a later snapshot that
does not list it is not its sole source. -/
theorem lifecycle_foldl_seen_of_lists (hnodup : (snapshots.map InventorySnapshot.source).Nodup)
    {entity : Option ManagedEntity} (hid : ∀ e ∈ entity, e.id = id)
    (hlists : ∃ snapshot ∈ snapshots, snapshot.Lists id) :
    ∃ e, snapshots.foldl (fun entity s => s.seen id entity) entity = some e ∧
      e.lifecycleState = .active ∧
      ∃ snapshot ∈ snapshots, snapshot.source ∈ e.discoverySources := by
  induction snapshots using List.reverseRecOn with
  | nil =>
    obtain ⟨snapshot, hmem, -⟩ := hlists
    exact absurd hmem List.not_mem_nil
  | append_singleton snapshots last ih =>
    rw [List.foldl_append, List.foldl_cons, List.foldl_nil]
    by_cases hlast : last.Lists id
    · obtain ⟨e, he, -, hsource, hactive⟩ :=
        InventorySnapshot.seen_of_lists hlast (id_foldl_seen snapshots hid)
      exact ⟨e, he, hactive, last, by simp, hsource⟩
    · -- the entity is active by then, with the source of the snapshot that listed it
      rw [List.map_append, List.nodup_append] at hnodup
      have hbefore : ∃ snapshot ∈ snapshots, snapshot.Lists id := by
        obtain ⟨snapshot, hmem, h⟩ := hlists
        rcases List.mem_append.mp hmem with hmem | hmem
        · exact ⟨snapshot, hmem, h⟩
        · rw [List.mem_singleton.mp hmem] at h
          exact absurd h hlast
      obtain ⟨e, he, hactive, snapshot, hmem, hsource⟩ := ih hnodup.1 hbefore
      refine ⟨e, ?_, hactive, snapshot, List.mem_append_left _ hmem, hsource⟩
      rw [InventorySnapshot.seen_of_not_lists hlast, he, Option.map_some, Inventory.markStale_eq, if_neg]
      rintro ⟨hsole, -⟩
      exact hnodup.2.2 _ (List.mem_map_of_mem hmem) _ (List.mem_map_of_mem List.mem_cons_self)
        (hsole.2 _ hsource)

/-- **An entity no snapshot lists** becomes stale through its sole source, if it was
active, and is otherwise left alone. -/
theorem foldl_seen_of_not_lists (hlists : ∀ snapshot ∈ snapshots, ¬ snapshot.Lists id) :
    ∀ entity : ManagedEntity, entity.id = id →
      snapshots.foldl (fun entity s => s.seen id entity) (some entity) =
        some (if (∃ snapshot ∈ snapshots, Sole entity.discoverySources snapshot.source) ∧
          entity.lifecycleState = .active then { entity with lifecycleState := .stale } else entity) := by
  induction snapshots with
  | nil => intro entity _; simp
  | cons snapshot snapshots ih =>
    intro entity hid
    rw [List.forall_mem_cons] at hlists
    rw [List.foldl_cons, InventorySnapshot.seen_of_not_lists hlists.1, Option.map_some,
      Inventory.markStale_eq]
    by_cases hactive : entity.lifecycleState = .active
    · by_cases hsole : Sole entity.discoverySources snapshot.source
      · -- marked here; what comes after finds it stale
        rw [if_pos ⟨hsole, by rw [hid]; exact hlists.1, hactive⟩,
          if_pos ⟨⟨snapshot, List.mem_cons_self, hsole⟩, hactive⟩]
        refine (ih hlists.2 { entity with lifecycleState := .stale } hid).trans ?_
        rw [if_neg (by simp)]
      · rw [if_neg fun h => hsole h.1, ih hlists.2 entity hid]
        simp [hsole]
    · rw [if_neg fun h => hactive h.2.2, ih hlists.2 entity hid]
      simp [hactive]

/-! ### The rows of a cycle -/

namespace Tables

variable {tables : Tables} {cycle : Cycle} {row : EntityRow} {α : Type*}

/-- Reconciling capabilities leaves the other columns. -/
theorem column_foldl_reconciled (column : EntityRow → α)
    (hcolumn : ∀ row source capabilities, column (row.reconcile source capabilities) = column row)
    (snapshots : List InventorySnapshot) (id : EntityId) :
    ∀ row, column (snapshots.foldl (fun row s => reconciled s id row) row) = column row := by
  have hreports : ∀ (source : DiscoverySource) (reports : List ManagedEntity) (row : EntityRow),
      column (reports.foldl (fun row entity => row.reconcile source entity.capabilities) row) =
        column row := by
    intro source reports
    induction reports with
    | nil => intro row; rfl
    | cons report reports ih =>
      intro row
      rw [List.foldl_cons, ih, hcolumn]
  induction snapshots with
  | nil => intro row; rfl
  | cons snapshot snapshots ih =>
    intro row
    rw [List.foldl_cons, ih, reconciled, hreports]

/-- The columns of the row an entity leaves. -/
theorem saved_some (row : Option EntityRow) (e : ManagedEntity) (snapshots : List InventorySnapshot)
    (id : EntityId) : ∃ row', saved row (some e) snapshots id = some row' ∧
      row'.lifecycleState = e.lifecycleState ∧ row'.labels = e.labels ∧
      ∀ source, source ∈ row'.sources ↔
        (∃ r ∈ row, source ∈ r.sources) ∨ source ∈ e.discoverySources := by
  refine ⟨_, rfl, ?_, ?_, ?_⟩
  · rw [column_foldl_reconciled EntityRow.lifecycleState fun _ _ _ => rfl]
    rfl
  · rw [column_foldl_reconciled EntityRow.labels fun _ _ _ => rfl]
    rfl
  · intro source
    rw [column_foldl_reconciled EntityRow.sources fun _ _ _ => rfl]
    refine (ManagedEntity.mem_addSources _ _).trans (or_congr_left ?_)
    cases row <;> simp

theorem id_toEntity (row : Option EntityRow) :
    ∀ e ∈ row.map fun row => row.toEntity id, e.id = id := by
  intro e he
  obtain ⟨row, -, rfl⟩ := Option.mem_map.mp he
  rfl

/-- A cycle that lists an entity leaves it active. -/
theorem row_of_lists (tables : Tables) (hlists : cycle.Lists id) :
    ∃ row', (tables.discoverOnce cycle).entities[id]? = some row' ∧
      row'.lifecycleState = .active ∧ row'.sources ≠ [] := by
  have hnodup : (cycle.snapshots.map InventorySnapshot.source).Nodup := cycle.distinct
  obtain ⟨e, he, hactive, snapshot, -, hsource⟩ := lifecycle_foldl_seen_of_lists hnodup
    (id_toEntity tables.entities[id]?) hlists
  obtain ⟨row', hrow', hstate, -, hsources⟩ := saved_some tables.entities[id]? e cycle.snapshots id
  refine ⟨row', ?_, hstate.trans hactive, ?_⟩
  · rw [getElem?_discoverOnce, Cycle.get_merged, he, hrow']
  · exact List.ne_nil_of_mem ((hsources snapshot.source).mpr (Or.inr hsource))

/-- A cycle that does not list a stored entity marks it at most. -/
theorem row_of_not_lists (hlists : ¬ cycle.Lists id) (hrow : tables.entities[id]? = some row) :
    ∃ row', (tables.discoverOnce cycle).entities[id]? = some row' ∧
      row'.lifecycleState = (if (∃ snapshot ∈ cycle.snapshots, Sole row.sources snapshot.source) ∧
        row.lifecycleState = .active then .stale else row.lifecycleState) ∧
      ∀ source, source ∈ row'.sources ↔ source ∈ row.sources := by
  have hnot : ∀ snapshot ∈ cycle.snapshots, ¬ snapshot.Lists id :=
    fun snapshot hmem h => hlists ⟨snapshot, hmem, h⟩
  have hseen := foldl_seen_of_not_lists hnot (row.toEntity id) rfl
  rw [getElem?_discoverOnce, Cycle.get_merged, hrow, Option.map_some, hseen]
  obtain ⟨row', hrow', hstate, -, hsources⟩ := saved_some (some row) _ cycle.snapshots id
  refine ⟨row', hrow', ?_, ?_⟩
  · rw [hstate]
    change (if (∃ snapshot ∈ cycle.snapshots, Sole row.sources snapshot.source) ∧
      row.lifecycleState = .active then _ else row.toEntity id).lifecycleState = _
    split <;> rfl
  · intro source
    have hmarked : ∀ p : Prop, ∀ [Decidable p], (if p then
        { row.toEntity id with lifecycleState := .stale } else row.toEntity id).discoverySources =
          row.sources := by
      intro p _
      split <;> rfl
    rw [hsources, hmarked]
    simp

/-- A cycle that does not list an entity does not store it. -/
theorem not_stored_of_not_lists (hlists : ¬ cycle.Lists id) (hrow : tables.entities[id]? = none) :
    (tables.discoverOnce cycle).entities[id]? = none := by
  have hnone : ∀ snapshots : List InventorySnapshot, (∀ snapshot ∈ snapshots, ¬ snapshot.Lists id) →
      snapshots.foldl (fun entity s => s.seen id entity) (none : Option ManagedEntity) = none := by
    intro snapshots
    induction snapshots with
    | nil => intro _; rfl
    | cons snapshot snapshots ih =>
      intro hnot
      rw [List.forall_mem_cons] at hnot
      rw [List.foldl_cons, InventorySnapshot.seen_of_not_lists hnot.1]
      exact ih hnot.2
  rw [getElem?_discoverOnce, Cycle.get_merged, hrow, Option.map_none,
    hnone _ fun snapshot hmem h => hlists ⟨snapshot, hmem, h⟩]
  rfl

end Tables

/-! ### Lifecycles along a run -/

/-- What holds of a row in every run: it has a source, and a stale one has no second
source. -/
def EntityRow.Lived (row : EntityRow) : Prop :=
  row.sources ≠ [] ∧
    (row.lifecycleState = .active ∨ row.lifecycleState = .stale ∧ ∃ source, Sole row.sources source)

namespace Tables

variable {tables : Tables} {cycle : Cycle} {row row' : EntityRow} {log : List Update}
  {topologySource : DiscoverySource} {names : Uuid → Relation}

theorem sole_congr {l l' : List DiscoverySource} (h : ∀ s, s ∈ l ↔ s ∈ l') :
    Sole l source ↔ Sole l' source := by
  simp only [Sole, h]

/-- Marking keeps what holds of a row. -/
theorem lived_of_marked (hlived : row.Lived) {p : Prop} [Decidable p]
    (hp : p → ∃ source, Sole row.sources source)
    (hstate : row'.lifecycleState = if p then .stale else row.lifecycleState)
    (hsources : ∀ source, source ∈ row'.sources ↔ source ∈ row.sources) : row'.Lived := by
  have hsole : (∃ source, Sole row.sources source) → ∃ source, Sole row'.sources source := by
    rintro ⟨source, h⟩
    exact ⟨source, (sole_congr hsources).mpr h⟩
  obtain ⟨s, hs⟩ := List.exists_mem_of_ne_nil _ hlived.1
  refine ⟨List.ne_nil_of_mem ((hsources s).mpr hs), ?_⟩
  rw [hstate]
  split
  · next h => exact Or.inr ⟨rfl, hsole (hp h)⟩
  · rcases hlived.2 with hactive | ⟨hstale, h⟩
    · exact Or.inl hactive
    · exact Or.inr ⟨hstale, hsole h⟩

/-- A snapshot merged directly keeps what holds of a row. -/
theorem lived_ingestSnapshot {snapshot : InventorySnapshot}
    (hlived : ∀ row, tables.entities[id]? = some row → row.Lived)
    (hrow' : (tables.ingestSnapshot snapshot).entities[id]? = some row') : row'.Lived := by
  rw [getElem?_ingestSnapshot] at hrow'
  by_cases hlists : snapshot.Lists id
  · obtain ⟨e, he, -, hsource, hactive⟩ :=
      snapshot.foldl_absorb_of_lists hlists (id_toEntity tables.entities[id]?)
    obtain ⟨r, hr, hstate, -, hsources⟩ := saved_some tables.entities[id]? e [snapshot] id
    rw [he, hr] at hrow'
    cases hrow'
    exact ⟨List.ne_nil_of_mem ((hsources _).mpr (Or.inr hsource)), Or.inl (hstate.trans hactive)⟩
  · rw [InventorySnapshot.reportsOf_eq_nil_iff.mpr hlists, List.foldl_nil] at hrow'
    cases hrow : tables.entities[id]? with
    | none => rw [hrow] at hrow'; cases hrow'
    | some row =>
      rw [hrow, Option.map_some] at hrow'
      obtain ⟨r, hr, hstate, -, hsources⟩ := saved_some (some row) (row.toEntity id) [snapshot] id
      rw [hr] at hrow'
      cases hrow'
      refine lived_of_marked (hlived row hrow) (p := False) (fun h => h.elim) hstate fun source => ?_
      rw [hsources]
      change (_ ∨ source ∈ row.sources) ↔ _
      simp

/-- **A stale entity has one source**, in every run. -/
theorem lived_run (hrun : (discovery topologySource names).Run log tables) :
    ∀ (id : EntityId) (row : EntityRow), tables.entities[id]? = some row → row.Lived := by
  refine hrun.invariant (P := fun _ tables => ∀ (id : EntityId) (row : EntityRow),
    tables.entities[id]? = some row → row.Lived) ?_ ?_
  · rintro tables rfl id row hrow
    simp at hrow
  · intro log tables update _ ih _ id row' hrow'
    cases update with
    | ingest snapshot => exact lived_ingestSnapshot (ih id) hrow'
    | discover cycle =>
      change (tables.discoverOnce cycle).entities[id]? = some row' at hrow'
      by_cases hlists : cycle.Lists id
      · obtain ⟨r, hr, hactive, hne⟩ := row_of_lists tables hlists
        rw [hr] at hrow'
        cases hrow'
        exact ⟨hne, Or.inl hactive⟩
      · cases hrow : tables.entities[id]? with
        | none =>
          rw [not_stored_of_not_lists hlists hrow] at hrow'
          cases hrow'
        | some row =>
          obtain ⟨r, hr, hstate, hsources⟩ := row_of_not_lists hlists hrow
          rw [hr] at hrow'
          cases hrow'
          refine lived_of_marked (ih id row hrow) ?_ hstate hsources
          rintro ⟨⟨snapshot, -, hsole⟩, -⟩
          exact ⟨snapshot.source, hsole⟩

end Tables

/-- **Lifecycles and snapshots.**  Consider a stored entity all of whose sources
answered in a cycle.  The cycle leaves it active exactly if some snapshot lists it, and
stale otherwise, if and only if some snapshot lists it or it had one source on record. -/
theorem Cycle.active_iff_listed_iff {topologySource : DiscoverySource} {names : Uuid → Relation}
    {log : List Update} {tables : Tables} {cycle : Cycle} {row' : EntityRow}
    (hrun : (discovery topologySource names).Run log tables)
    (hrow' : (tables.discoverOnce cycle).entities[id]? = some row')
    (hsources' : ∀ source ∈ row'.sources, source ∈ cycle.snapshots.map InventorySnapshot.source) :
    ((row'.lifecycleState = .active ↔ cycle.Lists id) ∧
      (¬ cycle.Lists id → row'.lifecycleState = .stale)) ↔
    (cycle.Lists id ∨ ∀ row ∈ tables.entities[id]?, ∃ source, Sole row.sources source) := by
  by_cases hlists : cycle.Lists id
  · obtain ⟨r, hr, hactive, -⟩ := Tables.row_of_lists tables hlists
    rw [hr] at hrow'
    cases hrow'
    simp [hlists, hactive]
  · cases hrow : tables.entities[id]? with
    | none =>
      rw [Tables.not_stored_of_not_lists hlists hrow] at hrow'
      cases hrow'
    | some row =>
      obtain ⟨r, hr, hstate, hsources⟩ := Tables.row_of_not_lists hlists hrow
      rw [hr] at hrow'
      cases hrow'
      -- unlisted, so everything is about being stale
      have hgoal : row'.lifecycleState = .stale ↔ ∃ source, Sole row.sources source := by
        obtain ⟨hne, hactive | ⟨hstale, hsole⟩⟩ := Tables.lived_run hrun id row hrow
        · rw [hstate, hactive]
          constructor
          · intro h
            by_contra hnot
            rw [if_neg] at h
            · cases h
            · rintro ⟨⟨snapshot, -, hsole⟩, -⟩
              exact hnot ⟨snapshot.source, hsole⟩
          · rintro ⟨source, hsole⟩
            obtain ⟨snapshot, hmem, heq⟩ :=
              List.mem_map.mp (hsources' source ((hsources source).mpr hsole.1))
            exact if_pos ⟨⟨snapshot, hmem, heq ▸ hsole⟩, rfl⟩
        · rw [hstate, if_neg (by simp [hstale])]
          exact iff_of_true hstale hsole
      simp only [hlists, iff_false, not_false_eq_true, true_imp_iff, false_or, Option.mem_some_iff,
        forall_eq', ← hgoal]
      refine ⟨And.right, fun h => ⟨?_, h⟩⟩
      rw [h]
      exact nofun

/-- A cycle in which the static configuration drops an entity that it alone
declared. -/
theorem Cycle.dropped_by_its_only_source :
    let x : EntityId := ⟨⟨1⟩⟩
    let declared := (InventorySnapshot.new .staticConfig).addEntity (.new x .host "x") rfl
    let first : Cycle := ⟨[some declared], none, by decide⟩
    let second : Cycle := ⟨[some (.new .staticConfig)], none, by decide⟩
    let tables := (Tables.mk ∅ []).discoverOnce first
    ∃ row', (tables.discoverOnce second).entities[x]? = some row' ∧
      (row'.lifecycleState = .active ↔ second.Lists x) ∧
      (¬ second.Lists x → row'.lifecycleState = .stale) := by
  intro x declared first second tables
  have hrun : (discovery (.integration "nfs") fun _ => (x, x, .dependsOn)).Run
      [.discover first] tables := by
    refine Machine.Run.snoc (.init rfl) ⟨?_, by simp [first], by decide⟩
    intro snapshot hsnapshot edge hedge
    rw [List.mem_singleton.mp hsnapshot] at hedge
    exact absurd hedge List.not_mem_nil
  have hsole : ∀ row ∈ tables.entities[x]?, row.sources = [.staticConfig] := by decide +kernel
  cases hrow' : (tables.discoverOnce second).entities[x]? with
  | none => exact absurd hrow' (by decide +kernel)
  | some row' =>
    have hsources : ∀ row ∈ (tables.discoverOnce second).entities[x]?,
        ∀ source ∈ row.sources, source ∈ second.snapshots.map InventorySnapshot.source := by
      decide +kernel
    refine ⟨row', rfl, (active_iff_listed_iff hrun hrow' (hsources row' hrow')).mpr (Or.inr ?_)⟩
    intro row hrow
    exact ⟨.staticConfig, by rw [hsole row hrow]; decide⟩

/-- The static configuration and the scheduler both list an entity, and both drop it in
one cycle.  It stays active. -/
theorem Cycle.dropped_by_both_stays_active :
    let x : EntityId := ⟨⟨1⟩⟩
    let declared := (InventorySnapshot.new .staticConfig).addEntity (.new x .host "x") rfl
    let scheduled := (InventorySnapshot.new (.integration "slurm")).addEntity (.new x .host "x") rfl
    let first : Cycle := ⟨[some declared, some scheduled], none, by decide⟩
    let second : Cycle := ⟨[some (.new .staticConfig), some (.new (.integration "slurm"))], none, by decide⟩
    let tables := (Tables.mk ∅ []).discoverOnce first
    ¬ second.Lists x ∧ ∃ row', (tables.discoverOnce second).entities[x]? = some row' ∧
      row'.sources = [.staticConfig, .integration "slurm"] ∧ row'.lifecycleState = .active := by
  intro x declared scheduled first second tables
  have hlists : ∀ snapshot ∈ second.snapshots, ¬ snapshot.Lists x := by decide
  refine ⟨fun ⟨snapshot, hmem, h⟩ => hlists snapshot hmem h, ?_⟩
  have hrow : (tables.discoverOnce second).entities[x]?.any (fun row' =>
      row'.sources = [.staticConfig, .integration "slurm"] ∧ row'.lifecycleState = .active) = true := by
    decide +kernel
  obtain ⟨row', hrow', h⟩ := (Option.any_eq_true _ _).mp hrow
  exact ⟨row', hrow', of_decide_eq_true h⟩

end Sentinel
