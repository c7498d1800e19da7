import Sentinel.Controller.Presence

/-!
# Where labels come from

Saving an entity replaces its label rows, so that a label an operator removed is gone.
What is saved, though, was merged into a copy loaded from the same rows, and merging
only adds: a label stays until some report supplies another value for its key.

## Main definitions

* `suppliedBy`, `Tables.label` — the value reports supply for a key, the value stored.
* `lastRegistration` — the last registration of an entity's agent.

## Main results

* `Tables.label_update`, `Tables.label_run` — a stored label is the value supplied last,
  in every run.
* `Tables.labels_supplied_iff` — when every label is supplied by someone still.
-/

namespace Sentinel

variable {id : EntityId} {key value : String} {snapshot : InventorySnapshot}
  {snapshots : List InventorySnapshot} {entity : ManagedEntity}

/-- The value reports supply for a key: the last of them decides. -/
def suppliedBy (reports : List ManagedEntity) (key : String) : Option String :=
  reports.reverse.findSome? fun report => report.labels[key]?

/-- The value snapshots supply for a key of an entity. -/
def supplied (snapshots : List InventorySnapshot) (id : EntityId) (key : String) : Option String :=
  suppliedBy (snapshots.flatMap fun snapshot => snapshot.reportsOf id) key

/-- The value an entity has for a key. -/
def labelOf (entity : Option ManagedEntity) (key : String) : Option String :=
  entity.bind fun entity => entity.labels[key]?

/-- The value stored for a key of an entity. -/
def Tables.label (tables : Tables) (id : EntityId) (key : String) : Option String :=
  tables.entities[id]?.bind fun row => row.labels[key]?

/-! ### The value supplied last -/

theorem suppliedBy_append (reports reports' : List ManagedEntity) (key : String) :
    suppliedBy (reports ++ reports') key = (suppliedBy reports' key).or (suppliedBy reports key) := by
  rw [suppliedBy, List.reverse_append, List.findSome?_append]
  rfl

theorem suppliedBy_cons (report : ManagedEntity) (reports : List ManagedEntity) (key : String) :
    suppliedBy (report :: reports) key = (suppliedBy reports key).or report.labels[key]? := by
  rw [← List.singleton_append, suppliedBy_append]
  congr 1
  rw [suppliedBy, List.reverse_singleton, List.findSome?_cons, List.findSome?_nil]
  cases report.labels[key]? <;> rfl

theorem supplied_append (snapshots snapshots' : List InventorySnapshot) :
    supplied (snapshots ++ snapshots') id key =
      (supplied snapshots' id key).or (supplied snapshots id key) := by
  rw [supplied, List.flatMap_append, suppliedBy_append]
  rfl

theorem supplied_cons (snapshot : InventorySnapshot) (snapshots : List InventorySnapshot) :
    supplied (snapshot :: snapshots) id key =
      (supplied snapshots id key).or (suppliedBy (snapshot.reportsOf id) key) := by
  rw [supplied, List.flatMap_cons, suppliedBy_append]
  rfl

/-- A value is supplied by one of the reports. -/
theorem exists_of_supplied (h : supplied snapshots id key = some value) :
    ∃ snapshot ∈ snapshots, ∃ report ∈ snapshot.reportsOf id, report.labels[key]? = some value := by
  obtain ⟨report, hreport, hvalue⟩ := List.exists_of_findSome?_eq_some h
  obtain ⟨snapshot, hsnapshot, hmem⟩ := List.mem_flatMap.mp (List.mem_reverse.mp hreport)
  exact ⟨snapshot, hsnapshot, report, hmem, hvalue⟩

/-- A key is supplied by nobody if no report has it. -/
theorem supplied_eq_none_iff : supplied snapshots id key = none ↔
    ∀ snapshot ∈ snapshots, ∀ report ∈ snapshot.reportsOf id, report.labels[key]? = none := by
  rw [supplied, suppliedBy, List.findSome?_eq_none_iff]
  simp only [List.mem_reverse, List.mem_flatMap]
  constructor
  · exact fun h snapshot hs report hr => h report ⟨snapshot, hs, hr⟩
  · rintro h report ⟨snapshot, hs, hr⟩
    exact h snapshot hs report hr

/-! ### Labels under a merge -/

/-- A report's labels take precedence. -/
theorem labelOf_absorb (entity : Option ManagedEntity) (report : ManagedEntity) :
    labelOf (ManagedEntity.absorb entity report) key = report.labels[key]?.or (labelOf entity key) := by
  cases entity with
  | none => exact (Option.or_none).symm
  | some entity => exact Std.ExtTreeMap.getElem?_union

theorem labelOf_foldl_absorb (reports : List ManagedEntity) :
    ∀ entity : Option ManagedEntity, labelOf (reports.foldl ManagedEntity.absorb entity) key =
      (suppliedBy reports key).or (labelOf entity key) := by
  induction reports with
  | nil => intro entity; rfl
  | cons report reports ih =>
    intro entity
    rw [List.foldl_cons, ih, labelOf_absorb, suppliedBy_cons, Option.or_assoc]

theorem labelOf_seen (entity : Option ManagedEntity) :
    labelOf (snapshot.seen id entity) key =
      (suppliedBy (snapshot.reportsOf id) key).or (labelOf entity key) := by
  have hmark : ∀ entity : Option ManagedEntity,
      labelOf (entity.map (Inventory.markStale snapshot)) key = labelOf entity key := by
    rintro (_ | entity)
    · rfl
    · change (Inventory.markStale snapshot entity).labels[key]? = _
      rw [Inventory.markStale]
      split <;> rfl
  rw [InventorySnapshot.seen, hmark, labelOf_foldl_absorb]

theorem labelOf_foldl_seen (snapshots : List InventorySnapshot) :
    ∀ entity : Option ManagedEntity,
      labelOf (snapshots.foldl (fun entity s => s.seen id entity) entity) key =
        (supplied snapshots id key).or (labelOf entity key) := by
  induction snapshots with
  | nil => intro entity; rfl
  | cons snapshot snapshots ih =>
    intro entity
    rw [List.foldl_cons, ih, labelOf_seen, supplied_cons, Option.or_assoc]

namespace Tables

variable {tables : Tables} {cycle : Cycle} {log : List Update} {topologySource : DiscoverySource}
  {names : Uuid → Relation}

/-- The labels of a row are those of the entity saved. -/
theorem label_saved {row : Option EntityRow} {entity : Option ManagedEntity}
    (h : row.isSome → entity.isSome) (snapshots : List InventorySnapshot) :
    ((saved row entity snapshots id).bind fun row => row.labels[key]?) = labelOf entity key := by
  cases entity with
  | none =>
    cases row with
    | none => rfl
    | some row => exact absurd (h rfl) Bool.false_ne_true
  | some entity =>
    obtain ⟨row', hrow', -, hlabels, -⟩ := saved_some row entity snapshots id
    rw [hrow', Option.bind_some, hlabels]
    rfl

theorem labelOf_toEntity (row : Option EntityRow) :
    labelOf (row.map fun row => row.toEntity id) key = row.bind fun row => row.labels[key]? := by
  cases row <;> rfl

/-- **Labels over an update**: what its snapshots supply takes precedence, and what was
stored stays. -/
theorem label_update (tables : Tables) (update : Update) : (tables.update update).label id key =
    (supplied update.snapshots id key).or (tables.label id key) := by
  cases update with
  | discover cycle =>
    rw [label, Tables.update, getElem?_discoverOnce, label_saved Cycle.isSome_merged, Cycle.get_merged,
      labelOf_foldl_seen, labelOf_toEntity]
    rfl
  | ingest snapshot =>
    have hkept : tables.entities[id]?.isSome → ((tables.loadInventory.merge snapshot).get id).isSome :=
      Cycle.isSome_merge_load snapshot
    rw [Inventory.get_merge, get_loadInventory] at hkept
    rw [label, Tables.update, getElem?_ingestSnapshot, label_saved hkept, labelOf_foldl_absorb,
      labelOf_toEntity, Update.snapshots, supplied_cons]
    rfl

/-- **A stored label is the value supplied last**, in every run. -/
theorem label_run (hrun : (discovery topologySource names).Run log tables) (id : EntityId)
    (key : String) : tables.label id key = supplied (reports log) id key := by
  refine hrun.invariant (P := fun log tables =>
    tables.label id key = supplied (reports log) id key) ?_ ?_
  · rintro tables rfl
    simp [label, reports, supplied, suppliedBy]
  · intro log tables update _ ih _
    change (tables.update update).label id key = _
    rw [label_update, ih, reports_concat, supplied_append]

end Tables

/-! ### Who still supplies a label -/

/-- A snapshot supplies a value for a key of an entity. -/
def InventorySnapshot.Supplies (snapshot : InventorySnapshot) (id : EntityId) (key value : String) : Prop :=
  ∃ report ∈ snapshot.reportsOf id, report.labels[key]? = some value

/-- The last registration of an entity's agent. -/
def lastRegistration (log : List Update) (id : EntityId) : Option InventorySnapshot :=
  log.reverse.findSome? fun
    | .discover _ => none
    | .ingest snapshot =>
      if snapshot.source = .agentRegistration ∧ snapshot.reportsOf id ≠ [] then some snapshot else none

/-- The last registration of an entity's agent supplies a value. -/
def Registered (log : List Update) (id : EntityId) (key value : String) : Prop :=
  ∃ snapshot, lastRegistration log id = some snapshot ∧ snapshot.Supplies id key value

/-- **Labels and who supplies them.**  After any run and one more cycle, every label of
an entity is supplied by a snapshot of that cycle or by the last registration of its
agent, if and only if that was so of every label supplied last in the run whose key the
cycle does not supply. -/
theorem Tables.labels_supplied_iff {topologySource : DiscoverySource} {names : Uuid → Relation}
    {log : List Update} {tables : Tables}
    (hrun : (discovery topologySource names).Run log tables) (cycle : Cycle) (id : EntityId) :
    (∀ key value, (tables.discoverOnce cycle).label id key = some value →
      (∃ snapshot ∈ cycle.snapshots, snapshot.Supplies id key value) ∨ Registered log id key value) ↔
    ∀ key value, supplied (reports log) id key = some value →
      (∃ snapshot ∈ cycle.snapshots, ∃ other, snapshot.Supplies id key other) ∨
        Registered log id key value := by
  have hlabel : ∀ key, (tables.discoverOnce cycle).label id key =
      (supplied cycle.snapshots id key).or (supplied (reports log) id key) := by
    intro key
    rw [← label_run hrun]
    exact label_update tables (.discover cycle)
  constructor
  · intro h key value hvalue
    cases hcycle : supplied cycle.snapshots id key with
    | some other =>
      obtain ⟨snapshot, hmem, hsupplies⟩ := exists_of_supplied hcycle
      exact Or.inl ⟨snapshot, hmem, other, hsupplies⟩
    | none =>
      -- the cycle is silent on the key, so the old value is stored again
      refine (h key value ?_).imp_left ?_
      · rw [hlabel, hcycle, hvalue, Option.none_or]
      · rintro ⟨snapshot, hmem, hsupplies⟩
        exact ⟨snapshot, hmem, value, hsupplies⟩
  · intro h key value hvalue
    rw [hlabel] at hvalue
    cases hcycle : supplied cycle.snapshots id key with
    | some other =>
      rw [hcycle, Option.some_or] at hvalue
      cases hvalue
      exact Or.inl (exists_of_supplied hcycle)
    | none =>
      rw [hcycle, Option.none_or] at hvalue
      refine (h key value hvalue).imp_left ?_
      rintro ⟨snapshot, hmem, other, report, hreport, hother⟩
      rw [supplied_eq_none_iff.mp hcycle snapshot hmem report hreport] at hother
      cases hother

/-- A label that the configuration declares still. -/
theorem Tables.declared_label_supplied :
    let x : EntityId := ⟨⟨1⟩⟩
    let declared := (InventorySnapshot.new .staticConfig).addEntity
      ((ManagedEntity.new x .host "x").withLabel "rack" "r01") rfl
    let cycle : Cycle := ⟨[some declared], none, by decide⟩
    let tables := (Tables.mk ∅ []).discoverOnce cycle
    ∀ key value, (tables.discoverOnce cycle).label x key = some value →
      (∃ snapshot ∈ cycle.snapshots, snapshot.Supplies x key value) ∨
        Registered [.discover cycle] x key value := by
  intro x declared cycle tables
  have hrun : (discovery (.integration "nfs") fun _ => (x, x, .dependsOn)).Run
      [.discover cycle] tables := by
    refine Machine.Run.snoc (.init rfl) ⟨?_, by simp [cycle], by decide⟩
    intro snapshot hsnapshot edge hedge
    rw [List.mem_singleton.mp hsnapshot] at hedge
    exact absurd hedge List.not_mem_nil
  refine (labels_supplied_iff hrun cycle x).mpr fun key value hvalue => Or.inl ?_
  obtain ⟨snapshot, hmem, hsupplies⟩ := exists_of_supplied hvalue
  exact ⟨snapshot, hmem, value, hsupplies⟩

/-- The operator removes a label from the configuration.  It is still stored after the
next cycle, although nobody supplies it. -/
theorem Tables.removed_label_stays :
    let x : EntityId := ⟨⟨1⟩⟩
    let declared := (InventorySnapshot.new .staticConfig).addEntity
      ((ManagedEntity.new x .host "x").withLabel "rack" "r01") rfl
    let removed := (InventorySnapshot.new .staticConfig).addEntity (ManagedEntity.new x .host "x") rfl
    let first : Cycle := ⟨[some declared], none, by decide⟩
    let second : Cycle := ⟨[some removed], none, by decide⟩
    let tables := (Tables.mk ∅ []).discoverOnce first
    (tables.discoverOnce second).label x "rack" = some "r01" ∧
      ¬ ((∃ snapshot ∈ second.snapshots, snapshot.Supplies x "rack" "r01") ∨
        Registered [.discover first] x "rack" "r01") := by
  intro x declared removed first second tables
  refine ⟨by decide +kernel, ?_⟩
  rintro (⟨snapshot, hmem, report, hreport, hlabel⟩ | ⟨snapshot, hlast, -⟩)
  · rw [List.mem_singleton.mp hmem] at hreport
    rw [List.mem_singleton.mp (List.mem_of_mem_filter hreport)] at hlabel
    exact absurd hlabel (by decide +kernel)
  · cases hlast

end Sentinel
