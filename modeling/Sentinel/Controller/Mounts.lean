import Sentinel.Controller.Ingest
import Sentinel.Controller.Retraction
import Sentinel.Inventory.Nfs

/-!
# Mount reports

Every discovery cycle derives the storage topology anew, from the newest mount report
of each host it knows, and the edges of the topology that are not derived again are
retracted.  A probe that timed out reports too, without a mount table; such a report is
as good as an empty table.

## Main definitions

* `deriveStorageTopology` — the topology of a cycle.
* `Store.lastMountReport`, `Store.lastMountTable` — the newest report of a host, and the
  newest one that carries a table.
* `Cycle.KeepsMounts` — the uses that are kept of a host are those of its last table.
* `Cycle.Vouches` — a relation that does not rest on the topology.

## Main results

* `Cycle.keepsMounts_iff` — they are exactly when the newest report carries a table, or
  others vouch for every use of it.
-/

namespace Sentinel

/-! ### The newest report of a host -/

namespace Store

variable {store : Store} {now : Timestamp} {entity host : EntityId} {cutoff : Option Timestamp}
  {o : Observation}

/-- The stream of a host's own mount reports. -/
def mountStream (host : EntityId) : StreamKey := (host, probeClientMount, none)

/-- The reports of a stream, as far as their times are valid. -/
def reportsIn (store : Store) (now : Timestamp) (cutoff : Option Timestamp) (k : StreamKey) :
    List ObservationRow :=
  store.observations.filter fun row => row.observation.streamKey = k && valid now cutoff row

/-- The newest mount report of a host. -/
def lastMountReport (store : Store) (now : Timestamp) (host : EntityId) : Option Observation :=
  ((store.reportsIn now none (mountStream host)).maxByKey fun row => row.observation.finishedAt).map
    ObservationRow.observation

/-- The newest mount report of a host that carries a mount table. -/
def lastMountTable (store : Store) (now : Timestamp) (host : EntityId) : Option Observation :=
  (((store.reportsIn now none (mountStream host)).filter fun row => carriesTable row.observation).maxByKey
    fun row => row.observation.finishedAt).map ObservationRow.observation

/-- Only the host itself reports its mounts. -/
def OwnMounts (store : Store) (host : EntityId) : Prop :=
  ∀ o ∈ store.stored, o.targetEntity = host → o.probeId = probeClientMount → o.observerEntity = none

/-- What is newest is the newest of its stream. -/
theorem mem_latestObservationsSince :
    o ∈ store.latestObservationsSince now entity cutoff ↔ o.targetEntity = entity ∧
      ((store.reportsIn now cutoff o.streamKey).maxByKey fun row => row.observation.finishedAt).map
        ObservationRow.observation = some o := by
  have hrows : ∀ k : StreamKey, k.1 = entity →
      (store.observations.filter fun row => row.observation.targetEntity = entity).filter
        (fun row => row.observation.streamKey = k && valid now cutoff row) =
      store.reportsIn now cutoff k := by
    intro k hk
    rw [List.filter_filter, reportsIn]
    refine List.filter_congr fun row _ => ?_
    by_cases hkey : row.observation.streamKey = k
    · have : row.observation.targetEntity = entity := by rw [← hk, ← hkey]; rfl
      simp [this]
    · simp [hkey]
  rw [latestObservationsSince, List.mem_filterMap]
  constructor
  · rintro ⟨first, hfirst, ho⟩
    have htarget : first.observation.targetEntity = entity :=
      of_decide_eq_true (List.mem_filter.mp (List.mem_firstsFrom hfirst).1).2
    rw [hrows _ htarget] at ho
    obtain ⟨row, hrow, rfl⟩ := Option.map_eq_some_iff.mp ho
    have hkey := (List.mem_filter.mp (List.maxByKey_mem hrow)).2
    rw [Bool.and_eq_true, decide_eq_true_iff] at hkey
    rw [hkey.1]
    exact ⟨(congrArg Prod.fst hkey.1).trans htarget, ho⟩
  · rintro ⟨htarget, ho⟩
    obtain ⟨row, hrow, hrowo⟩ := Option.map_eq_some_iff.mp ho
    have hmem := (List.mem_filter.mp (List.maxByKey_mem hrow)).1
    have hkeys : o.streamKey ∈ ((store.observations.filter fun row =>
        row.observation.targetEntity = entity).firsts fun row => row.observation.streamKey).map
          fun row => row.observation.streamKey := by
      refine List.mem_map_firstsFrom.mpr ⟨List.mem_map.mpr ⟨row, ?_, by rw [hrowo]⟩, List.not_mem_nil⟩
      exact List.mem_filter.mpr ⟨hmem, decide_eq_true (hrowo ▸ htarget)⟩
    obtain ⟨first, hfirst, hkey⟩ := List.mem_map.mp hkeys
    refine ⟨first, hfirst, ?_⟩
    rw [hkey, hrows _ htarget]
    exact ho

/-- The newest observation of the mount probe is the newest mount report. -/
theorem find_latestObservationsSince (hown : store.OwnMounts host) :
    (store.latestObservationsSince now host none).find? (fun o => o.probeId = probeClientMount) =
      store.lastMountReport now host := by
  have hstream : ∀ o ∈ store.latestObservationsSince now host none, o.probeId = probeClientMount →
      store.lastMountReport now host = some o := by
    intro o ho hprobe
    obtain ⟨htarget, hmax⟩ := mem_latestObservationsSince.mp ho
    have hstored := ((store.latestObservationsSince_spec now host none).2 o ho).1
    have hkey : o.streamKey = mountStream host := by
      rw [Observation.streamKey, htarget, hprobe, hown o hstored htarget hprobe]
      rfl
    rw [lastMountReport, ← hkey]
    exact hmax
  cases hlast : store.lastMountReport now host with
  | none =>
    rw [List.find?_eq_none]
    intro o ho hprobe
    rw [hstream o ho (of_decide_eq_true hprobe)] at hlast
    cases hlast
  | some o =>
    obtain ⟨row, hrow, rfl⟩ := Option.map_eq_some_iff.mp hlast
    have hkey := (List.mem_filter.mp (List.maxByKey_mem hrow)).2
    rw [Bool.and_eq_true, decide_eq_true_iff] at hkey
    have hmem : row.observation ∈ store.latestObservationsSince now host none := by
      refine mem_latestObservationsSince.mpr ⟨congrArg Prod.fst hkey.1, ?_⟩
      rw [hkey.1]
      exact hlast
    have hprobe : row.observation.probeId = probeClientMount := congrArg (fun k => k.2.1) hkey.1
    cases hfind : (store.latestObservationsSince now host none).find?
        (fun o => o.probeId = probeClientMount) with
    | none =>
      rw [List.find?_eq_none] at hfind
      exact absurd (decide_eq_true hprobe) (hfind row.observation hmem)
    | some found =>
      have hfound : found.probeId = probeClientMount := by simpa using List.find?_some hfind
      rw [← hlast, hstream found (List.mem_of_find?_eq_some hfind) hfound]

theorem probeId_of_lastMountReport (ho : store.lastMountReport now host = some o) :
    o.probeId = probeClientMount := by
  obtain ⟨row, hrow, rfl⟩ := Option.map_eq_some_iff.mp ho
  have hkey := (List.mem_filter.mp (List.maxByKey_mem hrow)).2
  rw [Bool.and_eq_true, decide_eq_true_iff] at hkey
  exact congrArg (fun k => k.2.1) hkey.1

/-- A newest report that carries a table is the newest table. -/
theorem lastMountTable_of_carriesTable (ho : store.lastMountReport now host = some o)
    (htable : carriesTable o = true) : store.lastMountTable now host = some o := by
  obtain ⟨row, hrow, rfl⟩ := Option.map_eq_some_iff.mp ho
  have hmax := List.maxByKey_filter (p := fun row => carriesTable row.observation) htable _ hrow
  rw [lastMountTable, hmax]
  rfl

end Store

/-! ### The topology of a cycle -/

section Derive

variable (entityId : EntityKey → EntityId) (edgeId : EntityId × EntityId × DependencyType → Uuid)
  (environment : String) (store : Store) (now : Timestamp)

/-- The mount report that a cycle reads of each host. -/
def mountObservations (inventory : Inventory) : List Observation :=
  (inventory.all.filter fun entity => entity.entityType = .host).filterMap fun entity =>
    (store.latestObservationsSince now entity.id none).find? fun o => o.probeId = probeClientMount

/-- Build the storage topology from the latest reported mounts. -/
def deriveStorageTopology (inventory : Inventory) : StorageTopology :=
  topologyFromMounts entityId edgeId environment inventory (mountObservations store now inventory)

end Derive

namespace Cycle

variable {entityId : EntityKey → EntityId} {edgeId : EntityId × EntityId × DependencyType → Uuid}
  {environment : String} {store : Store} {now : Timestamp} {host storage : EntityId}
  {cycle : Cycle} {tables : Tables} {names : Uuid → Relation} {log : List Update}

/-- The inventory once the providers have answered: what the topology is derived over. -/
def provided (cycle : Cycle) (tables : Tables) : Inventory :=
  cycle.answers.foldl fold tables.loadInventory

/-- The last mount table says that the host uses a storage. -/
def LastTableImplies (entityId : EntityKey → EntityId) (environment : String) (store : Store)
    (now : Timestamp) (inventory : Inventory) (host storage : EntityId) : Prop :=
  ∃ table, store.lastMountTable now host = some table ∧
    ImpliesUse entityId environment inventory table storage

/-- The uses that are kept of a host after a cycle are those of its last mount table:
the topology has no other, and each is there. -/
def KeepsMounts (entityId : EntityKey → EntityId) (environment : String) (store : Store)
    (now : Timestamp) (cycle : Cycle) (tables : Tables) (host : EntityId) : Prop :=
  (∀ row ∈ (tables.discoverOnce cycle).dependencies, row.source = host →
    row.dependencyType = .usesStorage → row.discoverySource = nfsSource →
    LastTableImplies entityId environment store now (cycle.provided tables) host row.target) ∧
  ∀ storage, LastTableImplies entityId environment store now (cycle.provided tables) host storage →
    ∃ row ∈ (tables.discoverOnce cycle).dependencies, row.relation = (host, storage, .usesStorage)

/-- A relation that does not rest on the topology: another provider reports it in the
cycle, between known entities, or it is stored as another's. -/
def Vouches (cycle : Cycle) (tables : Tables) (relation : Relation) : Prop :=
  (∃ snapshot ∈ cycle.providers, ∃ edge ∈ snapshot.dependencies,
    edge.relation = relation ∧ cycle.Knows tables edge) ∨
  ∃ row ∈ tables.dependencies, row.relation = relation ∧ row.discoverySource ≠ nfsSource

/-- The report that is read of a host is its newest. -/
theorem mem_mountObservations {inventory : Inventory} {entity : ManagedEntity} {o : Observation}
    (hown : store.OwnMounts host) (hhost : inventory.get host = some entity)
    (htype : entity.entityType = .host) :
    o ∈ mountObservations store now inventory ∧ o.targetEntity = host ↔
      store.lastMountReport now host = some o := by
  have hid := inventory.keyed host entity hhost
  constructor
  · rintro ⟨ho, htarget⟩
    obtain ⟨other, -, hfind⟩ := List.mem_filterMap.mp ho
    have hother := ((store.latestObservationsSince_spec now other.id none).2 o
      (List.mem_of_find?_eq_some hfind)).2
    rw [← hother, htarget, Store.find_latestObservationsSince hown] at hfind
    exact hfind
  · intro hlast
    rw [← Store.find_latestObservationsSince hown] at hlast
    refine ⟨List.mem_filterMap.mpr ⟨entity, List.mem_filter.mpr ⟨?_, decide_eq_true htype⟩, ?_⟩, ?_⟩
    · exact Std.ExtTreeMap.mem_vals.mpr ⟨host, hhost⟩
    · rw [hid]
      exact hlast
    · exact ((store.latestObservationsSince_spec now host none).2 o
        (List.mem_of_find?_eq_some hlast)).2

/-- The uses of a host in the topology are those its newest report implies. -/
theorem mem_uses_topology {inventory : Inventory} {entity : ManagedEntity} {edge : DependencyEdge}
    (hown : store.OwnMounts host) (hhost : inventory.get host = some entity)
    (htype : entity.entityType = .host) :
    edge ∈ (deriveStorageTopology entityId edgeId environment store now inventory).snapshot.dependencies ∧
      edge.dependencyType = .usesStorage ∧ edge.source = host ↔
    ∃ o, store.lastMountReport now host = some o ∧
      ∃ storage, ImpliesUse entityId environment inventory o storage ∧
        edge = (usesStorage edgeId host storage).withDiscoverySource nfsSource := by
  rw [← and_assoc, deriveStorageTopology, mem_topology]
  constructor
  · rintro ⟨⟨o, ho, -, storage, huse, rfl⟩, hsource⟩
    have htarget : o.targetEntity = host := hsource
    exact ⟨o, (mem_mountObservations hown hhost htype).mp ⟨ho, htarget⟩, storage, huse, by rw [htarget]⟩
  · rintro ⟨o, hlast, storage, huse, rfl⟩
    obtain ⟨ho, htarget⟩ := (mem_mountObservations hown hhost htype).mpr hlast
    exact ⟨⟨o, ho, Store.probeId_of_lastMountReport hlast, storage, huse, by rw [htarget]⟩, rfl⟩

/-- A report that implies a use carries a table. -/
theorem carriesTable_of_impliesUse {inventory : Inventory} {o : Observation}
    (huse : ImpliesUse entityId environment inventory o storage) : carriesTable o = true := by
  by_contra htable
  obtain ⟨named, hnamed, -⟩ := huse
  rw [serversIn_of_not_carriesTable (Bool.eq_false_iff.mpr htable)] at hnamed
  exact absurd hnamed List.not_mem_nil

/-- Both ends of a use that the newest report implies are known. -/
theorem knows_use {entity : ManagedEntity} {o : Observation}
    (hderived : cycle.topology =
      some (deriveStorageTopology entityId edgeId environment store now (cycle.provided tables)).snapshot)
    (hown : store.OwnMounts host) (hhost : (cycle.provided tables).get host = some entity)
    (htype : entity.entityType = .host) (hlast : store.lastMountReport now host = some o)
    (huse : ImpliesUse entityId environment (cycle.provided tables) o storage) :
    cycle.Knows tables ((usesStorage edgeId host storage).withDiscoverySource nfsSource) := by
  intro id hid
  rcases List.mem_cons.mp hid with hid | hid
  · rw [show id = host from hid]
    have hmem : host ∈ (cycle.provided tables).entities :=
      Std.ExtTreeMap.mem_iff_isSome_getElem?.mpr (Option.isSome_iff_exists.mpr ⟨entity, hhost⟩)
    rw [provided, fold_answers, mem_entities_foldl_report, mem_entities_load] at hmem
    refine hmem.imp_right fun hprovider => ?_
    obtain ⟨snapshot, hsnapshot, hid⟩ := hprovider
    exact ⟨snapshot, List.mem_append_left _ hsnapshot, hid⟩
  · rw [List.mem_singleton.mp hid]
    have hread := ((mem_mountObservations hown hhost htype).mpr hlast).1
    refine Or.inr ⟨_, List.mem_append_right _ (Option.mem_toList.mpr hderived), ?_⟩
    exact mem_ids_topology hread (Store.probeId_of_lastMountReport hlast) huse

section Keeps

variable (hrun : (discovery nfsSource names).Run log tables)
  (hallowed : (discovery nfsSource names).Allowed tables (.discover cycle))
  (hderived : cycle.topology =
    some (deriveStorageTopology entityId edgeId environment store now (cycle.provided tables)).snapshot)
  {entity : ManagedEntity} (hhost : (cycle.provided tables).get host = some entity)
  (htype : entity.entityType = .host) (hown : store.OwnMounts host)

include hallowed hrun

/-- A relation that others vouch for stays. -/
theorem exists_row_of_vouches (hderived : ∀ topology ∈ cycle.topology, topology.source = nfsSource)
    {relation : Relation} (h : cycle.Vouches tables relation) :
    ∃ row ∈ (tables.discoverOnce cycle).dependencies, row.relation = relation := by
  have hsound := Tables.Sound.run hrun
  have hnames := hallowed.1
  have hreported : ∀ snapshot ∈ cycle.snapshots, ∀ edge ∈ snapshot.dependencies,
      edge.relation = relation → cycle.Knows tables edge →
      ∃ row ∈ (tables.discoverOnce cycle).dependencies, row.relation = relation := by
    intro snapshot hsnapshot edge hedge hrelation hknows
    obtain ⟨s, hs, row, hin, hid, hmem⟩ :=
      exists_mem_inventory_of_reported hsound hnames hsnapshot hedge hknows
    refine ⟨row, (hsound.mem_dependencies_discoverOnce hnames).mpr hmem, ?_⟩
    rw [← hrelation]
    exact (hnames s hs row hin).relation_eq (hnames snapshot hsnapshot edge hedge) hid
  rcases h with ⟨snapshot, hsnapshot, edge, hedge, hrelation, hknows⟩ | ⟨row, hrow, hrelation, hsource⟩
  · exact hreported snapshot (List.mem_append_left _ hsnapshot) edge hedge hrelation hknows
  · by_cases hnone : ∃ snapshot ∈ cycle.snapshots, row.id ∈ snapshot.edgeIds
    · -- the row is reported anew, whoever reports it
      obtain ⟨s, hs, hid⟩ := hnone
      obtain ⟨edge, hedge, hid⟩ := List.mem_map.mp hid
      have hrel := (hnames s hs edge hedge).relation_eq (hsound.named row hrow) hid
      exact hreported s hs edge hedge (hrel.trans hrelation) (hsound.knows_of_stored hrow hrel)
    · push Not at hnone
      refine ⟨row, (hsound.mem_dependencies_discoverOnce hnames).mpr ?_, hrelation⟩
      refine mem_inventory_of_unreported hsound hnames hrow (fun topology ht heq => ?_) hnone
      exact hsource (heq.trans (hderived topology ht))

include hderived hhost htype hown

/-- **What is kept of a host's mounts.**  After a cycle of any run, the uses of a host are
those of its last mount table exactly when its newest mount report carries a table, or
others vouch for every use of the last table. -/
theorem keepsMounts_iff :
    cycle.KeepsMounts entityId environment store now tables host ↔
      (∃ newest, store.lastMountReport now host = some newest ∧ carriesTable newest = true) ∨
      ∀ storage, LastTableImplies entityId environment store now (cycle.provided tables) host storage →
        cycle.Vouches tables (host, storage, .usesStorage) := by
  have hsound := Tables.Sound.run hrun
  have hnames := hallowed.1
  have hrows : ∀ row, row ∈ (tables.discoverOnce cycle).dependencies ↔
      row ∈ (cycle.inventory tables).graph.edges :=
    fun row => hsound.mem_dependencies_discoverOnce hnames
  have hmem : (deriveStorageTopology entityId edgeId environment store now
      (cycle.provided tables)).snapshot ∈ cycle.snapshots := by
    refine List.mem_append_right _ ?_
    rw [hderived]
    exact List.mem_singleton.mpr rfl
  have hsources : ∀ topology ∈ cycle.topology, topology.source = nfsSource := by
    intro topology ht
    rw [hderived] at ht
    rw [← Option.some.inj ht]
    exact source_topology
  -- a topology edge of the host is implied by the newest report, which has a table then
  have htopology : ∀ edge ∈ (deriveStorageTopology entityId edgeId environment store now
      (cycle.provided tables)).snapshot.dependencies, edge.source = host →
      edge.dependencyType = .usesStorage → ∃ newest, store.lastMountReport now host = some newest ∧
        carriesTable newest = true ∧
        ImpliesUse entityId environment (cycle.provided tables) newest edge.target := by
    intro edge hedge hsource htype'
    obtain ⟨newest, hnewest, storage, huse, rfl⟩ :=
      (mem_uses_topology hown hhost htype).mp ⟨hedge, htype', hsource⟩
    exact ⟨newest, hnewest, carriesTable_of_impliesUse huse, huse⟩
  constructor
  · rintro ⟨-, hkept⟩
    by_contra hnot
    rw [not_or] at hnot
    obtain ⟨hnewest, hvouches⟩ := hnot
    push Not at hvouches
    obtain ⟨storage, himplied, hvouches⟩ := hvouches
    obtain ⟨row, hrow, hrelation⟩ := hkept storage himplied
    have hedge := (hrows row).mp hrow
    refine hvouches ?_
    rcases origin_of_mem_inventory hsound hnames hedge with ⟨s, hs, hin⟩ | ⟨hbefore, -, hother⟩
    · rcases List.mem_append.mp hs with hprovider | ht
      · have hmerged := (Tables.mem_edges_inventory.mp hedge).1
        refine Or.inl ⟨s, hprovider, row, hin, hrelation, ?_⟩
        exact knows_merged.mp ((hsound.held_merged hnames).known row hmerged)
      · rw [hderived, Option.toList_some, List.mem_singleton] at ht
        obtain ⟨newest, hlast, htable, -⟩ := htopology row (ht ▸ hin) (congrArg Prod.fst hrelation)
          (congrArg (fun relation => relation.2.2) hrelation)
        exact absurd ⟨newest, hlast, htable⟩ hnewest
    · refine Or.inr ⟨row, hbefore, hrelation, fun hsource => ?_⟩
      exact hother _ hderived (hsource.trans source_topology.symm)
  · intro hcondition
    refine ⟨fun row hrow hsource htype' hnfs => ?_, fun storage himplied => ?_⟩
    · rcases origin_of_mem_inventory hsound hnames ((hrows row).mp hrow) with
        ⟨s, hs, hin⟩ | ⟨-, -, hother⟩
      · have heq := eq_of_source_eq hs hmem
          (((s.stamped row hin).symm.trans hnfs).trans source_topology.symm)
        obtain ⟨newest, hlast, htable, huse⟩ := htopology row (heq ▸ hin) hsource htype'
        exact ⟨newest, Store.lastMountTable_of_carriesTable hlast htable, huse⟩
      · exact absurd (hnfs.trans source_topology.symm) (hother _ hderived)
    · rcases hcondition with ⟨newest, hlast, htable⟩ | hvouches
      · obtain ⟨table, htable', huse⟩ := himplied
        rw [Store.lastMountTable_of_carriesTable hlast htable, Option.some.injEq] at htable'
        subst htable'
        have hknows := knows_use hderived hown hhost htype hlast huse
        have hedge : (usesStorage edgeId host storage).withDiscoverySource nfsSource ∈ _ :=
          ((mem_uses_topology hown hhost htype).mpr ⟨newest, hlast, storage, huse, rfl⟩).1
        obtain ⟨s, hs, row, hin, hid, hin'⟩ :=
          exists_mem_inventory_of_reported hsound hnames hmem hedge hknows
        refine ⟨row, (hrows row).mpr hin', ?_⟩
        exact (hnames s hs row hin).relation_eq (hnames _ hmem _ hedge) hid
      · exact exists_row_of_vouches hrun hallowed hsources (hvouches storage himplied)

end Keeps

/-- The first cycle after a host reported a mount. -/
theorem keepsMounts_first_table :
    let a : EntityId := ⟨⟨1⟩⟩
    let entityId (key : EntityKey) : EntityId :=
      if key.entityType = .storage then ⟨⟨3⟩⟩ else if key.canonicalName = "a" then a else ⟨⟨2⟩⟩
    let edgeId (r : Relation) : Uuid := if r.2.2 = .provides then ⟨1⟩ else ⟨2⟩
    let table : Observation := ⟨⟨⟨1⟩⟩, probeClientMount, a, none, 0, .ok,
      .obj [("mounts", .arr [.obj [("server", .str "fs")]])]⟩
    let store : Store := ⟨[⟨table, 0⟩], .new, [], [], fun _ => [], none⟩
    let declared := (InventorySnapshot.new .staticConfig).addEntity (.new a .host "a") rfl
    let provided := fold (Tables.mk ∅ []).loadInventory (some declared)
    let cycle : Cycle := ⟨[some declared],
      some (deriveStorageTopology entityId edgeId "lab" store 0 provided).snapshot, by decide +kernel⟩
    cycle.KeepsMounts entityId "lab" store 0 (Tables.mk ∅ []) a := by
  intro a entityId edgeId table store declared provided cycle
  have hedges : ∀ snapshot ∈ cycle.snapshots, ∀ edge ∈ snapshot.dependencies, edge.Names fun id =>
      if id = ⟨1⟩ then (⟨⟨3⟩⟩, ⟨⟨2⟩⟩, .provides) else (a, ⟨⟨3⟩⟩, .usesStorage) := by
    unfold DependencyEdge.Names
    decide +kernel
  have hrun : (discovery nfsSource fun id =>
      if id = ⟨1⟩ then (⟨⟨3⟩⟩, ⟨⟨2⟩⟩, .provides) else (a, ⟨⟨3⟩⟩, .usesStorage)).Run [] (Tables.mk ∅ []) :=
    .init rfl
  have hhost : ((cycle.provided (Tables.mk ∅ [])).get a).map ManagedEntity.entityType = some .host := by
    decide +kernel
  obtain ⟨entity, hhost, htype⟩ := Option.map_eq_some_iff.mp hhost
  have hderived : cycle.topology = some (deriveStorageTopology entityId edgeId "lab" store 0
      (cycle.provided (Tables.mk ∅ []))).snapshot := rfl
  refine (keepsMounts_iff hrun ⟨hedges, ?_, ?_⟩ hderived hhost htype ?_).mpr (Or.inl ⟨table, rfl, rfl⟩)
  · intro topology ht
    rw [← Option.some.inj ht]
    exact source_topology
  · intro snapshot hsnapshot
    rw [List.mem_singleton.mp hsnapshot]
    exact DiscoverySource.noConfusion
  · intro o ho _ _
    rw [List.mem_singleton.mp ho]

/-- A probe that timed out takes the edges of the last mount table away. -/
theorem timeout_retracts_mounts :
    let a : EntityId := ⟨⟨1⟩⟩
    let entityId (key : EntityKey) : EntityId :=
      if key.entityType = .storage then ⟨⟨3⟩⟩ else if key.canonicalName = "a" then a else ⟨⟨2⟩⟩
    let edgeId (r : Relation) : Uuid := if r.2.2 = .provides then ⟨1⟩ else ⟨2⟩
    let table : Observation := ⟨⟨⟨1⟩⟩, probeClientMount, a, none, 0, .ok,
      .obj [("mounts", .arr [.obj [("server", .str "fs")]])]⟩
    let timedOut : Observation := ⟨⟨⟨2⟩⟩, probeClientMount, a, none, 30, .timeout, .null⟩
    let before : Store := ⟨[⟨table, 0⟩], .new, [], [], fun _ => [], none⟩
    let after : Store := ⟨[⟨table, 0⟩, ⟨timedOut, 30⟩], .new, [], [], fun _ => [], none⟩
    let declared := (InventorySnapshot.new .staticConfig).addEntity (.new a .host "a") rfl
    let derived (store : Store) (tables : Tables) : Option InventorySnapshot :=
      some (deriveStorageTopology entityId edgeId "lab" store 30
        (fold tables.loadInventory (some declared))).snapshot
    let first : Cycle := ⟨[some declared], derived before (Tables.mk ∅ []), by decide +kernel⟩
    let tables := (Tables.mk ∅ []).discoverOnce first
    let second : Cycle := ⟨[some declared], derived after tables, by decide +kernel⟩
    (tables.dependencies.map DependencyEdge.relation = [(⟨⟨3⟩⟩, ⟨⟨2⟩⟩, .provides), (a, ⟨⟨3⟩⟩, .usesStorage)]) ∧
      after.lastMountTable 30 a = some table ∧
      (tables.discoverOnce second).dependencies = [] ∧
      ¬ second.KeepsMounts entityId "lab" after 30 tables a := by
  intro a entityId edgeId table timedOut before after declared derived first tables second
  have hrows : (tables.discoverOnce second).dependencies = [] := by decide +kernel
  refine ⟨by decide +kernel, rfl, hrows, fun hkeeps => ?_⟩
  obtain ⟨row, hrow, -⟩ := hkeeps.2 ⟨⟨3⟩⟩ ⟨table, rfl, "fs", by decide +kernel, "fs", by decide +kernel,
    by decide +kernel, by decide +kernel⟩
  rw [hrows] at hrow
  exact absurd hrow List.not_mem_nil

end Cycle

end Sentinel
