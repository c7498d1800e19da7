import Sentinel.Controller.Environments
import Sentinel.Controller.Facts
import Sentinel.Inventory.Nfs
import Sentinel.Inventory.Slurm

/-!
# What registrations say about accelerators

An agent says in its registration whether NVIDIA monitoring is available on its host,
and the controller disables the GPU probe of a host that has none.  The flag is kept in
the entity's metadata, so that it can be read again from the stored inventory.

Discovery never touches the flag: no provider claims to be an agent or has something to
say under the name the flag is nested in.  A registration sets it.

## Main definitions

* `ManagedEntity.gpuMonitoring` — whether the GPU probe of an entity is monitored.
* `said` — what the registrations of an entity said last.
* `InventorySnapshot.Plain` — a snapshot that is no agent's.
* `Provided` — a snapshot of one of the providers.

## Main results

* `Provided.plain` — no provider is an agent.
* `Tables.said_discover`, `Tables.said_register` — what is stored of the flag after a
  discovery cycle and after a registration.
-/

namespace Sentinel

namespace Json

/-- Where a registration puts its flag. -/
def gpuPath : List String := ["agent", "gpu_nvidia_monitoring"]

/-- The flag of a registration, if there is one. -/
def gpuFlag (metadata : Json) : Option Bool :=
  ((metadata.get "agent").bind fun agent => agent.get "gpu_nvidia_monitoring").bind asBool

/-- The flag is a fact. -/
theorem gpuFlag_eq (metadata : Json) : metadata.gpuFlag = (metadata.fact gpuPath).bind asBool := by
  rw [gpuFlag, gpuPath, fact_cons]
  cases metadata.get "agent" with
  | none => rfl
  | some agent =>
    rw [Option.bind_some, Option.bind_some, fact_cons]
    cases agent.get "gpu_nvidia_monitoring" with
    | none => rfl
    | some value => cases value <;> rfl

theorem gpuFlag_mergeMetadata (existing incoming : Json) :
    (existing.mergeMetadata incoming).gpuFlag =
      if incoming.touches gpuPath then incoming.gpuFlag else existing.gpuFlag := by
  rw [gpuFlag_eq, gpuFlag_eq, gpuFlag_eq, fact_mergeMetadata]
  split <;> rfl

end Json

namespace ManagedEntity

/-- Whether an agent registered the entity. -/
def registered (entity : ManagedEntity) : Bool := .agentRegistration ∈ entity.discoverySources

/-- Whether the GPU probe of an entity is monitored, as far as a registration says so.
Older registrations have no explicit flag; their capabilities are used. -/
def gpuMonitoring (entity : ManagedEntity) : Option Bool :=
  if entity.entityType ≠ .host || !entity.registered then none
  else some (entity.metadata.gpuFlag.getD (entity.capabilities.contains ⟨"gpu.nvidia"⟩))

end ManagedEntity

/-- What the registrations of an entity said last: nothing of one that no agent
registered. -/
def said (entity : Option ManagedEntity) : Option (Option Bool) :=
  entity.bind fun entity => if entity.registered then some entity.metadata.gpuFlag else none

theorem said_some (entity : ManagedEntity) :
    said (some entity) = if entity.registered then some entity.metadata.gpuFlag else none := rfl

/-- With a flag that is explicit, nothing else is asked. -/
theorem gpuMonitoring_eq_some_iff {entity : ManagedEntity} (hsaid : said (some entity) ≠ some none)
    {enabled : Bool} : entity.gpuMonitoring = some enabled ↔
      entity.entityType = .host ∧ said (some entity) = some (some enabled) := by
  rw [said_some] at hsaid ⊢
  rw [ManagedEntity.gpuMonitoring]
  by_cases htype : entity.entityType = .host
  · cases hregistered : entity.registered with
    | false => simp
    | true =>
      rw [hregistered, if_pos rfl] at hsaid
      cases hflag : entity.metadata.gpuFlag with
      | none => exact absurd (congrArg some hflag) hsaid
      | some b => simp [htype]
  · simp [htype]

/-! ### One entity -/

/-- A report that is no agent's and has nothing to say where a registration puts its
flag. -/
structure ManagedEntity.Plain (kind : EntityId → EntityType) (report : ManagedEntity) : Prop where
  /-- The kind of the entity is the one its identifier is derived from. -/
  kind : report.entityType = kind report.id
  /-- No agent registered it. -/
  registered : report.registered = false
  /-- It has nothing to say on the flag. -/
  silent : report.metadata.touches Json.gpuPath = false

/-- A snapshot of such reports. -/
structure InventorySnapshot.Plain (kind : EntityId → EntityType) (snapshot : InventorySnapshot) :
    Prop where
  /-- It is no agent's. -/
  source : snapshot.source ≠ .agentRegistration
  /-- The reports. -/
  entities : ∀ report ∈ snapshot.entities, report.Plain kind

variable {kind : EntityId → EntityType} {id : EntityId}

namespace ManagedEntity

theorem registered_mergeInto (existing incoming : ManagedEntity) :
    (existing.mergeInto incoming).registered = (existing.registered || incoming.registered) := by
  rw [Bool.eq_iff_iff, Bool.or_eq_true, registered, registered, registered, decide_eq_true_iff,
    decide_eq_true_iff, decide_eq_true_iff]
  exact mem_addSources _ _

/-- A plain report leaves what was said as it is. -/
theorem Plain.said_absorb {report : ManagedEntity} (h : report.Plain kind) (entity : Option ManagedEntity) :
    said (absorb entity report) = said entity := by
  cases entity with
  | none =>
    rw [absorb, said_some, h.registered]
    rfl
  | some entity =>
    rw [absorb, said_some, said_some, registered_mergeInto, h.registered, Bool.or_false]
    change (if _ then some (entity.metadata.mergeMetadata report.metadata).gpuFlag else none) = _
    rw [Json.gpuFlag_mergeMetadata, h.silent]
    rfl

/-- Everything known of an entity has the kind of its identifier. -/
def OfKind (kind : EntityId → EntityType) (id : EntityId) (entity : Option ManagedEntity) : Prop :=
  ∀ known, entity = some known → known.entityType = kind id

theorem OfKind.absorb {entity : Option ManagedEntity} (h : OfKind kind id entity) {report : ManagedEntity}
    (hreport : report.entityType = kind id) : OfKind kind id (absorb entity report) := by
  intro known hknown
  cases entity with
  | none =>
    rw [← Option.some.inj hknown]
    exact hreport
  | some entity =>
    rw [← Option.some.inj hknown]
    exact h entity rfl

end ManagedEntity

/-- The facets that a mark of staleness keeps. -/
theorem Inventory.markStale_frame (snapshot : InventorySnapshot) (entity : ManagedEntity) :
    ∃ lifecycle, markStale snapshot entity = { entity with lifecycleState := lifecycle } := by
  rw [markStale]
  split
  · exact ⟨_, rfl⟩
  · exact ⟨entity.lifecycleState, rfl⟩

theorem said_map_markStale (snapshot : InventorySnapshot) (entity : Option ManagedEntity) :
    said (entity.map (Inventory.markStale snapshot)) = said entity := by
  cases entity with
  | none => rfl
  | some entity =>
    obtain ⟨lifecycle, heq⟩ := Inventory.markStale_frame snapshot entity
    rw [Option.map_some, heq]
    rfl

/-! ### One entity over a cycle -/

/-- What is found of an entity, in the course of a cycle that began with `before`. -/
structure Followed (kind : EntityId → EntityType) (id : EntityId) (before after : Option ManagedEntity) :
    Prop where
  /-- Nothing was said. -/
  said : said after = said before
  /-- The kind. -/
  kind : ManagedEntity.OfKind kind id after
  /-- Sources accumulate. -/
  registered : ∀ known, before = some known → known.registered = true →
    ∃ found, after = some found ∧ found.registered = true

theorem Followed.absorb {before after : Option ManagedEntity} (h : Followed kind id before after)
    {report : ManagedEntity} (hreport : report.Plain kind) (hid : report.id = id) :
    Followed kind id before (ManagedEntity.absorb after report) where
  said := (hreport.said_absorb after).trans h.said
  kind := h.kind.absorb (hid ▸ hreport.kind)
  registered := by
    intro known hknown hregistered
    obtain ⟨found, rfl, hfound⟩ := h.registered known hknown hregistered
    refine ⟨found.mergeInto report, rfl, ?_⟩
    rw [ManagedEntity.registered_mergeInto, hfound, Bool.true_or]

theorem Followed.absorbAll {before : Option ManagedEntity} (reports : List ManagedEntity) :
    ∀ {after : Option ManagedEntity}, Followed kind id before after →
      (∀ report ∈ reports, report.Plain kind ∧ report.id = id) →
      Followed kind id before (reports.foldl ManagedEntity.absorb after) := by
  induction reports with
  | nil => intro after h _; exact h
  | cons report reports ih =>
    intro after h hreports
    rw [List.forall_mem_cons] at hreports
    exact ih (h.absorb hreports.1.1 hreports.1.2) hreports.2

theorem Followed.markStale {before after : Option ManagedEntity} (h : Followed kind id before after)
    (snapshot : InventorySnapshot) : Followed kind id before (after.map (Inventory.markStale snapshot)) where
  said := (said_map_markStale snapshot after).trans h.said
  kind := by
    intro known hknown
    obtain ⟨found, rfl, rfl⟩ := Option.map_eq_some_iff.mp hknown
    obtain ⟨lifecycle, heq⟩ := Inventory.markStale_frame snapshot found
    rw [heq]
    exact h.kind found rfl
  registered := by
    intro known hknown hregistered
    obtain ⟨found, rfl, hfound⟩ := h.registered known hknown hregistered
    obtain ⟨lifecycle, heq⟩ := Inventory.markStale_frame snapshot found
    refine ⟨Inventory.markStale snapshot found, rfl, ?_⟩
    rw [heq]
    exact hfound

/-- **One entity over a cycle of plain snapshots.** -/
theorem Followed.cycle {before : Option ManagedEntity} (snapshots : List InventorySnapshot) :
    ∀ {after : Option ManagedEntity}, Followed kind id before after →
      (∀ snapshot ∈ snapshots, snapshot.Plain kind) →
      Followed kind id before (snapshots.foldl (fun entity snapshot => snapshot.seen id entity) after) := by
  induction snapshots with
  | nil => intro after h _; exact h
  | cons snapshot snapshots ih =>
    intro after h hsnapshots
    rw [List.forall_mem_cons] at hsnapshots
    refine ih ((Followed.absorbAll _ h fun report hreport => ?_).markStale snapshot) hsnapshots.2
    obtain ⟨hmem, hid⟩ := List.mem_filter.mp hreport
    exact ⟨hsnapshots.1.entities report hmem, of_decide_eq_true hid⟩

/-! ### The providers -/

namespace InventorySnapshot.Plain

variable {snapshot : InventorySnapshot}

theorem new {source : DiscoverySource} (h : source ≠ .agentRegistration) :
    (InventorySnapshot.new source).Plain kind :=
  ⟨h, fun report hreport => by cases hreport⟩

theorem addEntity (h : snapshot.Plain kind) {entity : ManagedEntity}
    (hactive : entity.lifecycleState = .active) (hentity : entity.Plain kind) :
    (snapshot.addEntity entity hactive).Plain kind := by
  refine ⟨h.source, fun report hreport => ?_⟩
  rcases List.mem_append.mp hreport with hreport | hreport
  · exact h.entities report hreport
  · rw [List.mem_singleton.mp hreport, ManagedEntity.withDiscoverySource]
    split
    · exact hentity
    · refine ⟨hentity.kind, decide_eq_false fun hmem => ?_, hentity.silent⟩
      rcases List.mem_append.mp hmem with hmem | hmem
      · exact of_decide_eq_false hentity.registered hmem
      · exact h.source (List.mem_singleton.mp hmem).symm

theorem addDependency (h : snapshot.Plain kind) (edge : DependencyEdge) :
    (snapshot.addDependency edge).Plain kind := ⟨h.source, h.entities⟩

end InventorySnapshot.Plain

/-- A snapshot of one of the providers: the configuration, Slurm, or the mounts that
agents reported. -/
inductive Provided (entityId : EntityKey → EntityId) : InventorySnapshot → Prop
  | static (provider : StaticConfigProvider) (edgeId : Relation → Uuid) :
      Provided entityId (provider.snapshot entityId edgeId)
  | slurm (site : Slurm.Site) (view : Slurm.SlurmView) (h : site.entityId = entityId) :
      Provided entityId (Slurm.snapshotFromView site view)
  | nfs (edgeId : Relation → Uuid) (environment : String) (inventory : Inventory)
      (observations : List Observation) :
      Provided entityId (topologyFromMounts entityId edgeId environment inventory observations).snapshot

section Providers

variable {entityId : EntityKey → EntityId} (hkind : ∀ key, kind (entityId key) = key.entityType)

include hkind

/-- A new entity is plain, whatever a provider writes of it beside the flag. -/
theorem plain_new (key : EntityKey) {entity : ManagedEntity} (hid : entity.id = entityId key)
    (htype : entity.entityType = key.entityType) (hsources : entity.discoverySources = [])
    (hsilent : entity.metadata.touches Json.gpuPath = false) : entity.Plain kind := by
  refine ⟨by rw [htype, hid, hkind], ?_, hsilent⟩
  rw [ManagedEntity.registered, hsources]
  rfl

/-- What the configuration declares of an entity. -/
theorem plain_declared (declared : EntityConfig) (environment : String) (entityType : EntityType) :
    (declared.entity (entityId ⟨environment, entityType, declared.name⟩) entityType).Plain kind := by
  refine plain_new hkind ⟨environment, entityType, declared.name⟩ (declared.id_entity _ _) ?_ ?_ ?_
  · exact EntityConfig.column_entity ManagedEntity.entityType (fun _ _ => rfl) (fun _ _ => rfl)
      (fun _ _ _ => rfl) (fun _ _ => rfl) declared _ _
  · exact EntityConfig.column_entity ManagedEntity.discoverySources (fun _ _ => rfl) (fun _ _ => rfl)
      (fun _ _ _ => rfl) (fun _ _ => rfl) declared _ _
  · change declared.metadata.touches Json.gpuPath = false
    rw [EntityConfig.metadata]
    cases declared.addresses.isEmpty <;> cases declared.ports.isEmpty <;> rfl

theorem StaticConfigProvider.plain_snapshot (provider : StaticConfigProvider) (edgeId : Relation → Uuid) :
    (provider.snapshot entityId edgeId).Plain kind := by
  have hentities : (provider.entities.foldl (provider.addDeclared entityId) (.new .staticConfig)).Plain kind := by
    refine List.foldlRecOn (motive := InventorySnapshot.Plain kind) _ _ (.new (by decide)) ?_
    intro snapshot h declared _
    rw [addDeclared]
    split
    · exact h
    · exact h.addEntity _ (plain_declared hkind declared _ _)
  refine List.foldlRecOn (motive := InventorySnapshot.Plain kind) _ _ hentities ?_
  intro snapshot h declared _
  rw [addEdge]
  split
  · exact h.addDependency _
  · exact h

theorem Slurm.plain_snapshot {site : Slurm.Site} (hsite : site.entityId = entityId)
    (view : Slurm.SlurmView) : (Slurm.snapshotFromView site view).Plain kind := by
  have hplain : ∀ {entityType : EntityType} {name : String} {entity : ManagedEntity},
      entity.id = site.id entityType name → entity.entityType = entityType →
      entity.discoverySources = [] → entity.metadata.touches Json.gpuPath = false → entity.Plain kind := by
    intro entityType name entity hid
    exact plain_new hkind ⟨site.environment, entityType, name⟩ (hid.trans (by rw [Slurm.Site.id, hsite]))
  refine List.foldlRecOn (motive := InventorySnapshot.Plain kind) _ _ ?_ ?_
  · refine List.foldlRecOn (motive := InventorySnapshot.Plain kind) _ _ ?_ ?_
    · exact (InventorySnapshot.Plain.new (by decide)).addEntity _ (hplain rfl rfl rfl rfl)
    · intro snapshot h node _
      refine InventorySnapshot.Plain.addDependency (.addDependency (.addEntity (.addEntity h _ ?_) _ ?_) _) _
      · exact hplain rfl rfl rfl rfl
      · exact hplain rfl rfl rfl rfl
  · intro snapshot h controller _
    refine InventorySnapshot.Plain.addDependency (.addDependency (.addEntity (.addEntity h _ ?_) _ ?_) _) _
    · exact hplain rfl rfl rfl rfl
    · exact hplain rfl rfl rfl rfl

theorem plain_topology (edgeId : Relation → Uuid) (environment : String) (inventory : Inventory)
    (observations : List Observation) :
    (topologyFromMounts entityId edgeId environment inventory observations).snapshot.Plain kind := by
  refine List.foldlRecOn (motive := InventorySnapshot.Plain kind) _ _ (.new (by decide)) ?_
  intro snapshot h entry _
  refine List.foldlRecOn (motive := InventorySnapshot.Plain kind) _ _ ?_ fun snapshot h client _ =>
    h.addDependency _
  refine InventorySnapshot.Plain.addDependency (.addEntity (.addEntity h _ ?_) _ ?_) _
  · exact plain_new hkind ⟨environment, .host, entry.1⟩ rfl rfl rfl rfl
  · exact plain_new hkind ⟨environment, .storage, storageName entry.1⟩ rfl rfl rfl rfl

/-- **No provider is an agent.** -/
theorem Provided.plain {snapshot : InventorySnapshot} (h : Provided entityId snapshot) :
    snapshot.Plain kind := by
  cases h with
  | static provider edgeId => exact provider.plain_snapshot hkind edgeId
  | slurm site view hsite => exact Slurm.plain_snapshot hkind hsite view
  | nfs edgeId environment inventory observations =>
    exact plain_topology hkind edgeId environment inventory observations

end Providers

/-! ### The stored row -/

namespace Tables

/-- Reconciling touches the capabilities alone. -/
theorem foldl_reconciled_eq (snapshots : List InventorySnapshot) (id : EntityId) :
    ∀ row : EntityRow, ∃ capabilities,
      snapshots.foldl (fun row snapshot => reconciled snapshot id row) row =
        { row with capabilities := capabilities } := by
  have hone : ∀ (snapshot : InventorySnapshot) (reports : List ManagedEntity) (row : EntityRow),
      ∃ capabilities, reports.foldl (fun row entity =>
        row.reconcile snapshot.source entity.capabilities) row =
          { row with capabilities := capabilities } := by
    intro snapshot reports
    induction reports with
    | nil => intro row; exact ⟨row.capabilities, rfl⟩
    | cons report reports ih => intro row; exact ih (row.reconcile snapshot.source report.capabilities)
  induction snapshots with
  | nil => intro row; exact ⟨row.capabilities, rfl⟩
  | cons snapshot snapshots ih =>
    intro row
    obtain ⟨capabilities, hrow⟩ := hone snapshot (snapshot.reportsOf id) row
    rw [List.foldl_cons, reconciled, hrow]
    exact ih { row with capabilities := capabilities }

/-- **What is stored of an entity** says what was found of it. -/
theorem said_saved {row : Option EntityRow} {found : Option ManagedEntity}
    (hrow : ManagedEntity.OfKind kind id (row.map fun row => row.toEntity id))
    (hfound : ManagedEntity.OfKind kind id found)
    (hregistered : ∀ known, (row.map fun row => row.toEntity id) = some known →
      known.registered = true → ∃ entity, found = some entity ∧ entity.registered = true)
    (snapshots : List InventorySnapshot) :
    said ((saved row found snapshots id).map fun row => row.toEntity id) = said found ∧
      ManagedEntity.OfKind kind id ((saved row found snapshots id).map fun row => row.toEntity id) := by
  rw [saved]
  cases found with
  | none =>
    cases row with
    | none => exact ⟨rfl, fun known h => by cases h⟩
    | some row =>
      obtain ⟨capabilities, heq⟩ := foldl_reconciled_eq snapshots id row
      simp only [Option.map_none, Option.none_or, Option.map_some, heq]
      refine ⟨?_, fun known hknown => ?_⟩
      · have hnot : (row.toEntity id).registered = false := by
          by_contra hne
          obtain ⟨entity, h, -⟩ := hregistered _ rfl (Bool.eq_true_of_not_eq_false hne)
          cases h
        exact if_neg (ne_true_of_eq_false hnot)
      · rw [← Option.some.inj hknown]
        exact hrow (row.toEntity id) rfl
  | some entity =>
    obtain ⟨capabilities, heq⟩ := foldl_reconciled_eq snapshots id (EntityRow.save row entity)
    simp only [Option.map_some, Option.some_or, heq]
    refine ⟨?_, fun known hknown => ?_⟩
    · have hsources : ((EntityRow.save row entity).toEntity id).registered = entity.registered := by
        rw [Bool.eq_iff_iff, ManagedEntity.registered, ManagedEntity.registered, decide_eq_true_iff,
          decide_eq_true_iff]
        refine (ManagedEntity.mem_addSources _ _).trans (or_iff_right_of_imp fun hmem => ?_)
        -- a source that the row had was found again
        cases row with
        | none => cases hmem
        | some row =>
          obtain ⟨entity', h, hregistered'⟩ := hregistered _ rfl (decide_eq_true hmem)
          rw [Option.some.inj h]
          exact of_decide_eq_true hregistered'
      change (if ((EntityRow.save row entity).toEntity id).registered then
        some entity.metadata.gpuFlag else none) = _
      rw [hsources, said_some]
    · rw [← Option.some.inj hknown]
      cases row with
      | none => exact hfound entity rfl
      | some row => exact hrow (row.toEntity id) rfl

/-! ### Requests -/

variable {home : EntityId → String} {entityId : EntityKey → EntityId} {environment : String}
  {tables : Tables}

/-- What is stored of an entity of the environment. -/
theorem get_load_within (hhome : home id = environment) (tables : Tables) :
    (tables.within home environment).loadInventory.get id =
      tables.entities[id]?.map fun row => row.toEntity id := by
  rw [get_loadInventory, getElem?_within, if_pos hhome]

/-- **Discovery says nothing about monitoring.** -/
theorem said_discover (entityId : EntityKey → EntityId) (hhome : home id = environment)
    (hkind : ManagedEntity.OfKind kind id ((tables.within home environment).loadInventory.get id))
    {cycle : Cycle} (hcycle : ∀ snapshot ∈ cycle.snapshots, snapshot.Plain kind) :
    let after := tables.serve home entityId environment (.discover cycle)
    said ((after.within home environment).loadInventory.get id) =
        said ((tables.within home environment).loadInventory.get id) ∧
      ManagedEntity.OfKind kind id ((after.within home environment).loadInventory.get id) := by
  intro after
  have hafter : after.entities[id]? = saved tables.entities[id]?
      ((cycle.merged (tables.within home environment)).get id) cycle.snapshots id := by
    change (cycle.snapshots.foldl reconcileSnapshotCapabilities _).entities[id]? = _
    rw [getElem?_foldl_reconcile, getElem?_saveInventory, entities_retract, Cycle.get_inventory, saved]
  rw [get_load_within hhome] at hkind
  rw [get_load_within hhome, get_load_within hhome, hafter]
  have hfollowed := Followed.cycle cycle.snapshots
    ⟨rfl, hkind, fun known hknown hregistered => ⟨known, hknown, hregistered⟩⟩ hcycle
  rw [Cycle.get_merged, getElem?_within, if_pos hhome]
  obtain ⟨hsaid, hofKind⟩ := said_saved hkind hfollowed.kind hfollowed.registered cycle.snapshots
  exact ⟨hsaid.trans hfollowed.said, hofKind⟩

/-- **A registration says whether its host is monitored**, and nothing about others. -/
theorem said_register (hhome : home id = environment)
    (hkind : ManagedEntity.OfKind kind id ((tables.within home environment).loadInventory.get id))
    {request : RegisterRequest}
    (hhost : kind (entityId ⟨request.environment, .host, request.hostname⟩) = .host) :
    let after := tables.serve home entityId environment (.register request)
    said ((after.within home environment).loadInventory.get id) =
        (if entityId ⟨request.environment, .host, request.hostname⟩ = id then
          some (some (request.capabilities.contains ⟨"gpu.nvidia"⟩))
        else said ((tables.within home environment).loadInventory.get id)) ∧
      ManagedEntity.OfKind kind id ((after.within home environment).loadInventory.get id) := by
  intro after
  set snapshot := snapshotFromRegistration entityId request with hsnapshot
  have hafter : after.entities[id]? = saved tables.entities[id]?
      ((snapshot.reportsOf id).foldl ManagedEntity.absorb
        (tables.entities[id]?.map fun row => row.toEntity id)) [snapshot] id := by
    change ((tables.saveInventory _).reconcileSnapshotCapabilities snapshot).entities[id]? = _
    rw [getElem?_reconcileSnapshotCapabilities, getElem?_saveInventory, Inventory.get_merge,
      get_load_within hhome, saved]
    rfl
  rw [get_load_within hhome] at hkind
  rw [get_load_within hhome, get_load_within hhome, hafter]
  generalize hbefore : (tables.entities[id]?.map fun row => row.toEntity id) = before at hkind ⊢
  have hreports : snapshot.reportsOf id =
      if entityId ⟨request.environment, .host, request.hostname⟩ = id then snapshot.entities else [] := by
    rw [InventorySnapshot.reportsOf, hsnapshot]
    change List.filter _ [_] = _
    rw [List.filter_singleton]
    change (bif decide (entityId ⟨request.environment, .host, request.hostname⟩ = id) then _ else _) = _
    split
    · next hid => rw [decide_eq_true hid]; rfl
    · next hid => rw [decide_eq_false hid]; rfl
  rw [hreports]
  split
  · next hid =>
    set report := (request.entity id).withDiscoverySource .agentRegistration with hreport
    have hentities : snapshot.entities = [report] := by
      rw [hreport, ← hid]
      rfl
    rw [hentities, List.foldl_cons, List.foldl_nil]
    have hregistered : ∀ known, (tables.entities[id]?.map fun row => row.toEntity id) = some known →
        known.registered = true →
        ∃ entity, ManagedEntity.absorb before report = some entity ∧ entity.registered = true := by
      intro known hknown hregistered
      obtain rfl : before = some known := hbefore.symm.trans hknown
      refine ⟨known.mergeInto report, rfl, ?_⟩
      rw [ManagedEntity.registered_mergeInto, hregistered, Bool.true_or]
    have htype : report.entityType = kind id := hid ▸ hhost.symm
    obtain ⟨hsaid, hofKind⟩ := said_saved (hbefore ▸ hkind) (hkind.absorb htype) hregistered [snapshot]
    refine ⟨hsaid.trans ?_, hofKind⟩
    cases before with
    | none => rfl
    | some known =>
      rw [ManagedEntity.absorb, said_some, ManagedEntity.registered_mergeInto]
      change (if known.registered || true then
        some (known.metadata.mergeMetadata request.metadata).gpuFlag else none) = _
      rw [Bool.or_true, if_pos rfl, Json.gpuFlag_mergeMetadata]
      rfl
  · rw [List.foldl_nil]
    exact said_saved (hbefore ▸ hkind) hkind
      (fun known hknown hregistered => ⟨known, hbefore ▸ hknown, hregistered⟩) [snapshot]

end Tables

end Sentinel
