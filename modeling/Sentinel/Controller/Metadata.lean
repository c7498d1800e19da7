import Sentinel.Controller.Absence
import Sentinel.Controller.Environments
import Sentinel.Controller.Facts
import Sentinel.Controller.Monitoring
import Sentinel.Inventory.Declared

/-!
# Where stored metadata comes from

Metadata is merged name by name, at the top: the last report that has a name decides
what is stored under it, the whole of it, and a report that does not have the name leaves
it alone.

The providers never write under `host`, which is the agents' own, and an agent never
writes `addresses`, which is the configuration's.

## Main definitions

* `told`, `Tables.field` — what reports say of a name, what is stored under it.
* `Survey`, `Survey.cycle` — what the providers have to go by, and the cycle it makes.
* `Event`, `Tables.after` — cycles and registrations, from an empty database on.

## Main results

* `Tables.field_serve`, `Tables.field_after` — what is stored under a name is what was
  said of it last.
* `Tables.field_host`, `Tables.field_addresses` — for `host`, the last registration; for
  `addresses`, the last declaration with any.
-/

namespace Sentinel

variable {id : EntityId} {name : String} {snapshot : InventorySnapshot}
  {snapshots : List InventorySnapshot} {entity : ManagedEntity}

/-! ### Names under a merge -/

namespace Json

/-- What a value does not touch it does not have. -/
theorem get_of_not_touches {value : Json} (h : value.touches [name] = false) : value.get name = none := by
  cases value with
  | obj fields => exact Option.not_isSome_iff_eq_none.mp (Bool.eq_false_iff.mp h)
  | _ => rfl

/-- **A merge, name by name.** -/
theorem get_mergeMetadata (existing incoming : Json) :
    (existing.mergeMetadata incoming).get name =
      if incoming.touches [name] then incoming.get name else existing.get name := by
  cases incoming with
  | obj fields =>
    cases existing with
    | obj before =>
      change (List.foldr _ before fields).lookup name =
        if (fields.lookup name).isSome then fields.lookup name else before.lookup name
      rw [lookup_foldr_setField]
      cases fields.lookup name <;> rfl
    | _ =>
      change fields.lookup name = if (fields.lookup name).isSome then fields.lookup name else none
      cases fields.lookup name <;> rfl
  | _ => cases existing <;> rfl

end Json

/-- What a report says of a name: nothing, or what is to be stored under it. -/
def ManagedEntity.tells (report : ManagedEntity) (name : String) : Option (Option Json) :=
  if report.metadata.touches [name] then some (report.metadata.get name) else none

/-- What reports say of a name: the last that says something decides. -/
def told (reports : List ManagedEntity) (name : String) : Option (Option Json) :=
  reports.reverse.findSome? fun report => report.tells name

/-- What an entity has under a name. -/
def fieldOf (entity : Option ManagedEntity) (name : String) : Option Json :=
  entity.bind fun entity => entity.metadata.get name

/-- What is stored under a name of an entity's metadata. -/
def Tables.field (tables : Tables) (id : EntityId) (name : String) : Option Json :=
  tables.entities[id]?.bind fun row => row.metadata.get name

theorem told_append (reports reports' : List ManagedEntity) :
    told (reports ++ reports') name = (told reports' name).or (told reports name) := by
  rw [told, List.reverse_append, List.findSome?_append]
  rfl

theorem told_singleton (report : ManagedEntity) : told [report] name = report.tells name := by
  rw [told, List.reverse_singleton, List.findSome?_cons, List.findSome?_nil]
  cases report.tells name <;> rfl

theorem told_cons (report : ManagedEntity) (reports : List ManagedEntity) :
    told (report :: reports) name = (told reports name).or (report.tells name) := by
  rw [← List.singleton_append, told_append, told_singleton]

/-- Reports that all leave a name alone. -/
theorem told_eq_none {reports : List ManagedEntity} (h : ∀ report ∈ reports, report.tells name = none) :
    told reports name = none :=
  List.findSome?_eq_none_iff.mpr fun report hreport => h report (List.mem_reverse.mp hreport)

theorem fieldOf_absorb (entity : Option ManagedEntity) (report : ManagedEntity) :
    fieldOf (ManagedEntity.absorb entity report) name = (report.tells name).getD (fieldOf entity name) := by
  rw [ManagedEntity.tells]
  cases entity with
  | none =>
    change report.metadata.get name = _
    split
    · rfl
    · next h => exact Json.get_of_not_touches (Bool.eq_false_iff.mpr h)
  | some entity =>
    change (entity.metadata.mergeMetadata report.metadata).get name = _
    rw [Json.get_mergeMetadata]
    split <;> rfl

theorem fieldOf_foldl_absorb (reports : List ManagedEntity) :
    ∀ entity : Option ManagedEntity, fieldOf (reports.foldl ManagedEntity.absorb entity) name =
      (told reports name).getD (fieldOf entity name) := by
  induction reports with
  | nil => intro entity; rfl
  | cons report reports ih =>
    intro entity
    rw [List.foldl_cons, ih, fieldOf_absorb, told_cons]
    cases told reports name <;> rfl

theorem fieldOf_seen (entity : Option ManagedEntity) :
    fieldOf (snapshot.seen id entity) name =
      (told (snapshot.reportsOf id) name).getD (fieldOf entity name) := by
  have hmark : ∀ entity : Option ManagedEntity,
      fieldOf (entity.map (Inventory.markStale snapshot)) name = fieldOf entity name := by
    rintro (_ | entity)
    · rfl
    · change (Inventory.markStale snapshot entity).metadata.get name = _
      rw [Inventory.markStale]
      split <;> rfl
  rw [InventorySnapshot.seen, hmark, fieldOf_foldl_absorb]

theorem fieldOf_foldl_seen (snapshots : List InventorySnapshot) :
    ∀ entity : Option ManagedEntity,
      fieldOf (snapshots.foldl (fun entity s => s.seen id entity) entity) name =
        (told (snapshots.flatMap fun s => s.reportsOf id) name).getD (fieldOf entity name) := by
  induction snapshots with
  | nil => intro entity; rfl
  | cons snapshot snapshots ih =>
    intro entity
    rw [List.foldl_cons, ih, fieldOf_seen, List.flatMap_cons, told_append]
    cases told (snapshots.flatMap fun s => s.reportsOf id) name <;> rfl

/-! ### What is stored -/

/-- The reports of an entity in a request. -/
def Request.reportsOf (entityId : EntityKey → EntityId) (id : EntityId) : Request → List ManagedEntity
  | .discover cycle => cycle.snapshots.flatMap fun snapshot => snapshot.reportsOf id
  | .register request => (snapshotFromRegistration entityId request).reportsOf id
  | .capabilities _ _ | .dependencies _ _ => []

namespace Tables

variable {tables : Tables} {home : EntityId → String} {entityId : EntityKey → EntityId}
  {environment : String}

theorem fieldOf_toEntity (row : Option EntityRow) :
    fieldOf (row.map fun row => row.toEntity id) name = row.bind fun row => row.metadata.get name := by
  cases row <;> rfl

/-- The metadata of a row is that of the entity saved. -/
theorem field_saved {row : Option EntityRow} {entity : Option ManagedEntity}
    (h : row.isSome → entity.isSome) (snapshots : List InventorySnapshot) :
    ((saved row entity snapshots id).bind fun row => row.metadata.get name) = fieldOf entity name := by
  cases entity with
  | none =>
    cases row with
    | none => rfl
    | some row => exact absurd (h rfl) Bool.false_ne_true
  | some entity =>
    change (List.foldl _ (EntityRow.save row entity) snapshots).metadata.get name = _
    rw [column_foldl_reconciled EntityRow.metadata fun _ _ _ => rfl]
    rfl

/-- **The metadata over a request** to the controller of the entity's environment: what
it says of a name stands, and what was stored stays. -/
theorem field_serve (hhome : home id = environment) (tables : Tables) (request : Request) :
    (tables.serve home entityId environment request).field id name =
      (told (request.reportsOf entityId id) name).getD (tables.field id name) := by
  have hload : (tables.within home environment).entities[id]? = tables.entities[id]? := by
    rw [getElem?_within, if_pos hhome]
  cases request with
  | discover cycle =>
    have hrow : (tables.serve home entityId environment (.discover cycle)).entities[id]? =
        saved tables.entities[id]? ((cycle.merged (tables.within home environment)).get id)
          cycle.snapshots id := by
      rw [serve, getElem?_foldl_reconcile, getElem?_saveInventory, entities_retract,
        Cycle.get_inventory, saved]
    have hkept : tables.entities[id]?.isSome →
        ((cycle.merged (tables.within home environment)).get id).isSome := by
      rw [← hload]
      exact Cycle.isSome_merged
    rw [field, hrow, field_saved hkept, Cycle.get_merged, hload, fieldOf_foldl_seen, fieldOf_toEntity]
    rfl
  | register request =>
    let snapshot := snapshotFromRegistration entityId request
    have hrow : (tables.serve home entityId environment (.register request)).entities[id]? =
        saved tables.entities[id]? (((tables.within home environment).loadInventory.merge snapshot).get id)
          [snapshot] id := by
      rw [serve, getElem?_reconcileSnapshotCapabilities, getElem?_saveInventory, saved]
      rfl
    have hkept : tables.entities[id]?.isSome →
        (((tables.within home environment).loadInventory.merge snapshot).get id).isSome := by
      rw [← hload]
      exact Cycle.isSome_merge_load snapshot
    rw [field, hrow, field_saved hkept, Inventory.get_merge, get_loadInventory, hload,
      fieldOf_foldl_absorb, fieldOf_toEntity]
    rfl
  | capabilities source entity =>
    rw [field, serve, getElem?_reconcileCapabilities]
    split
    · next hid => cases h : tables.entities[id]? <;> simp [field, h, Request.reportsOf, told, EntityRow.reconcile]
    · rfl
  | dependencies source keep => rfl

end Tables

/-! ### The providers' cycles -/

/-- What the providers have to go by in one cycle: the configuration, what Slurm showed,
and the mounts that agents reported. -/
structure Survey where
  /-- The entities declared. -/
  entities : List EntityConfig
  /-- The dependencies declared. -/
  dependencies : List DependencyConfig
  /-- The name of the scheduler. -/
  schedulerName : String
  /-- What Slurm showed, if it is enabled and answered. -/
  slurm : Option Slurm.SlurmView
  /-- The inventory and the reports that the storage topology is derived from, if that is
  enabled. -/
  mounts : Option (Inventory × List Observation)

section Survey

variable (entityId : EntityKey → EntityId) (edgeId : Relation → Uuid) (environment : String)

namespace Survey

/-- The configuration's snapshot. -/
def static (survey : Survey) : InventorySnapshot :=
  (StaticConfigProvider.mk environment survey.entities survey.dependencies).snapshot entityId edgeId

/-- Slurm's snapshot. -/
def slurmSnapshot (survey : Survey) : Option InventorySnapshot :=
  survey.slurm.map (Slurm.snapshotFromView ⟨environment, survey.schedulerName, entityId, edgeId⟩)

/-- The storage topology. -/
def topology (survey : Survey) : Option InventorySnapshot :=
  survey.mounts.map fun mounts =>
    (topologyFromMounts entityId edgeId environment mounts.1 mounts.2).snapshot

end Survey

/-- The cycle the providers make of it. -/
def Survey.cycle (survey : Survey) : Cycle where
  answers := [some (survey.static entityId edgeId environment), survey.slurmSnapshot entityId edgeId environment]
  topology := survey.topology entityId edgeId environment
  distinct := by
    have hstatic : (survey.static entityId edgeId environment).source = .staticConfig :=
      (StaticConfigProvider.snapshot_spec entityId edgeId _).1
    rw [slurmSnapshot, topology]
    cases survey.slurm <;> cases survey.mounts <;>
      simp [hstatic, Slurm.source_snapshotFromView, source_topology, Slurm.source, nfsSource]

end Survey

/-! ### What the providers write -/

section Written

variable {entityId : EntityKey → EntityId} {edgeId : Relation → Uuid} {environment : String}

theorem metadata_withDiscoverySource (entity : ManagedEntity) (source : DiscoverySource) :
    (entity.withDiscoverySource source).metadata = entity.metadata := by
  rw [ManagedEntity.withDiscoverySource]
  split <;> rfl

theorem tells_withDiscoverySource (entity : ManagedEntity) (source : DiscoverySource) :
    (entity.withDiscoverySource source).tells name = entity.tells name := by
  rw [ManagedEntity.tells, metadata_withDiscoverySource, ManagedEntity.tells]

/-- Every report of a snapshot leaves a name alone. -/
def InventorySnapshot.Silent (snapshot : InventorySnapshot) (name : String) : Prop :=
  ∀ report ∈ snapshot.entities, report.tells name = none

namespace InventorySnapshot.Silent

theorem addEntity (h : snapshot.Silent name) (hactive : entity.lifecycleState = .active)
    (hentity : entity.tells name = none) : (snapshot.addEntity entity hactive).Silent name := by
  intro report hreport
  rcases List.mem_append.mp hreport with hreport | hreport
  · exact h report hreport
  · rw [List.mem_singleton.mp hreport, tells_withDiscoverySource, hentity]

theorem told_reportsOf (h : snapshot.Silent name) (id : EntityId) :
    told (snapshot.reportsOf id) name = none :=
  told_eq_none fun report hreport => h report (List.mem_of_mem_filter hreport)

end InventorySnapshot.Silent

/-- Slurm writes under names of its own. -/
theorem Slurm.silent_snapshotFromView (site : Slurm.Site) (view : Slurm.SlurmView)
    (hslurm : name ≠ "slurm") (hunit : name ≠ "unit") : (snapshotFromView site view).Silent name := by
  have hobj : ∀ fields : List (String × Json), (∀ field ∈ fields, field.1 = "slurm" ∨ field.1 = "unit") →
      ∀ entity : ManagedEntity, entity.metadata = .obj fields → entity.tells name = none := by
    intro fields hfields entity hentity
    rw [ManagedEntity.tells, hentity, if_neg]
    change ¬ (fields.lookup name).isSome
    rw [Option.not_isSome_iff_eq_none, List.lookup_eq_none_iff]
    intro field hfield
    rw [bne_iff_ne]
    rintro rfl
    exact (hfields field hfield).elim hslurm hunit
  refine List.foldlRecOn (motive := fun snapshot : InventorySnapshot => snapshot.Silent name) _ _ ?_ ?_
  · refine List.foldlRecOn (motive := fun snapshot : InventorySnapshot => snapshot.Silent name) _ _ ?_ ?_
    · intro report hreport
      rw [List.mem_singleton.mp hreport, tells_withDiscoverySource]
      exact hobj _ (by simp) _ rfl
    · intro snapshot h node _
      refine InventorySnapshot.Silent.addEntity (.addEntity h rfl ?_) rfl ?_
      · exact hobj _ (by simp) _ rfl
      · exact hobj _ (by simp) _ rfl
  · intro snapshot h controller _
    exact InventorySnapshot.Silent.addEntity (.addEntity h rfl rfl) rfl (hobj _ (by simp) _ rfl)

/-- The storage topology writes no metadata. -/
theorem silent_topology (inventory : Inventory) (observations : List Observation) :
    (topologyFromMounts entityId edgeId environment inventory observations).snapshot.Silent name := by
  refine List.foldlRecOn (motive := fun snapshot : InventorySnapshot => snapshot.Silent name) _ _
    (fun report hreport => by cases hreport) ?_
  intro snapshot h entry _
  refine List.foldlRecOn (motive := fun snapshot : InventorySnapshot => snapshot.Silent name) _ _ ?_ fun _ h _ _ => h
  exact InventorySnapshot.Silent.addEntity (.addEntity h rfl rfl) rfl rfl

/-- What the configuration declares of a name: the addresses, unless there are none. -/
def EntityConfig.declares (declared : EntityConfig) : Option (Option Json) :=
  if declared.addresses = [] then none else some (some (.ofStrings declared.addresses))

theorem metadata_entity (declared : EntityConfig) (id : EntityId) (entityType : EntityType) :
    (declared.entity id entityType).metadata = declared.metadata := rfl

theorem tells_addresses_entity (declared : EntityConfig) (id : EntityId) (entityType : EntityType) :
    (declared.entity id entityType).tells "addresses" = declared.declares := by
  rw [ManagedEntity.tells, metadata_entity, EntityConfig.metadata, EntityConfig.declares]
  cases declared.addresses <;> cases declared.ports.isEmpty <;> rfl

theorem tells_host_entity (declared : EntityConfig) (id : EntityId) (entityType : EntityType) :
    (declared.entity id entityType).tells "host" = none := by
  rw [ManagedEntity.tells, metadata_entity, EntityConfig.metadata]
  cases declared.addresses <;> cases declared.ports.isEmpty <;> rfl

end Written

/-! ### Histories -/

/-- What changes the stored inventory. -/
inductive Event
  /-- The providers are asked. -/
  | discover (survey : Survey)
  /-- An agent registers. -/
  | register (request : RegisterRequest)

section Histories

variable (home : EntityId → String) (entityId : EntityKey → EntityId) (edgeId : Relation → Uuid)
  (environment : String)

/-- What an event asks of the controller. -/
def Event.request : Event → Request
  | discover survey => .discover (survey.cycle entityId edgeId environment)
  | register request => .register request

/-- The tables after a history, from an empty database on. -/
def Tables.after (events : List Event) : Tables :=
  events.foldl (fun tables event =>
    tables.serve home entityId environment (event.request entityId edgeId environment)) ⟨∅, []⟩

/-- The host an agent registers. -/
def RegisterRequest.host (request : RegisterRequest) : EntityId :=
  entityId ⟨request.environment, .host, request.hostname⟩

/-- The registrations of a host, in order. -/
def registrationsOf (events : List Event) (id : EntityId) : List RegisterRequest :=
  events.filterMap fun
    | .discover _ => none
    | .register request => if request.host entityId = id then some request else none

/-- The declarations of an entity in a survey, in order. -/
def Survey.declarationsOf (survey : Survey) (id : EntityId) : List EntityConfig :=
  survey.entities.filter fun declared => (EntityType.parse declared.entityType).any fun entityType =>
    entityId ⟨environment, entityType, declared.name⟩ = id

/-- The declarations of an entity, in order. -/
def declarationsOf (events : List Event) (id : EntityId) : List EntityConfig :=
  events.flatMap fun
    | .discover survey => survey.declarationsOf entityId environment id
    | .register _ => []

end Histories

/-- What a registration writes under `host`. -/
def RegisterRequest.hostField (request : RegisterRequest) : Json :=
  .obj [
    ("fqdn", .ofOptionStr request.fqdn),
    ("boot_id", .ofOptionStr request.bootId),
    ("addresses", .ofStrings request.addresses)]

section Said

variable {home : EntityId → String} {entityId : EntityKey → EntityId} {edgeId : Relation → Uuid}
  {environment : String}

/-- **What is stored under a name** of an entity's metadata is what was said of it last. -/
theorem Tables.field_after (hhome : home id = environment) (events : List Event) :
    (after home entityId edgeId environment events).field id name =
      (told (events.flatMap fun event =>
        (event.request entityId edgeId environment).reportsOf entityId id) name).getD none := by
  induction events using List.reverseRecOn with
  | nil => simp [after, field, told]
  | append_singleton events event ih =>
    rw [after, List.foldl_append, List.foldl_cons, List.foldl_nil, ← after, field_serve hhome, ih,
      List.flatMap_append, List.flatMap_singleton, told_append]
    cases told ((event.request entityId edgeId environment).reportsOf entityId id) name <;> rfl

/-- The configuration says of an entity's addresses what its last declaration with any
says. -/
theorem Survey.told_addresses (survey : Survey) (id : EntityId) :
    told ((survey.static entityId edgeId environment).reportsOf id) "addresses" =
      (survey.declarationsOf entityId environment id).reverse.findSome? EntityConfig.declares := by
  rw [static, InventorySnapshot.reportsOf, StaticConfigProvider.entities_snapshot, declarationsOf]
  induction survey.entities with
  | nil => rfl
  | cons d entities ih =>
    rw [List.filterMap_cons, List.filter_cons]
    cases EntityType.parse d.entityType with
    | none => exact ih
    | some entityType =>
      rw [Option.map_some, List.filter_cons, ManagedEntity.id_withDiscoverySource,
        EntityConfig.id_entity, Option.any_some]
      split
      · rw [told_cons, ih, tells_withDiscoverySource, tells_addresses_entity, List.reverse_cons,
          List.findSome?_append, List.findSome?_singleton]
      · exact ih

/-- What the providers say, when all but the configuration leave a name alone. -/
theorem Survey.told_cycle (survey : Survey) (hslurm : name ≠ "slurm") (hunit : name ≠ "unit") :
    told ((Request.discover (survey.cycle entityId edgeId environment)).reportsOf entityId id) name =
      told ((survey.static entityId edgeId environment).reportsOf id) name := by
  have hview : told ((survey.slurmSnapshot entityId edgeId environment).toList.flatMap
      fun snapshot => snapshot.reportsOf id) name = none := by
    rw [slurmSnapshot]
    cases survey.slurm with
    | none => rfl
    | some view =>
      rw [Option.map_some, Option.toList_some, List.flatMap_singleton]
      exact (Slurm.silent_snapshotFromView _ view hslurm hunit).told_reportsOf id
  have hmounts : told ((survey.topology entityId edgeId environment).toList.flatMap
      fun snapshot => snapshot.reportsOf id) name = none := by
    rw [topology]
    cases survey.mounts with
    | none => rfl
    | some mounts =>
      rw [Option.map_some, Option.toList_some, List.flatMap_singleton]
      exact (silent_topology mounts.1 mounts.2).told_reportsOf id
  have hsnapshots : (survey.cycle entityId edgeId environment).snapshots =
      survey.static entityId edgeId environment ::
        ((survey.slurmSnapshot entityId edgeId environment).toList ++
          (survey.topology entityId edgeId environment).toList) := by
    change List.filterMap _ [some _, survey.slurmSnapshot entityId edgeId environment] ++ _ = _
    cases survey.slurmSnapshot entityId edgeId environment <;> rfl
  rw [Request.reportsOf, hsnapshots, List.flatMap_cons, List.flatMap_append, told_append, told_append,
    hmounts, hview, Option.none_or, Option.none_or]

/-- A registration's report of a host. -/
theorem reportsOf_registration (request : RegisterRequest) (id : EntityId) :
    (snapshotFromRegistration entityId request).reportsOf id =
      if request.host entityId = id then
        [(request.entity (request.host entityId)).withDiscoverySource .agentRegistration] else [] := by
  have hentities : (snapshotFromRegistration entityId request).entities =
      [(request.entity (request.host entityId)).withDiscoverySource .agentRegistration] := rfl
  have hid : ((request.entity (request.host entityId)).withDiscoverySource .agentRegistration).id =
      request.host entityId := ManagedEntity.id_withDiscoverySource _ _
  rw [InventorySnapshot.reportsOf, hentities, List.filter_singleton, hid]
  by_cases hhost : request.host entityId = id
  · rw [if_pos hhost, decide_eq_true hhost, cond_true]
  · rw [if_neg hhost, decide_eq_false hhost, cond_false]

theorem registrationsOf_append (events events' : List Event) (id : EntityId) :
    registrationsOf entityId (events ++ events') id =
      registrationsOf entityId events id ++ registrationsOf entityId events' id := List.filterMap_append

theorem declarationsOf_append (events events' : List Event) (id : EntityId) :
    declarationsOf entityId environment (events ++ events') id =
      declarationsOf entityId environment events id ++ declarationsOf entityId environment events' id :=
  List.flatMap_append

/-- What an event says of a host, under `host`. -/
theorem Event.told_host (event : Event) (id : EntityId) :
    told ((event.request entityId edgeId environment).reportsOf entityId id) "host" =
      ((registrationsOf entityId [event] id).getLast?.map fun request => some request.hostField) := by
  cases event with
  | discover survey =>
    rw [Event.request, survey.told_cycle (by decide) (by decide)]
    refine InventorySnapshot.Silent.told_reportsOf (fun report hreport => ?_) id
    rw [Survey.static, StaticConfigProvider.entities_snapshot] at hreport
    obtain ⟨declared, -, hreport⟩ := List.mem_filterMap.mp hreport
    obtain ⟨entityType, -, rfl⟩ := Option.map_eq_some_iff.mp hreport
    rw [tells_withDiscoverySource, tells_host_entity]
  | register request =>
    have hself : registrationsOf entityId [.register request] id =
        if request.host entityId = id then [request] else [] := by
      rw [registrationsOf, List.filterMap_cons, List.filterMap_nil]
      by_cases hhost : request.host entityId = id
      · simp only [if_pos hhost]
      · simp only [if_neg hhost]
    rw [Event.request, Request.reportsOf, reportsOf_registration, hself]
    split
    · rw [told_singleton, tells_withDiscoverySource]
      rfl
    · rfl

/-- What an event says of a host, under `addresses`. -/
theorem Event.told_addresses (event : Event) (id : EntityId) :
    told ((event.request entityId edgeId environment).reportsOf entityId id) "addresses" =
      (declarationsOf entityId environment [event] id).reverse.findSome? EntityConfig.declares := by
  cases event with
  | discover survey =>
    rw [Event.request, survey.told_cycle (by decide) (by decide), Survey.told_addresses, declarationsOf,
      List.flatMap_singleton]
  | register request =>
    rw [Event.request, Request.reportsOf, reportsOf_registration]
    split
    · rw [told_singleton, tells_withDiscoverySource]
      rfl
    · rfl

/-- **What is stored under `host`** is what the host's last registration wrote. -/
theorem Tables.field_host (hhome : home id = environment) (events : List Event) :
    (after home entityId edgeId environment events).field id "host" =
      (registrationsOf entityId events id).getLast?.map RegisterRequest.hostField := by
  rw [field_after hhome]
  induction events using List.reverseRecOn with
  | nil => rfl
  | append_singleton events event ih =>
    rw [List.flatMap_append, List.flatMap_singleton, told_append, Event.told_host,
      registrationsOf_append, List.getLast?_append]
    cases (registrationsOf entityId [event] id).getLast? with
    | none => exact ih
    | some request => rfl

/-- **What is stored under `addresses`** is what the last declaration with any says. -/
theorem Tables.field_addresses (hhome : home id = environment) (events : List Event) :
    (after home entityId edgeId environment events).field id "addresses" =
      ((declarationsOf entityId environment events id).reverse.findSome? EntityConfig.declares).getD none := by
  rw [field_after hhome]
  congr 1
  induction events using List.reverseRecOn with
  | nil => rfl
  | append_singleton events event ih =>
    rw [List.flatMap_append, List.flatMap_singleton, told_append, Event.told_addresses, ih,
      declarationsOf_append, List.reverse_append, List.findSome?_append]

end Said

end Sentinel
