import Sentinel.Controller.Builtin
import Sentinel.Inventory
import Sentinel.State.Folded

/-!
# Ingestion at the controller

Observations are stored under the identifiers their producers gave them, so a batch
that is sent again inserts nothing twice.  What a batch inserted is folded into the
state engine, and the streams of the engine are saved, in the same transaction: a
crash cannot consume evidence without applying its state, nor apply it twice.

A controller that starts takes its streams from the store.  A store without any is
an old one, or one that was reset, and the newest stored observations are folded in
instead.

## Main definitions

* `Store`, `Store.ingestObservationsIn`, `Store.saveEngine`,
  `Store.latestObservationsSince` — the database and what is read and written here.
* `applyObservations` — the transaction.
* `storageProviders`, `storageViews` — the observations of a file server, aimed
  again at the storage it provides.
* `Controller`, `Controller.ingestAgentBatch`, `Controller.start` — the controller.

## Main results

* `Store.mem_ids_ingest`, `Store.mem_insertedIds` — what a batch stores and inserts.
* `Controller.Sound.ingest`, `Controller.Sound.start` — **neither a batch nor a
  restart folds an observation into a stream twice.**
-/

namespace Sentinel

/-! ### The store -/

/-- A stored observation. -/
structure ObservationRow where
  /-- The observation. -/
  observation : Observation
  /-- When it was ingested. -/
  ingestedAt : Timestamp

/-- The database, as far as ingestion is concerned. -/
structure Store where
  /-- The observations, by row number. -/
  observations : List ObservationRow
  /-- The entities and their dependencies. -/
  inventory : Inventory
  /-- The entities of other environments. -/
  elsewhere : List EntityId
  /-- The streams saved last. -/
  streams : List StateStream
  /-- What had been folded into them. -/
  folded : StreamKey → List ObservationId
  /-- When the monitoring state was reset. -/
  resetAt : Option Timestamp

/-- How many rows an ingestion actually inserted. -/
structure IngestOutcome where
  /-- Observations stored for the first time. -/
  inserted : ℕ
  /-- Observations already present, and therefore skipped. -/
  duplicates : ℕ
  /-- Identifiers first stored by this transaction. -/
  insertedIds : List ObservationId

namespace Store

/-- The stored observations. -/
def stored (store : Store) : List Observation := store.observations.map ObservationRow.observation

/-- The identifiers stored. -/
def ids (store : Store) : List ObservationId := store.stored.map Observation.id

/-- Whether there is a row for an entity. -/
def references (store : Store) (entity : EntityId) : Bool :=
  store.inventory.entities.contains entity || entity ∈ store.elsewhere

/-- Whether the schema refuses an observation: its target, or its observer if it has
one, is no entity. -/
def refuses (store : Store) (o : Observation) : Bool :=
  !store.references o.targetEntity || o.observerEntity.any fun observer => !store.references observer

/-- Store one observation unless its identifier is there already; `none` if the
schema refuses it. -/
def insert (now : Timestamp) (result : Store × IngestOutcome) (o : Observation) :
    Option (Store × IngestOutcome) :=
  if o.id ∈ result.1.ids then
    some (result.1, { result.2 with duplicates := result.2.duplicates + 1 })
  else if result.1.refuses o then none
  else
    some ({ result.1 with observations := result.1.observations ++ [⟨o, now⟩] },
      { result.2 with
        inserted := result.2.inserted + 1
        insertedIds := result.2.insertedIds ++ [o.id] })

/-- Store observations, ignoring ones already present. -/
def ingestObservationsIn (store : Store) (now : Timestamp) (observations : List Observation) :
    Option (Store × IngestOutcome) :=
  observations.foldlM (insert now) (store, ⟨0, 0, []⟩)

/-- Save the streams of an engine. -/
def saveEngine (store : Store) (traced : TracedEngine) : Store :=
  { store with streams := traced.engine.streams.vals, folded := traced.folded }

/-- Whether a row may be the newest of its stream: its times are not in the future
and not before the cutoff. -/
def valid (now : Timestamp) (cutoff : Option Timestamp) (row : ObservationRow) : Bool :=
  row.observation.finishedAt ≤ now + maxFutureSkew &&
    row.observation.finishedAt ≤ row.ingestedAt + maxFutureSkew &&
    cutoff.all fun cutoff => cutoff ≤ row.observation.finishedAt && cutoff ≤ row.ingestedAt

/-- The newest valid observation of each stream of an entity. -/
def latestObservationsSince (store : Store) (now : Timestamp) (entity : EntityId)
    (cutoff : Option Timestamp) : List Observation :=
  let rows := store.observations.filter fun row => row.observation.targetEntity = entity
  (rows.firsts fun row => row.observation.streamKey).filterMap fun first =>
    ((rows.filter fun row =>
        row.observation.streamKey = first.observation.streamKey && valid now cutoff row).maxByKey
      fun row => row.observation.finishedAt).map ObservationRow.observation

/-- Forget the monitoring state, and keep the observations. -/
def resetState (store : Store) (now : Timestamp) : Store :=
  { store with resetAt := some now, streams := [], folded := fun _ => [] }

end Store

/-- Observations, hysteresis and state in one commit: what the batch inserted is
folded in, each identifier once, then the views of it.  Where the schema refuses a
row, nothing of it happens. -/
def applyObservations (store : Store) (now : Timestamp) (clock : Observation → Timestamp)
    (observations views : List Observation) (traced : TracedEngine) :
    Option (Store × TracedEngine × IngestOutcome) := do
  let (store, outcome) ← store.ingestObservationsIn now observations
  let counts (o : Observation) :=
    decide (o.id ∈ outcome.insertedIds) && decide (o.finishedAt ≤ now + maxFutureSkew)
  let traced := traced.ingestAll clock ((observations.filter counts).firsts Observation.id)
  let traced := traced.ingestAll clock (views.filter counts)
  return (store.saveEngine traced, traced, outcome)

/-! ### Storage views -/

/-- Which storage entities each host provides. -/
def storageProviders (inventory : Inventory) : Std.ExtTreeMap EntityId (List EntityId) :=
  inventory.graph.edges.foldl
    (fun byHost edge =>
      if edge.dependencyType ≠ .provides then byHost
      else
        match inventory.get edge.source, inventory.get edge.target with
        | some storage, some host =>
          if storage.entityType = .storage && host.entityType = .host then
            byHost.insert host.id (byHost[host.id]?.getD [] ++ [storage.id])
          else byHost
        | _, _ => byHost) ∅

/-- The probes of the serving side. -/
def serverProbes : List ProbeId := [probeServerPort, probeServerExports]

/-- The views of one observation: of the serving side, one for each storage entity
its host provides. -/
def viewsOf (providers : Std.ExtTreeMap EntityId (List EntityId)) (o : Observation) :
    List Observation :=
  if o.probeId ∉ serverProbes then []
  else (providers[o.targetEntity]?.getD []).map fun storage => { o with targetEntity := storage }

/-- The server-side storage observations, aimed again at the storage entities the
host provides. -/
def storageViews (providers : Std.ExtTreeMap EntityId (List EntityId))
    (observations : List Observation) : List Observation :=
  (observations.firsts Observation.id).flatMap (viewsOf providers)

/-! ### The controller -/

/-- One observation the controller would not store. -/
structure RejectedObservation where
  /-- The observation's identifier. -/
  id : String
  /-- Why it was rejected. -/
  reason : String
  deriving DecidableEq, Repr

/-- The answer to a batch of observations. -/
structure ObservationBatchResponse where
  /-- Observations stored for the first time. -/
  accepted : ℕ
  /-- Observations already present. -/
  duplicates : ℕ
  /-- Observations rejected, with the reason. -/
  rejected : List RejectedObservation
  deriving DecidableEq, Repr

/-- The controller, as far as ingestion is concerned. -/
structure Controller where
  /-- The database. -/
  store : Store
  /-- The state engine. -/
  engine : TracedEngine
  /-- Which storage entities each host provides. -/
  storageProviders : Std.ExtTreeMap EntityId (List EntityId)

namespace Controller

/-- Record observations and update state from them. -/
def ingestObservationsRecorded (controller : Controller) (now : Timestamp)
    (clock : Observation → Timestamp) (observations : List Observation) :
    Option (Controller × IngestOutcome) := do
  let (store, engine, outcome) ← applyObservations controller.store now clock observations
    (storageViews controller.storageProviders observations) controller.engine
  return ({ controller with store := store, engine := engine }, outcome)

/-- Whether the target of an observation is in the inventory. -/
def knows (controller : Controller) (o : Observation) : Bool :=
  o.targetEntity ∈ controller.store.inventory.all.map ManagedEntity.id

/-- The answer about an observation of an entity the controller has never heard of. -/
def reject (o : Observation) : RejectedObservation :=
  ⟨o.id.uuid.toText, "unknown target entity " ++ o.targetEntity.uuid.toText⟩

/-- Ingest a batch of observations from an agent, rejecting those about entities the
controller has never heard of. -/
def ingestAgentBatch (controller : Controller) (now : Timestamp) (clock : Observation → Timestamp)
    (batch : List Observation) : Option (Controller × ObservationBatchResponse) := do
  let (accepted, rejected) := batch.partition controller.knows
  let (controller, outcome) ← controller.ingestObservationsRecorded now clock accepted
  return (controller, ⟨outcome.inserted, outcome.duplicates, rejected.map reject⟩)

/-- Configure the GPU probe of some entities, as far as their registrations say
whether it is monitored. -/
def configureGpuMonitoring (now : Timestamp) (monitored : ManagedEntity → Option Bool) :
    StateEngine → List ManagedEntity → StateEngine × List StateTransition
  | engine, [] => (engine, [])
  | engine, entity :: rest =>
    match monitored entity with
    | none => configureGpuMonitoring now monitored engine rest
    | some enabled =>
      let (engine, transition) := engine.setProbeEnabled now entity.id probeGpu enabled
      let (engine, transitions) := configureGpuMonitoring now monitored engine rest
      (engine, transition.toList ++ transitions)

/-- The engine with states put back. -/
def seedStates (engine : StateEngine) (states : List EntityState) : StateEngine :=
  states.foldl (fun engine state =>
    { engine with states := engine.states.insert state.entity state }) engine

/-- A controller started on a store; the source's `new`. -/
def start (store : Store) (now : Timestamp) (clock : Observation → Timestamp)
    (states : List EntityState) (monitored : ManagedEntity → Option Bool) : Controller :=
  let engine := (registerBuiltinProbes .new).setObservationCutoff store.resetAt
  let (engine, transitions) :=
    configureGpuMonitoring now monitored (seedStates engine states) store.inventory.all
  let engine : TracedEngine :=
    if store.streams.isEmpty then
      TracedEngine.ingestAll clock ⟨engine, store.folded⟩ (store.inventory.all.flatMap fun entity =>
        store.latestObservationsSince now entity.id store.resetAt)
    else ⟨engine.seedStreams now store.streams, store.folded⟩
  { store := if transitions.isEmpty then store else store.saveEngine engine
    engine := engine
    storageProviders := Sentinel.storageProviders store.inventory }

/-- A snapshot merged into the inventory, with what it says about monitoring. -/
def ingestSnapshot (controller : Controller) (now : Timestamp) (inventory : Inventory)
    (entities : List ManagedEntity) (monitored : ManagedEntity → Option Bool) : Controller :=
  let store := { controller.store with inventory := inventory }
  let (engine, transitions) :=
    configureGpuMonitoring now monitored controller.engine.engine entities
  let engine : TracedEngine := ⟨engine, controller.engine.folded⟩
  { store := if transitions.isEmpty then store else store.saveEngine engine
    engine := engine
    storageProviders := Sentinel.storageProviders inventory }

/-- Silent streams expire at the beginning of a diagnosis, and the engine is saved. -/
def expire (controller : Controller) (now at_ : Timestamp) (horizon : StateStream → Duration) :
    Controller :=
  let engine : TracedEngine :=
    ⟨(controller.engine.engine.expire now at_ horizon).1, controller.engine.folded⟩
  { controller with store := controller.store.saveEngine engine, engine := engine }

end Controller

/-! ### What a batch stores -/

namespace Store

variable {store : Store} {now : Timestamp} {x : ObservationId}

/-- What of a batch is not stored yet, of each identifier the first. -/
def fresh (store : Store) (observations : List Observation) : List Observation :=
  List.firstsFrom Observation.id store.ids observations

/-- The store with observations added. -/
def added (store : Store) (now : Timestamp) (observations : List Observation) : Store :=
  { store with observations := store.observations ++ observations.map fun o => ⟨o, now⟩ }

@[simp] theorem added_nil (store : Store) : store.added now [] = store := by simp [added]

theorem added_cons (store : Store) (o : Observation) (observations : List Observation) :
    (store.added now [o]).added now observations = store.added now (o :: observations) := by
  simp [added]

theorem fresh_cons_of_mem {o : Observation} (h : o.id ∈ store.ids) (observations : List Observation) :
    store.fresh (o :: observations) = store.fresh observations := by
  rw [fresh, List.firstsFrom, if_pos h, fresh]

theorem fresh_cons_of_notMem (now : Timestamp) {o : Observation} (h : o.id ∉ store.ids)
    (observations : List Observation) :
    store.fresh (o :: observations) = o :: (store.added now [o]).fresh observations := by
  rw [fresh, List.firstsFrom, if_neg h, fresh]
  refine congrArg _ (List.firstsFrom_congr observations fun x => ?_)
  simp [added, ids, stored, or_comm]

/-- The insertions of a batch, from any point on. -/
theorem insert_spec (now : Timestamp) (observations : List Observation) :
    ∀ (store : Store) (outcome : IngestOutcome),
      observations.foldlM (insert now) (store, outcome) =
        if (store.fresh observations).any store.refuses then none
        else some (store.added now (store.fresh observations),
          { inserted := outcome.inserted + (store.fresh observations).length
            duplicates := outcome.duplicates +
              (observations.length - (store.fresh observations).length)
            insertedIds := outcome.insertedIds ++ (store.fresh observations).map Observation.id }) := by
  induction observations with
  | nil => intro store outcome; simp [fresh, List.firstsFrom]
  | cons o observations ih =>
    intro store outcome
    rw [List.foldlM_cons, insert]
    dsimp only
    split
    · next ho =>
      have hlength : (store.fresh observations).length ≤ observations.length :=
        List.length_firstsFrom_le
      have hduplicates : observations.length + 1 - (store.fresh observations).length =
          1 + (observations.length - (store.fresh observations).length) := by omega
      rw [fresh_cons_of_mem ho, Option.bind_eq_bind, Option.bind_some, ih, List.length_cons,
        hduplicates, Nat.add_assoc]
    · next ho =>
      rw [fresh_cons_of_notMem now ho, List.any_cons]
      cases hrefuses : store.refuses o with
      | true => simp
      | false =>
        rw [if_neg (by simp), Option.bind_eq_bind, Option.bind_some, Bool.false_or]
        refine (ih (store.added now [o]) _).trans ?_
        rw [added_cons]
        simp [Nat.add_assoc, Nat.add_comm 1]
        rfl

/-- **What a batch stores**: what of it is not stored yet, unless the schema refuses
some of that. -/
theorem ingestObservationsIn_eq (store : Store) (now : Timestamp) (observations : List Observation) :
    store.ingestObservationsIn now observations =
      if (store.fresh observations).any store.refuses then none
      else some (store.added now (store.fresh observations),
        ⟨(store.fresh observations).length, observations.length - (store.fresh observations).length,
          (store.fresh observations).map Observation.id⟩) :=
  (insert_spec now observations store ⟨0, 0, []⟩).trans (by simp)

theorem mem_fresh {o : Observation} {observations : List Observation}
    (h : o ∈ store.fresh observations) : o ∈ observations ∧ o.id ∉ store.ids :=
  List.mem_firstsFrom h

theorem mem_ids_fresh {observations : List Observation} :
    x ∈ (store.fresh observations).map Observation.id ↔
      x ∈ observations.map Observation.id ∧ x ∉ store.ids := List.mem_map_firstsFrom

@[simp] theorem stored_added (store : Store) (observations : List Observation) :
    (store.added now observations).stored = store.stored ++ observations := by
  simp [added, stored, Function.comp_def]

@[simp] theorem ids_added (store : Store) (observations : List Observation) :
    (store.added now observations).ids = store.ids ++ observations.map Observation.id := by
  rw [ids, stored_added, List.map_append, ids]

/-- What was saved is in order: nothing folded into a stream twice, nothing that is
not stored, and nothing without a stream. -/
structure Sound (store : Store) : Prop where
  nodup : ∀ k, (store.folded k).Nodup
  known : ∀ k, ∀ x ∈ store.folded k, x ∈ store.ids
  kept : ∀ k, store.folded k ≠ [] → store.streams ≠ []

theorem Sound.saveEngine {traced : TracedEngine} (h : traced.Once store.ids) :
    (store.saveEngine traced).Sound := by
  refine ⟨h.nodup, h.known, fun k hne hnil => ?_⟩
  obtain ⟨k', s, hs⟩ := h.kept k hne
  have hmem : s ∈ traced.engine.streams.vals := Std.ExtTreeMap.mem_vals.mpr ⟨k', hs⟩
  rw [show traced.engine.streams.vals = [] from hnil] at hmem
  cases hmem

/-- Every stream has one newest observation. -/
theorem latestObservationsSince_spec (store : Store) (now : Timestamp) (entity : EntityId)
    (cutoff : Option Timestamp) :
    (store.latestObservationsSince now entity cutoff).Pairwise
      (fun o o' => o.streamKey ≠ o'.streamKey) ∧
    ∀ o ∈ store.latestObservationsSince now entity cutoff,
      o ∈ store.stored ∧ o.targetEntity = entity := by
  have hnewest : ∀ {rows : List ObservationRow} {k : StreamKey} {o : Observation},
      ((rows.filter fun row => row.observation.streamKey = k && valid now cutoff row).maxByKey
        fun row => row.observation.finishedAt).map ObservationRow.observation = some o →
      o.streamKey = k ∧ ∃ row ∈ rows, row.observation = o := by
    intro rows k o ho
    obtain ⟨row, hmax, rfl⟩ := Option.map_eq_some_iff.mp ho
    obtain ⟨hrow, hk⟩ := List.mem_filter.mp (List.maxByKey_mem hmax)
    rw [Bool.and_eq_true, decide_eq_true_iff] at hk
    exact ⟨hk.1, row, hrow, rfl⟩
  unfold latestObservationsSince
  dsimp only
  refine ⟨?_, ?_⟩
  · rw [List.pairwise_filterMap]
    have hkeys := List.nodup_firsts (fun row : ObservationRow => row.observation.streamKey)
      (store.observations.filter fun row => row.observation.targetEntity = entity)
    rw [List.Nodup, List.pairwise_map] at hkeys
    refine hkeys.imp fun hne o ho o' ho' heq => hne ?_
    rw [← (hnewest ho).1, ← (hnewest ho').1, heq]
  · intro o ho
    obtain ⟨first, -, ho⟩ := List.mem_filterMap.mp ho
    obtain ⟨-, row, hrow, rfl⟩ := hnewest ho
    obtain ⟨hrow, htarget⟩ := List.mem_filter.mp hrow
    exact ⟨List.mem_map_of_mem hrow, of_decide_eq_true htarget⟩

end Store

/-! ### Views -/

/-- A storage entity is no host: it is not aimed at itself. -/
def Apart (providers : Std.ExtTreeMap EntityId (List EntityId)) : Prop :=
  ∀ (host : EntityId) (storages : List EntityId), providers[host]? = some storages →
    host ∉ storages

theorem apart_storageProviders (inventory : Inventory) : Apart (storageProviders inventory) := by
  unfold storageProviders
  generalize inventory.graph.edges = edges
  induction edges using List.reverseRecOn with
  | nil => intro host storages h; simp at h
  | append_singleton edges edge ih =>
    rw [List.foldl_append, List.foldl_cons, List.foldl_nil]
    generalize List.foldl _ _ edges = byHost at ih ⊢
    split
    · exact ih
    split
    · next storage host hstorage hhost =>
      split
      · next htypes =>
        intro e storages h
        rw [Std.ExtTreeMap.getElem?_insert_eq] at h
        split at h
        · next he =>
          rw [← Option.some.inj h, List.mem_append, List.mem_singleton, ← he]
          rintro (hmem | heq)
          · cases hheld : byHost[host.id]? with
            | none => rw [hheld] at hmem; cases hmem
            | some held => rw [hheld] at hmem; exact ih host.id held hheld hmem
          · -- one identifier, one entity, one type
            have hsource := inventory.keyed _ _ hstorage
            have htarget := inventory.keyed _ _ hhost
            rw [← hsource, ← heq, htarget] at hstorage
            have hsame : storage = host := Option.some.inj (hstorage.symm.trans hhost)
            rw [hsame] at htypes
            cases hty : host.entityType <;> simp [hty] at htypes
        · exact ih e storages h
      · exact ih
    · exact ih

theorem mem_viewsOf {providers : Std.ExtTreeMap EntityId (List EntityId)} (h : Apart providers)
    {o v : Observation} (hv : v ∈ viewsOf providers o) :
    v.id = o.id ∧ v.streamKey ≠ o.streamKey := by
  unfold viewsOf at hv
  split at hv
  · cases hv
  · obtain ⟨storage, hmem, rfl⟩ := List.mem_map.mp hv
    refine ⟨rfl, fun hkey => ?_⟩
    have htarget : storage = o.targetEntity := congrArg Prod.fst hkey
    cases hheld : providers[o.targetEntity]? with
    | none => rw [hheld] at hmem; cases hmem
    | some storages =>
      rw [hheld, Option.getD_some, htarget] at hmem
      exact h _ _ hheld hmem

/-! ### Folded in at most once -/

/-- Whether identifiers tell the observations of a list apart. -/
def Identified (observations : List Observation) : Prop :=
  ∀ o ∈ observations, ∀ o' ∈ observations, o.id = o'.id → o = o'

/-- Whether the transaction folds an observation in: the batch inserted it, and it is
not from the future. -/
def Store.counts (store : Store) (now : Timestamp) (observations : List Observation)
    (o : Observation) : Bool :=
  decide (o.id ∈ (store.fresh observations).map Observation.id) &&
    decide (o.finishedAt ≤ now + maxFutureSkew)

/-- What the transaction folds in, in order. -/
def Store.foldedIn (store : Store) (now : Timestamp)
    (providers : Std.ExtTreeMap EntityId (List EntityId)) (observations : List Observation) :
    List Observation :=
  (observations.filter (store.counts now observations)).firsts Observation.id ++
    (storageViews providers observations).filter (store.counts now observations)

/-- **The transaction**: nothing where the schema refuses a row that is not there
yet; else the rows are added, folded in and the engine saved. -/
theorem applyObservations_eq (store : Store) (now : Timestamp) (clock : Observation → Timestamp)
    (providers : Std.ExtTreeMap EntityId (List EntityId)) (observations : List Observation)
    (traced : TracedEngine) :
    (applyObservations store now clock observations (storageViews providers observations)
        traced).map (fun result => (result.1, result.2.1)) =
      if (store.fresh observations).any store.refuses then none
      else
        let traced := traced.ingestAll clock (store.foldedIn now providers observations)
        some ((store.added now (store.fresh observations)).saveEngine traced, traced) := by
  rw [applyObservations, Store.ingestObservationsIn_eq]
  split
  · rfl
  · rw [Store.foldedIn, TracedEngine.ingestAll_append]
    rfl

/-- **The transaction folds nothing in twice.** -/
theorem once_foldedIn {store : Store} {traced : TracedEngine}
    (h : traced.Once store.ids) {providers : Std.ExtTreeMap EntityId (List EntityId)}
    (hproviders : Apart providers) {observations : List Observation}
    (hids : Identified observations) (now : Timestamp) (clock : Observation → Timestamp) :
    (traced.ingestAll clock (store.foldedIn now providers observations)).Once
      (store.added now (store.fresh observations)).ids := by
  let counts := store.counts now observations
  let first := (observations.filter counts).firsts Observation.id
  let views := (observations.firsts Observation.id).map fun o => (viewsOf providers o).filter counts
  have hflatten : store.foldedIn now providers observations =
      (first.map (fun o => [o]) ++ views).flatten := by
    rw [List.flatten_append, ← List.flatMap_def, List.flatMap_singleton', ← List.flatMap_def,
      ← List.filter_flatMap]
    rfl
  have hmem : ∀ block ∈ first.map (fun o => [o]) ++ views, ∃ o ∈ observations, ∀ v ∈ block,
      v.id = o.id ∧ counts v = true := by
    intro block hblock
    rcases List.mem_append.mp hblock with hb | hb
    · obtain ⟨o, ho, rfl⟩ := List.mem_map.mp hb
      obtain ⟨ho, hcounts⟩ := List.mem_filter.mp (List.mem_of_mem_firsts ho)
      refine ⟨o, ho, fun v hv => ?_⟩
      rw [List.mem_singleton.mp hv]
      exact ⟨rfl, hcounts⟩
    · obtain ⟨o, ho, rfl⟩ := List.mem_map.mp hb
      refine ⟨o, List.mem_of_mem_firsts ho, fun v hv => ?_⟩
      obtain ⟨hv, hcounts⟩ := List.mem_filter.mp hv
      exact ⟨(mem_viewsOf hproviders hv).1, hcounts⟩
  have hfresh : ∀ block ∈ first.map (fun o => [o]) ++ views, ∀ v ∈ block,
      v.id ∈ (store.fresh observations).map Observation.id := by
    intro block hblock v hv
    obtain ⟨o, -, hvs⟩ := hmem block hblock
    exact of_decide_eq_true (Bool.and_eq_true_iff.mp (hvs v hv).2).1
  rw [hflatten]
  refine h.ingestAll clock ?_ _ ?_ ?_ ?_ ?_
  · rw [Store.ids_added]
    exact List.subset_append_left _ _
  · intro block hblock
    obtain ⟨o, -, hv⟩ := hmem block hblock
    exact ⟨o.id, fun v hv' => (hv v hv').1⟩
  · refine List.pairwise_append.mpr ⟨?_, ?_, ?_⟩
    · have hnodup := List.nodup_firsts Observation.id (observations.filter counts)
      rw [List.Nodup, List.pairwise_map] at hnodup
      rw [List.pairwise_map]
      refine hnodup.imp fun hne o ho o' ho' _ => ?_
      rw [List.mem_singleton.mp ho, List.mem_singleton.mp ho']
      exact hne
    · have hnodup := List.nodup_firsts Observation.id observations
      rw [List.Nodup, List.pairwise_map] at hnodup
      rw [List.pairwise_map]
      refine hnodup.imp fun hne v hv v' hv' _ hid => hne ?_
      rw [← (mem_viewsOf hproviders (List.mem_filter.mp hv).1).1, hid,
        (mem_viewsOf hproviders (List.mem_filter.mp hv').1).1]
    · -- a view is about another entity than the observation it is a view of
      intro block hblock block' hblock' o ho v hv hkey hid
      obtain ⟨a, ha, rfl⟩ := List.mem_map.mp hblock
      obtain ⟨b, hb, rfl⟩ := List.mem_map.mp hblock'
      obtain ⟨hvid, hvkey⟩ := mem_viewsOf hproviders (List.mem_filter.mp hv).1
      rw [List.mem_singleton.mp ho] at hkey hid
      have hab : a = b := hids a (List.mem_filter.mp (List.mem_of_mem_firsts ha)).1 b
        (List.mem_of_mem_firsts hb) (hid.trans hvid)
      exact hvkey (hkey.symm.trans (congrArg _ hab))
  · intro block hblock v hv hfolded
    exact (Store.mem_ids_fresh.mp (hfresh block hblock v hv)).2 (h.known _ _ hfolded)
  · intro block hblock v hv
    rw [Store.ids_added]
    exact List.mem_append_right _ (hfresh block hblock v hv)

namespace Controller

/-- The invariant: neither the engine nor what is saved of it has folded an
observation into a stream twice. -/
structure Sound (controller : Controller) : Prop where
  live : controller.engine.Once controller.store.ids
  saved : controller.store.Sound
  providers : Apart controller.storageProviders

variable {controller : Controller} {now : Timestamp} {clock : Observation → Timestamp}

/-- The controller after a batch. -/
theorem ingestObservationsRecorded_eq (controller : Controller) (now : Timestamp)
    (clock : Observation → Timestamp) (observations : List Observation) :
    (controller.ingestObservationsRecorded now clock observations).map Prod.fst =
      if (controller.store.fresh observations).any controller.store.refuses then none
      else
        let traced := controller.engine.ingestAll clock
          (controller.store.foldedIn now controller.storageProviders observations)
        some { controller with
          store := (controller.store.added now (controller.store.fresh observations)).saveEngine traced
          engine := traced } := by
  have happly := applyObservations_eq controller.store now clock controller.storageProviders
    observations controller.engine
  rw [ingestObservationsRecorded]
  cases hresult : applyObservations controller.store now clock observations
      (storageViews controller.storageProviders observations) controller.engine with
  | none =>
    rw [hresult] at happly
    split at happly
    · next h => rw [if_pos h]; rfl
    · cases happly
  | some result =>
    rw [hresult] at happly
    split at happly
    · cases happly
    · next h =>
      rw [if_neg h]
      obtain ⟨hstore, htraced⟩ := Prod.mk.inj (Option.some.inj happly)
      simp [hstore, htraced]

/-- **A batch keeps the invariant.** -/
theorem Sound.ingest (h : controller.Sound) {observations : List Observation}
    (hids : Identified observations) {after : Controller} {outcome : IngestOutcome}
    (hafter : controller.ingestObservationsRecorded now clock observations = some (after, outcome)) :
    after.Sound := by
  have heq := controller.ingestObservationsRecorded_eq now clock observations
  rw [hafter] at heq
  split at heq
  · cases heq
  · have honce := once_foldedIn h.live h.providers hids now clock
    have hafter : after = _ := Option.some.inj heq
    rw [hafter]
    exact ⟨honce, Store.Sound.saveEngine honce, h.providers⟩

/-- Configuring probes folds nothing in. -/
theorem once_configureGpuMonitoring (now : Timestamp) {known : List ObservationId}
    (monitored : ManagedEntity → Option Bool) (entities : List ManagedEntity) :
    ∀ {traced : TracedEngine}, traced.Once known →
      (TracedEngine.mk (configureGpuMonitoring now monitored traced.engine entities).1
        traced.folded).Once known := by
  induction entities with
  | nil => intro traced h; exact h
  | cons entity entities ih =>
    intro traced h
    rw [configureGpuMonitoring]
    cases monitored entity with
    | none => exact ih h
    | some enabled => exact ih (h.run (.setProbeEnabled now entity.id probeGpu enabled))

theorem Sound.ingestSnapshot (h : controller.Sound) (inventory : Inventory)
    (entities : List ManagedEntity) (monitored : ManagedEntity → Option Bool) :
    (controller.ingestSnapshot now inventory entities monitored).Sound := by
  have honce := once_configureGpuMonitoring now monitored entities h.live
  refine ⟨?_, ?_, apart_storageProviders inventory⟩
  · unfold Controller.ingestSnapshot
    dsimp only
    split <;> exact honce
  · unfold Controller.ingestSnapshot
    dsimp only
    split
    · exact ⟨h.saved.nodup, h.saved.known, h.saved.kept⟩
    · have hsaved : (Store.saveEngine { controller.store with inventory := inventory } _).Sound :=
        Store.Sound.saveEngine honce
      exact hsaved

theorem Sound.expire (h : controller.Sound) (at_ : Timestamp) (horizon : StateStream → Duration) :
    (controller.expire now at_ horizon).Sound := by
  have honce := h.live.run (.expire now at_ horizon)
  exact ⟨honce, Store.Sound.saveEngine honce, h.providers⟩

theorem Sound.resetState (h : controller.Sound) :
    ({ controller with store := controller.store.resetState now } : Controller).Sound := by
  refine ⟨h.live, ⟨fun _ => .nil, ?_, fun _ hne => absurd rfl hne⟩, h.providers⟩
  intro k x hx
  cases hx

/-- Streams put back are there. -/
theorem exists_stream_seedStreams (engine : StateEngine) {streams : List StateStream}
    (h : streams ≠ []) :
    ∃ (k : StreamKey) (s : StateStream), (engine.seedStreams now streams).streams[k]? = some s := by
  obtain ⟨s, hs⟩ := List.exists_mem_of_ne_nil _ h
  have hmem : s ∈ streams.filter fun s' => s'.key = s.key := List.mem_filter.mpr ⟨hs, by simp⟩
  rw [StateEngine.seedStreams, StateEngine.recomputeAll_streams]
  refine ⟨s.key, ((streams.filter fun s' => s'.key = s.key).getLast (List.ne_nil_of_mem hmem)), ?_⟩
  rw [StateEngine.putStreams_streams, List.getLast?_eq_some_getLast (List.ne_nil_of_mem hmem)]
  rfl

/-- The observations a controller without streams starts from: one for each
stream. -/
theorem latest_apart_spec (store : Store) (now : Timestamp) :
    (store.inventory.all.flatMap fun entity =>
      store.latestObservationsSince now entity.id store.resetAt).Pairwise
        (fun o o' => o.streamKey ≠ o'.streamKey) ∧
    ∀ o ∈ store.inventory.all.flatMap fun entity =>
      store.latestObservationsSince now entity.id store.resetAt, o ∈ store.stored := by
  refine ⟨List.pairwise_flatMap.mpr ⟨?_, ?_⟩, ?_⟩
  · intro entity _
    exact (store.latestObservationsSince_spec now entity.id store.resetAt).1
  · have hnodup := Std.ExtTreeMap.nodup_keys_toList store.inventory.entities
    rw [List.Nodup, List.pairwise_map] at hnodup
    rw [Inventory.all, Std.ExtTreeMap.vals, List.pairwise_map]
    refine hnodup.imp_of_mem ?_
    intro a b ha hb hne o ho o' ho' hkey
    -- different entities have different identifiers
    have hid := store.inventory.keyed _ _ (Std.ExtTreeMap.mem_toList_iff_getElem?_eq_some.mp ha)
    have hid' := store.inventory.keyed _ _ (Std.ExtTreeMap.mem_toList_iff_getElem?_eq_some.mp hb)
    have htarget := ((store.latestObservationsSince_spec now _ _).2 o ho).2
    have htarget' := ((store.latestObservationsSince_spec now _ _).2 o' ho').2
    refine hne ?_
    rw [← hid, ← hid', ← htarget, ← htarget']
    exact congrArg Prod.fst hkey
  · intro o ho
    obtain ⟨entity, -, ho⟩ := List.mem_flatMap.mp ho
    exact ((store.latestObservationsSince_spec now _ _).2 o ho).1

/-- **A restart keeps the invariant**: the streams come back as they were saved, or
start afresh from the newest observation of each. -/
theorem Sound.start {store : Store} (h : store.Sound) (states : List EntityState)
    (monitored : ManagedEntity → Option Bool) :
    (start store now clock states monitored).Sound := by
  have honce : (Controller.start store now clock states monitored).engine.Once store.ids := by
    unfold Controller.start
    dsimp only
    split
    · next hempty =>
      rw [List.isEmpty_iff] at hempty
      have hfolded : ∀ k, store.folded k = [] := by
        intro k
        by_contra hne
        exact h.kept k hne hempty
      generalize (configureGpuMonitoring now monitored _ store.inventory.all).1 = engine
      obtain ⟨hapart, hstored⟩ := latest_apart_spec store now
      generalize (store.inventory.all.flatMap fun entity =>
        store.latestObservationsSince now entity.id store.resetAt) = latest at hapart hstored ⊢
      have hnone : (TracedEngine.mk engine store.folded).Once store.ids :=
        ⟨h.nodup, h.known, fun k hne => absurd (hfolded k) hne⟩
      have hblocks : ∀ block ∈ latest.map fun o => [o], ∃ o ∈ latest, block = [o] := by
        intro block hblock
        obtain ⟨o, ho, rfl⟩ := List.mem_map.mp hblock
        exact ⟨o, ho, rfl⟩
      have hall := hnone.ingestAll clock (List.Subset.refl _) (latest.map fun o => [o])
        ?_ ?_ ?_ ?_
      · rwa [← List.flatMap_def, List.flatMap_singleton'] at hall
      · intro block hblock
        obtain ⟨o, -, rfl⟩ := hblocks block hblock
        exact ⟨o.id, fun v hv => by rw [List.mem_singleton.mp hv]⟩
      · rw [List.pairwise_map]
        refine hapart.imp fun hne o ho o' ho' hkey => ?_
        rw [List.mem_singleton.mp ho, List.mem_singleton.mp ho'] at hkey
        exact absurd hkey hne
      · intro block _ o _ hmem
        rw [show (TracedEngine.mk engine store.folded).folded o.streamKey = [] from hfolded _] at hmem
        cases hmem
      · intro block hblock v hv
        obtain ⟨o, ho, rfl⟩ := hblocks block hblock
        rw [List.mem_singleton.mp hv]
        exact List.mem_map_of_mem (hstored o ho)
    · next hne =>
      rw [List.isEmpty_iff] at hne
      exact ⟨h.nodup, h.known, fun _ _ => exists_stream_seedStreams _ hne⟩
  have hids : (Controller.start store now clock states monitored).store.ids = store.ids := by
    unfold Controller.start
    dsimp only
    split <;> rfl
  refine ⟨hids ▸ honce, ?_, apart_storageProviders _⟩
  by_cases htransitions : (configureGpuMonitoring now monitored
      (seedStates ((registerBuiltinProbes .new).setObservationCutoff store.resetAt) states)
      store.inventory.all).2.isEmpty = true
  · have hstore : (Controller.start store now clock states monitored).store = store :=
      if_pos htransitions
    rw [hstore]
    exact h
  · have hstore : (Controller.start store now clock states monitored).store =
        store.saveEngine (Controller.start store now clock states monitored).engine :=
      if_neg htransitions
    rw [hstore]
    exact Store.Sound.saveEngine honce

end Controller

end Sentinel
