import Sentinel.Controller.Correlate
import Sentinel.Controller.Diagnose
import Sentinel.Controller.Restart
import Sentinel.Lib.Faults

/-!
# Failures of the store

The controller takes in observations, diagnoses and classifies, and correlates.  Each of
these reads from the store and ends in one transaction, and any operation may fail.  What
is taken in goes to a copy of the state engine, which replaces the engine once it is
committed; a classification works on the engine itself, and puts the old one back if it
fails; a correlation works on a copy of the incident engine.

## Main definitions

* `MonitorMemory`, `MonitorStore`, `Monitored` — the controller's procedures.
* `Monitored.ingestObservations`, `Monitored.diagnoseAndClassify`,
  `Monitored.diagnoseAndCorrelate` — the three of them.
* `monitor` — everything they do, whatever fails.

## Main results

* `Monitored.ensures_ingest`, `Monitored.ensures_diagnoseAndClassify`,
  `Monitored.ensures_correlate` — what holds after each.
* `failure_leaves_no_trace` — **memory and store agree in every run, and a call in which an
  operation failed has no answer and leaves no trace of the stage that failed**.
-/

namespace Sentinel

/-- What the controller holds in memory. -/
structure MonitorMemory where
  /-- The state engine. -/
  engine : StateEngine
  /-- The incident engine. -/
  incidents : IncidentEngine
  /-- Which storage entities each host provides. -/
  storageProviders : Std.ExtTreeMap EntityId (List EntityId)

/-- What is stored. -/
structure MonitorStore where
  /-- The entities of the environment and their dependencies. -/
  inventory : Inventory
  /-- The entities of other environments. -/
  elsewhere : List EntityId
  /-- The tables of the monitoring state. -/
  tables : MonitoringTables

namespace MonitorStore

/-- The streams of an environment. -/
def streamsOf (environment : String) (s : MonitorStore) : List StateStream :=
  (s.tables.streams.filter fun entry => entry.1 = environment).map Prod.snd

/-- The store as observations are read from it and put into it. -/
def asStore (environment : String) (s : MonitorStore) : Store where
  observations := s.tables.observations
  inventory := s.inventory
  elsewhere := s.elsewhere
  streams := s.streamsOf environment
  folded := fun _ => []
  resetAt := s.tables.resets[environment]?

end MonitorStore

/-- A statement on the tables. -/
def onTables : Statement MonitoringTables → Statement MonitorStore :=
  Statement.within MonitorStore.tables fun s tables => { s with tables := tables }

/-- A statement on the tables that incidents are kept in. -/
def onIncidents : Statement IncidentTables → Statement MonitorStore :=
  Statement.within (fun s => s.tables.incidents) fun s incidents =>
    { s with tables := { s.tables with incidents := incidents } }

/-! ### Saving the state engine -/

section Statements

/-- Write the streams of an environment, in one row. -/
def upsertStreams (environment : String) (engine : StateEngine) : Statement MonitoringTables where
  permits := fun _ => true
  effect := fun t => { t with
    streams := (t.streams.filter fun entry => entry.1 ≠ environment) ++
      engine.streams.vals.map fun s => (environment, s) }

/-- Write a component of a state. -/
def upsertComponent (state : EntityState) (entry : StateComponent × ComponentState) :
    Statement MonitoringTables where
  permits := fun _ => true
  effect := fun t =>
    let row := t.states[state.entity]?.getD (.unknown state.updatedAt state.entity)
    let row := { row with components := row.components.insert entry.1 entry.2 }
    { t with states := t.states.insert state.entity row }

/-- Write the roll-up of a state. -/
def upsertOverall (state : EntityState) : Statement MonitoringTables where
  permits := fun _ => true
  effect := fun t =>
    let row := t.states[state.entity]?.getD (.unknown state.updatedAt state.entity)
    let row := { row with
      overall := state.overall
      classifications := state.classifications
      updatedAt := state.updatedAt }
    { t with states := t.states.insert state.entity row }

/-- Record a change of state. -/
def insertTransition (transition : StateTransition) : Statement MonitoringTables where
  permits := fun _ => true
  effect := fun t => { t with transitions := t.transitions ++ [transition] }

/-- The statements that save an engine: its streams, its states and what changed; the
source's `save_engine_in`. -/
def saveEngineStatements (environment : String) (engine : StateEngine) (transitions : List StateTransition) :
    List (Statement MonitoringTables) :=
  upsertStreams environment engine ::
    (engine.states.vals.flatMap fun state =>
      state.components.toList.map (upsertComponent state) ++ [upsertOverall state]) ++
    transitions.map insertTransition

end Statements

/-! ### Classification -/

/-- The refinement of health that a diagnosis implies. -/
def classificationFor (d : Diagnosis) : Option String :=
  if d.diagnosisType = Kind.hostUnreachable then some "HOST_UNREACHABLE"
  else if d.diagnosisType = Kind.pathSpecificNetworkFailure then some "NETWORK_PATH_DEGRADED"
  else if d.diagnosisType = Kind.sshServiceFailure then some "SSH_DEGRADED"
  else if d.diagnosisType = Kind.sentinelAgentFailure then some "AGENT_DEGRADED"
  else if d.diagnosisType = Kind.slurmOnlyDegradation then some "SCHEDULER_DEGRADED"
  else if d.diagnosisType ∈ [Kind.slurmdServiceFailure, Kind.slurmControlPlaneFailure] then
    some "SERVICE_FAILURE"
  else if d.diagnosisType ∈ [Kind.nfsServiceFailure, Kind.nfsClientFailure, Kind.sharedStorageFailure] then
    some "STORAGE_DEGRADED"
  else none

/-- Replace the classifications of a state, each once. -/
def EntityState.setClassifications (state : EntityState) (classifications : List String) : EntityState :=
  { state with classifications := classifications.firsts id }

/-- What some diagnoses imply of each entity. -/
def impliedBy (diagnoses : List Diagnosis) : Std.ExtTreeMap EntityId (List String) :=
  diagnoses.foldl (fun implied d =>
    match classificationFor d with
    | none => implied
    | some classification => d.affectedEntities.foldl (fun implied entity =>
        implied.insert entity (implied[entity]?.getD [] ++ [classification])) implied) ∅

/-- Classify one entity, with what is implied of it; nothing is left of that then. -/
def StateEngine.classifyEntity (result : Std.ExtTreeMap EntityId (List String) × StateEngine) (entity : EntityId) :
    Std.ExtTreeMap EntityId (List String) × StateEngine :=
  let (implied, engine) := result
  (implied.erase entity,
    match engine.states[entity]? with
    | none => engine
    | some state => { engine with
        states := engine.states.insert entity (state.setClassifications (implied[entity]?.getD [])) })

/-- Apply the classifications that diagnoses imply.  Every entity is rewritten, also one
that nothing is said about. -/
def StateEngine.classify (engine : StateEngine) (diagnoses : List Diagnosis) : StateEngine :=
  ((engine.states.vals.map EntityState.entity).foldl classifyEntity (impliedBy diagnoses, engine)).2

@[simp] theorem StateEngine.streams_classifyEntity (result : Std.ExtTreeMap EntityId (List String) × StateEngine)
    (entity : EntityId) : (classifyEntity result entity).2.streams = result.2.streams := by
  obtain ⟨implied, engine⟩ := result
  unfold classifyEntity
  dsimp only
  cases engine.states[entity]? <;> rfl

/-- A classification leaves the streams alone. -/
theorem StateEngine.streams_classify (engine : StateEngine) (diagnoses : List Diagnosis) :
    (engine.classify diagnoses).streams = engine.streams := by
  unfold classify
  generalize impliedBy diagnoses = implied
  generalize engine.states.vals.map EntityState.entity = entities
  induction entities generalizing implied engine with
  | nil => rfl
  | cons entity entities ih =>
    rw [List.foldl_cons]
    exact (ih _ _).trans (streams_classifyEntity (implied, engine) entity)

/-! ### The procedures -/

/-- A procedure of the controller. -/
abbrev Monitored := Faulty MonitorMemory MonitorStore

/-- What a pass of the diagnosis loop is given: who the controller is, and the clock each
time it is read. -/
structure MonitorPass where
  /-- How long answers stay evidence. -/
  freshness : Freshness
  /-- The identifiers of entities. -/
  entityId : EntityKey → EntityId
  /-- The environment of each entity. -/
  home : EntityId → String
  /-- The clock when silent streams expire. -/
  expiresAt : Timestamp
  /-- The clock when the diagnosis expires them in its copy. -/
  reexpiresAt : Timestamp
  /-- The clock when the observations are gathered for the diagnosis. -/
  diagnosedAt : Timestamp
  /-- The clock when the views are gathered. -/
  gatheredAt : Timestamp
  /-- The clock when the incidents are reconciled. -/
  reconciledAt : Timestamp
  /-- The identifier allocated for an incident opened under a fingerprint. -/
  newId : String → Uuid

/-- The engine, its silent streams expired. -/
def MonitorPass.expire (pass : MonitorPass) (engine : StateEngine) (now : Timestamp) :
    StateEngine × List StateTransition :=
  engine.expire now now fun s => pass.freshness.horizonFor s.probe s.observer

namespace Monitored

section Procedures

variable (environment : String) (newV5 : Uuid → String → Uuid) (toRfc3339 : Timestamp → String)

/-- Put one observation into the store, unless it is there. -/
def insertObservation (now : Timestamp) (outcome : IngestOutcome) (o : Observation) : Monitored IngestOutcome :=
  Faulty.operation fun s =>
    (Store.insert now (s.asStore environment, outcome) o).map fun (store, outcome) =>
      (outcome, { s with tables := { s.tables with observations := store.observations } })

/-- Save an engine within a transaction. -/
def saveEngineIn (engine : StateEngine) (transitions : List StateTransition) : Monitored PUnit :=
  ((saveEngineStatements environment engine transitions).map onTables).forM Faulty.execute

/-- Observations, streams, states and transitions in one commit. -/
def applyObservations (now : Timestamp) (clock : Observation → Timestamp) (observations views : List Observation)
    (engine : StateEngine) : Monitored (IngestOutcome × List StateTransition × StateEngine) :=
  Faulty.transaction do
    let outcome ← observations.foldlM (insertObservation environment now) ⟨0, 0, []⟩
    let counts (o : Observation) :=
      decide (o.id ∈ outcome.insertedIds) && decide (o.finishedAt ≤ now + maxFutureSkew)
    let timed (observations : List Observation) := observations.map fun o => (clock o, o)
    let (engine, transitions) := engine.ingestAll (timed ((observations.filter counts).firsts Observation.id))
    let (engine, more) := engine.ingestAll (timed (views.filter counts))
    saveEngineIn environment engine (transitions ++ more)
    return (outcome, transitions ++ more, engine)

/-- Take observations in. -/
def ingestObservations (now : Timestamp) (clock : Observation → Timestamp) (observations : List Observation) :
    Monitored (IngestOutcome × List StateTransition) := do
  let memory ← Faulty.memory
  let views := storageViews memory.storageProviders observations
  let (outcome, transitions, candidate) ←
    applyObservations environment now clock observations views memory.engine
  Faulty.modify fun memory => { memory with engine := candidate }
  return (outcome, transitions)

/-- Read the inventory. -/
def loadInventory : Monitored Inventory := Faulty.read MonitorStore.inventory

/-- Read the newest observations of every entity. -/
def latestObservations (engine : StateEngine) (now : Timestamp) (inventory : Inventory) :
    Monitored (List (EntityId × List Observation)) :=
  inventory.all.mapM' fun entity => do
    let latest ← Faulty.read fun s =>
      (s.asStore environment).latestObservationsSince now entity.id engine.observationCutoff
    return (entity.id, latest)

/-- The states an engine has, or the stored ones if it has none. -/
def currentStates (pass : MonitorPass) (engine : StateEngine) : Monitored (Std.ExtTreeMap EntityId EntityState) :=
  if engine.states.isEmpty then
    Faulty.read fun s => .ofList ((loadEntityStates pass.home environment s.tables.states).map fun state =>
      (state.entity, state))
  else pure engine.states

/-- Run every diagnosis rule against the current picture. -/
def diagnose (pass : MonitorPass) : Monitored (List Diagnosis) := do
  let inventory ← loadInventory
  let memory ← Faulty.memory
  let engine := (pass.expire memory.engine pass.reexpiresAt).1
  let states ← currentStates environment pass engine
  let latest ← latestObservations environment engine pass.diagnosedAt inventory
  let current := latest.flatMap fun (entity, observations) => observations.filter fun o =>
    engine.probeEnabled entity o.probeId &&
      pass.diagnosedAt - o.finishedAt ≤ pass.freshness.horizonFor o.probeId o.observerEntity
  return Sentinel.diagnose (builtinRules pass.entityId)
    ⟨environment, inventory, states, ObservationIndex.new.insertAll current⟩

/-- Expire, diagnose, classify and save. -/
def diagnoseAndClassifyInner (pass : MonitorPass) : Monitored (List Diagnosis) := do
  let memory ← Faulty.memory
  let (engine, transitions) := pass.expire memory.engine pass.expiresAt
  Faulty.modify fun memory => { memory with engine := engine }
  let diagnoses ← diagnose environment pass
  let classified := engine.classify diagnoses
  Faulty.modify fun memory => { memory with engine := classified }
  Faulty.transaction (saveEngineIn environment classified transitions)
  return diagnoses

/-- Run diagnosis and apply the classifications it implies; where that fails, the engine is
what it was. -/
def diagnoseAndClassify (pass : MonitorPass) : Monitored (List Diagnosis) := do
  let previous ← Faulty.memory
  let result ← Faulty.attempt (diagnoseAndClassifyInner environment pass)
  match result with
  | some diagnoses => return diagnoses
  | none =>
    Faulty.modify fun memory => { memory with engine := previous.engine }
    Faulty.fail

/-- Read the observations an incident cites, up to the first that is gone. -/
def readOriginals : List ObservationId → Monitored (List Observation)
  | [] => return []
  | id :: ids => do
    let found ← Faulty.read fun s => (s.tables.observations.map ObservationRow.observation).find? fun o => o.id = id
    match found with
    | none => return []
    | some o =>
      let rest ← readOriginals ids
      return o :: rest

/-- Commit incidents and the messages about them. -/
def saveIncidents (incidents : List Incident) : Monitored PUnit :=
  Faulty.transaction (((incidents.flatMap fun i => saveStatements environment i newV5 toRfc3339).map
    onIncidents).forM Faulty.execute)

/-- Fold diagnoses into incidents. -/
def correlate (pass : MonitorPass) (diagnoses : List Diagnosis) : Monitored IncidentUpdate := do
  let inventory ← loadInventory
  let memory ← Faulty.memory
  let latest ← latestObservations environment memory.engine pass.gatheredAt inventory
  let undiagnosed := memory.incidents.incidents.vals.filter fun i =>
    i.status.isActive && i.fingerprint ∉ diagnoses.map fingerprint
  let originals ← undiagnosed.mapM' fun i => readOriginals i.evidence
  let pass : Pass :=
    { at_ := pass.gatheredAt
      now := pass.reconciledAt
      diagnoses := diagnoses
      engine := memory.engine
      inventory := inventory
      freshness := pass.freshness
      observationById := fun id => originals.flatten.find? fun o => o.id = id
      latestSince := fun entity => (latest.lookup entity).getD []
      newId := pass.newId }
  let (candidate, update) := pass.correlate memory.incidents
  saveIncidents environment newV5 toRfc3339 update.all
  Faulty.modify fun memory => { memory with incidents := candidate }
  return update

/-- Diagnose, classify, then fold the result into incidents. -/
def diagnoseAndCorrelate (pass : MonitorPass) : Monitored (List Diagnosis × IncidentUpdate) := do
  let diagnoses ← diagnoseAndClassify environment pass
  let update ← correlate environment newV5 toRfc3339 pass diagnoses
  return (diagnoses, update)

end Procedures

/-! ### Failures are heeded -/

section Heeds

variable {environment : String} {newV5 : Uuid → String → Uuid} {toRfc3339 : Timestamp → String}

theorem heeds_saveEngineIn (engine : StateEngine) (transitions : List StateTransition) :
    (saveEngineIn environment engine transitions).Heeds := .forM .execute _

theorem heeds_ingest (now : Timestamp) (clock : Observation → Timestamp) (observations : List Observation) :
    (ingestObservations environment now clock observations).Heeds := by
  refine .bind .memory fun memory => .bind (.transaction ?_) fun result => .bind (.modify _) fun _ => .pure _
  refine .bind (.foldlM (fun _ _ => .operation _) _ _) fun outcome => ?_
  exact .bind (heeds_saveEngineIn _ _) fun _ => .pure _

theorem heeds_latestObservations (engine : StateEngine) (now : Timestamp) (inventory : Inventory) :
    (latestObservations environment engine now inventory).Heeds :=
  .mapM (fun _ => .bind (.read _) fun _ => .pure _) _

theorem heeds_currentStates (pass : MonitorPass) (engine : StateEngine) :
    (currentStates environment pass engine).Heeds := by
  unfold currentStates
  split
  · exact .read _
  · exact .pure _

theorem heeds_diagnose (pass : MonitorPass) : (diagnose environment pass).Heeds :=
  .bind (.read _) fun _ => .bind .memory fun _ => .bind (heeds_currentStates pass _) fun _ =>
    .bind (heeds_latestObservations _ _ _) fun _ => .pure _

theorem heeds_diagnoseAndClassify (pass : MonitorPass) : (diagnoseAndClassify environment pass).Heeds := by
  refine .bind .memory fun previous => .attempt ?_ (fun result => ?_) fun _ _ _ => rfl
  · refine .bind .memory fun memory => .bind (.modify _) fun _ => .bind (heeds_diagnose pass) fun diagnoses => ?_
    exact .bind (.modify _) fun _ => .bind (.transaction (heeds_saveEngineIn _ _)) fun _ => .pure _
  · cases result with
    | none => exact .bind (.modify _) fun _ => .fail
    | some diagnoses => exact .pure _

theorem heeds_readOriginals (ids : List ObservationId) : (readOriginals ids).Heeds := by
  induction ids with
  | nil => exact .pure _
  | cons id ids ih =>
    refine .bind (.read _) fun found => ?_
    cases found with
    | none => exact .pure _
    | some o => exact .bind ih fun _ => .pure _

theorem heeds_correlate (pass : MonitorPass) (diagnoses : List Diagnosis) :
    (correlate environment newV5 toRfc3339 pass diagnoses).Heeds := by
  refine .bind (.read _) fun inventory => .bind .memory fun memory => .bind (heeds_latestObservations _ _ _)
    fun latest => .bind (.mapM (fun i => heeds_readOriginals _) _) fun originals => ?_
  exact .bind (.transaction (.forM .execute _)) fun _ => .bind (.modify _) fun _ => .pure _

theorem heeds_diagnoseAndCorrelate (pass : MonitorPass) :
    (diagnoseAndCorrelate environment newV5 toRfc3339 pass).Heeds :=
  .bind (heeds_diagnoseAndClassify pass) fun _ => .bind (heeds_correlate pass _) fun _ => .pure _

end Heeds

/-! ### What holds afterwards -/

end Monitored

/-- What saving an engine writes: the streams of the environment, and nothing of
incidents. -/
theorem effects_saveEngine (environment : String) (engine : StateEngine) (transitions : List StateTransition)
    (t : MonitoringTables) :
    let after := effects (saveEngineStatements environment engine transitions) t
    after.streams = (t.streams.filter fun entry => entry.1 ≠ environment) ++
        engine.streams.vals.map (fun s => (environment, s)) ∧
      after.incidents = t.incidents ∧ after.resets = t.resets := by
  let wrote (after : MonitoringTables) : Prop :=
    after.streams = (t.streams.filter fun entry => entry.1 ≠ environment) ++
        engine.streams.vals.map (fun s => (environment, s)) ∧
      after.incidents = t.incidents ∧ after.resets = t.resets
  change wrote (effects (saveEngineStatements environment engine transitions) t)
  have hwrote : wrote ((upsertStreams environment engine).effect t) := ⟨rfl, rfl, rfl⟩
  rw [saveEngineStatements, List.cons_append, effects_cons]
  refine effects_invariant (fun statement hstatement t' ht' => ?_) hwrote
  rcases List.mem_append.mp hstatement with hstate | htransition
  · obtain ⟨state, -, hstate⟩ := List.mem_flatMap.mp hstate
    rcases List.mem_append.mp hstate with hcomponent | hoverall
    · obtain ⟨entry, -, rfl⟩ := List.mem_map.mp hcomponent
      exact ht'
    · rw [List.mem_singleton.mp hoverall]
      exact ht'
  · obtain ⟨transition, -, rfl⟩ := List.mem_map.mp htransition
    exact ht'

/-- Memory and store agree on the streams. -/
def StreamsAgree (environment : String) (h : Held MonitorMemory MonitorStore) : Prop :=
  h.store.streamsOf environment = h.memory.engine.streams.vals

/-- What is held of incidents is the same. -/
structure SameIncidents (h h' : Held MonitorMemory MonitorStore) : Prop where
  memory : h'.memory.incidents = h.memory.incidents
  tables : h'.store.tables.incidents = h.store.tables.incidents
  resets : h'.store.tables.resets = h.store.tables.resets

namespace Monitored

section Ensures

variable {environment : String} {newV5 : Uuid → String → Uuid} {toRfc3339 : Timestamp → String}
  {h : Held MonitorMemory MonitorStore}

/-- What saving an engine does. -/
theorem ensures_saveEngineIn {engine : StateEngine} {transitions : List StateTransition}
    {ok : PUnit → Held MonitorMemory MonitorStore → Prop} {err : Held MonitorMemory MonitorStore → Prop}
    (herr : ∀ s, err { h with store := s })
    (hok : ∀ s : MonitorStore, s.streamsOf environment = engine.streams.vals →
      s.tables.incidents = h.store.tables.incidents → s.tables.resets = h.store.tables.resets →
        ok ⟨⟩ { h with store := s }) :
    (saveEngineIn environment engine transitions).Ensures h ok err := by
  refine .execute_all _ h herr ?_
  have heffects : effects ((saveEngineStatements environment engine transitions).map onTables) h.store =
      { h.store with tables := effects (saveEngineStatements environment engine transitions) h.store.tables } :=
    @effects_within _ _ MonitorStore.tables (fun s tables => { s with tables := tables }) (fun _ => rfl)
      (fun _ _ => rfl) (fun _ _ _ => rfl) _ _
  obtain ⟨hstreams, hincidents, hresets⟩ :=
    effects_saveEngine environment engine transitions h.store.tables
  rw [heffects]
  refine hok _ ?_ hincidents hresets
  rw [MonitorStore.streamsOf]
  dsimp only
  rw [hstreams, List.filter_append, List.filter_filter, List.map_append]
  have hnone : (h.store.tables.streams.filter fun entry => entry.1 = environment && entry.1 ≠ environment) = [] :=
    List.filter_eq_nil_iff.mpr fun entry _ => by simp
  have hall : ((engine.streams.vals.map fun s => (environment, s)).filter fun entry => entry.1 = environment) =
      engine.streams.vals.map fun s => (environment, s) :=
    List.filter_eq_self.mpr fun entry hentry => by
      obtain ⟨s, -, rfl⟩ := List.mem_map.mp hentry
      exact decide_eq_true rfl
  rw [hnone, hall, List.map_nil, List.nil_append, List.map_map]
  exact List.map_id _

/-- Observations are taken in, or nothing has happened. -/
theorem ensures_ingest (now : Timestamp) (clock : Observation → Timestamp) (observations : List Observation) :
    (ingestObservations environment now clock observations).Ensures h
      (fun _ h' => SameIncidents h h' ∧ StreamsAgree environment h') fun h' => h' = h := by
  -- before the engine is saved, only observations have been written
  let inserted (h' : Held MonitorMemory MonitorStore) : Prop :=
    h'.memory = h.memory ∧ h'.store.tables.incidents = h.store.tables.incidents ∧
      h'.store.tables.resets = h.store.tables.resets
  have hundone {h' : Held MonitorMemory MonitorStore} (hmemory : h'.memory = h.memory) :
      { h' with store := h.store } = h := by
    obtain ⟨memory, store⟩ := h
    exact congrArg (Held.mk · store) hmemory
  refine .bind (.memory (.bind (.transaction rfl (.bind ?_))))
  refine (@Faulty.Ensures.foldlM _ _ _ _ _ _ inserted (fun outcome o h' hinserted => ?_) observations _ h
    ⟨rfl, rfl, rfl⟩).imp (fun outcome h' hinserted => ?_) fun h' herr => herr
  · refine .operation (hundone hinserted.1) fun outcome' s hs => ?_
    obtain ⟨result, -, hresult⟩ := Option.map_eq_some_iff.mp hs
    obtain ⟨-, rfl⟩ := Prod.mk.inj hresult
    exact hinserted
  · obtain ⟨hmemory, hincidents, hresets⟩ := hinserted
    refine .bind (ensures_saveEngineIn (fun s => hundone hmemory) fun s hstreams hincidents' hresets' => ?_)
    refine .pure ⟨.bind (.modify (.pure ⟨⟨?_, ?_, ?_⟩, hstreams⟩)), hundone hmemory⟩
    · exact (congrArg MonitorMemory.incidents hmemory : h'.memory.incidents = h.memory.incidents)
    · exact hincidents'.trans hincidents
    · exact hresets'.trans hresets

/-- Reading leaves everything as it is. -/
theorem ensures_latestObservations {engine : StateEngine} {now : Timestamp} {inventory : Inventory}
    {err : Held MonitorMemory MonitorStore → Prop} (herr : err h) :
    (latestObservations environment engine now inventory).Ensures h (fun _ h' => h' = h) err := by
  refine .mapM (fun entity h' hsame => ?_) _ h rfl
  subst hsame
  exact .bind (.read herr (.pure rfl))

theorem ensures_diagnose {pass : MonitorPass} {err : Held MonitorMemory MonitorStore → Prop} (herr : err h) :
    (diagnose environment pass).Ensures h (fun _ h' => h' = h) err := by
  refine .bind (.read herr (.bind (.memory (.bind ?_))))
  have hstates : (currentStates environment pass (pass.expire h.memory.engine pass.reexpiresAt).1).Ensures h
      (fun _ h' => h' = h) err := by
    unfold currentStates
    split
    · exact .read herr rfl
    · exact .pure rfl
  refine hstates.imp (fun states h' hsame => ?_) fun _ herr => herr
  subst hsame
  refine .bind ((ensures_latestObservations herr).imp (fun latest h' hsame => ?_) fun _ herr => herr)
  subst hsame
  exact .pure rfl

theorem ensures_readOriginals {err : Held MonitorMemory MonitorStore → Prop} (herr : err h)
    (ids : List ObservationId) : (readOriginals ids).Ensures h (fun _ h' => h' = h) err := by
  induction ids with
  | nil => exact .pure rfl
  | cons id ids ih =>
    refine .bind (.read herr ?_)
    split
    · exact .pure rfl
    · refine .bind (ih.imp (fun rest h' hsame => ?_) fun _ herr => herr)
      subst hsame
      exact .pure rfl

/-- The states are diagnosed, classified and saved, or nothing has happened. -/
theorem ensures_diagnoseAndClassify (pass : MonitorPass) :
    (diagnoseAndClassify environment pass).Ensures h
      (fun _ h' => SameIncidents h h' ∧ StreamsAgree environment h') fun h' => h' = h := by
  -- where the procedure within fails, only the engine in memory has changed
  let touched (h' : Held MonitorMemory MonitorStore) : Prop :=
    ∃ engine, h' = ⟨{ h.memory with engine := engine }, h.store⟩
  have hinner : (diagnoseAndClassifyInner environment pass).Ensures h
      (fun _ h' => SameIncidents h h' ∧ StreamsAgree environment h') touched := by
    refine .bind (.memory (.bind (.modify (.bind ?_))))
    refine (ensures_diagnose ⟨_, rfl⟩).imp (fun diagnoses h' hsame => ?_) fun _ herr => herr
    subst hsame
    refine .bind (.modify (.bind (.transaction ⟨_, rfl⟩ ?_)))
    refine ensures_saveEngineIn (fun _ => ⟨_, rfl⟩) fun s hstreams hincidents hresets => ?_
    exact ⟨.pure ⟨⟨rfl, hincidents, hresets⟩, hstreams⟩, _, rfl⟩
  refine .bind (.memory (.bind (.attempt (hinner.imp (fun diagnoses h' hdone => .pure hdone) ?_))))
  rintro h' ⟨engine, rfl⟩
  exact .bind (.modify (.fail rfl))

theorem ensures_originals {err : Held MonitorMemory MonitorStore → Prop} (herr : err h) (incidents : List Incident) :
    (incidents.mapM' fun i => readOriginals i.evidence).Ensures h (fun _ h' => h' = h) err := by
  refine .mapM (fun i h' hsame => ?_) _ h rfl
  subst hsame
  exact ensures_readOriginals herr i.evidence

/-- Incidents are saved, or nothing has happened. -/
theorem ensures_saveIncidents {incidents : List Incident} {ok : PUnit → Held MonitorMemory MonitorStore → Prop}
    {err : Held MonitorMemory MonitorStore → Prop} (herr : err h)
    (hok : ok ⟨⟩ { h with store := { h.store with tables := { h.store.tables with
      incidents := h.store.tables.incidents.savedAll environment newV5 toRfc3339 incidents } } }) :
    (saveIncidents environment newV5 toRfc3339 incidents).Ensures h ok err := by
  refine .transaction herr (.execute_all _ h (fun _ => herr) ⟨?_, herr⟩)
  have heffects : effects ((incidents.flatMap fun i => saveStatements environment i newV5 toRfc3339).map
      onIncidents) h.store = { h.store with tables := { h.store.tables with
        incidents := h.store.tables.incidents.savedAll environment newV5 toRfc3339 incidents } } := by
    rw [IncidentTables.savedAll]
    change _ = { h.store with tables := { h.store.tables with
      incidents := incidents.foldl (fun t i => effects (saveStatements environment i newV5 toRfc3339) t)
        h.store.tables.incidents } }
    rw [← effects_flatMap]
    exact @effects_within _ _ (fun s : MonitorStore => s.tables.incidents) (fun s incidents =>
      { s with tables := { s.tables with incidents := incidents } }) (fun _ => rfl) (fun _ _ => rfl)
        (fun _ _ _ => rfl) _ _
  rw [heffects]
  exact hok

/-- Diagnoses are folded into incidents and these are saved, or nothing has happened. -/
theorem ensures_correlate (pass : MonitorPass) (diagnoses : List Diagnosis) :
    (correlate environment newV5 toRfc3339 pass diagnoses).Ensures h
      (fun _ h' => ∃ call : IncidentEngine.Reconciliation, call.now = pass.reconciledAt ∧ call.newId = pass.newId ∧
        h'.memory = { h.memory with incidents := (h.memory.incidents.reconcileVerified call).1 } ∧
        h'.store = { h.store with tables := { h.store.tables with
          incidents := h.store.tables.incidents.savedAll environment newV5 toRfc3339
            (h.memory.incidents.reconcileVerified call).2.all } })
      fun h' => h' = h := by
  refine .bind (.read rfl (.bind (.memory (.bind ?_))))
  refine (ensures_latestObservations rfl).imp (fun latest h' hsame => ?_) fun _ herr => herr.symm
  subst hsame
  refine .bind ((ensures_originals rfl _).imp (fun originals h'' hsame => ?_) fun _ herr => herr.symm)
  subst hsame
  exact .bind (ensures_saveIncidents rfl (.bind (.modify (.pure ⟨_, rfl, rfl, rfl, rfl⟩))))

end Ensures

end Monitored

/-! ### Every run -/

/-- A call of the controller. -/
inductive MonitorCall
  /-- Observations come in. -/
  | ingest (now : Timestamp) (clock : Observation → Timestamp) (observations : List Observation)
  /-- A pass that diagnoses and classifies. -/
  | classify (pass : MonitorPass)
  /-- A pass that also correlates. -/
  | correlate (pass : MonitorPass)

/-- A controller with its store, and when it correlated last. -/
structure Monitor where
  /-- What is held. -/
  held : Held MonitorMemory MonitorStore
  /-- When it correlated last. -/
  clock : Timestamp

section Runs

variable (environment : String) (newV5 : Uuid → String → Uuid) (toRfc3339 : Timestamp → String)

/-- Run a call. -/
def MonitorCall.run : MonitorCall → Monitored Unit
  | ingest now clock observations => do
    let _ ← Monitored.ingestObservations environment now clock observations
  | classify pass => do
    let _ ← Monitored.diagnoseAndClassify environment pass
  | correlate pass => do
    let _ ← Monitored.diagnoseAndCorrelate environment newV5 toRfc3339 pass

/-- What is held of incidents, and when it was written last. -/
def Monitor.correlator (m : Monitor) : Correlator := ⟨m.held.memory.incidents, m.held.store.tables, m.clock⟩

/-- What happens to the controller, whatever fails.  It begins without streams and
incidents; the clock does not go back, and the identifiers of incidents are new. -/
def monitor : Machine Monitor (MonitorCall × (ℕ → Bool)) where
  Init := fun m => StreamsAgree environment m.held ∧
    (Sentinel.correlator environment newV5 toRfc3339).Init m.correlator
  step := fun m input =>
    ⟨(input.1.run environment newV5 toRfc3339 input.2 0 m.held).2.2,
      match input.1 with
      | .correlate pass => pass.reconciledAt
      | _ => m.clock⟩
  Allowed := fun m input =>
    match input.1 with
    | .correlate pass => m.clock ≤ pass.reconciledAt ∧ Function.Injective pass.newId ∧
        ∀ f, m.held.store.tables.incidents.incidents[pass.newId f]? = none
    | _ => True

/-- What a call that failed leaves of the stage that failed: nothing.  A pass that
correlates fails in either stage; in the second one the first is done. -/
def MonitorCall.Untouched (fault : ℕ → Bool) (h h' : Held MonitorMemory MonitorStore) : MonitorCall → Prop
  | ingest .. => h' = h
  | classify _ => h' = h
  | correlate pass => h' = h ∨ (SameIncidents h h' ∧
      ∃ diagnoses n, Monitored.diagnoseAndClassify environment pass fault 0 h = (some diagnoses, n, h'))

/-- Memory and store agree: on the streams, on the incidents that are held, and on those
that are stored and not over. -/
structure Monitor.Agrees (m : Monitor) : Prop where
  streams : StreamsAgree environment m.held
  incidents : ∀ (f : String) (i : Incident), m.held.memory.incidents.incidents[f]? = some i →
    m.held.store.tables.incidents.Records environment i
  rows : ∀ (id : Uuid) (row : StoredIncident), m.held.store.tables.incidents.incidents[id]? = some row →
    row.environment = environment → row.status ≠ .resolved →
    ∃ i, m.held.memory.incidents.incidents[row.fingerprint]? = some i ∧ i.id = id

end Runs

section Agree

variable {environment : String} {newV5 : Uuid → String → Uuid} {toRfc3339 : Timestamp → String} {m : Monitor}

theorem MonitorCall.heeds_run (call : MonitorCall) : (call.run environment newV5 toRfc3339).Heeds := by
  cases call with
  | ingest now clock observations => exact .bind (Monitored.heeds_ingest _ _ _) fun _ => .pure _
  | classify pass => exact .bind (Monitored.heeds_diagnoseAndClassify _) fun _ => .pure _
  | correlate pass => exact .bind (Monitored.heeds_diagnoseAndCorrelate _) fun _ => .pure _

/-- A call ends as the procedure it runs does. -/
theorem MonitorCall.run_correlate (pass : MonitorPass) (fault : ℕ → Bool) (n : ℕ)
    (h : Held MonitorMemory MonitorStore) :
    ((correlate pass).run environment newV5 toRfc3339 fault n h).2.2 =
        (Monitored.diagnoseAndCorrelate environment newV5 toRfc3339 pass fault n h).2.2 ∧
      (((correlate pass).run environment newV5 toRfc3339 fault n h).1 = none ↔
        (Monitored.diagnoseAndCorrelate environment newV5 toRfc3339 pass fault n h).1 = none) := by
  rw [run, Faulty.bind_pure_run]
  exact ⟨rfl, Option.map_eq_none_iff⟩

/-- The two stages of a pass that correlates: the first one fails and nothing has happened;
or it is done, and the second one fails and leaves it so; or that is done as well. -/
theorem Monitored.diagnoseAndCorrelate_cases (pass : MonitorPass) (fault : ℕ → Bool)
    (h h' : Held MonitorMemory MonitorStore) {answer : Option (List Diagnosis × IncidentUpdate)} {n' : ℕ}
    (hrun : diagnoseAndCorrelate environment newV5 toRfc3339 pass fault 0 h = (answer, n', h')) :
    (answer = none ∧ h' = h) ∨
      ∃ diagnoses n h₁, diagnoseAndClassify environment pass fault 0 h = (some diagnoses, n, h₁) ∧
        SameIncidents h h₁ ∧ StreamsAgree environment h₁ ∧
        ((answer = none ∧ h' = h₁) ∨ (answer.isSome = true ∧
          ∃ call : IncidentEngine.Reconciliation, call.now = pass.reconciledAt ∧ call.newId = pass.newId ∧
            h'.memory = { h₁.memory with incidents := (h₁.memory.incidents.reconcileVerified call).1 } ∧
            h'.store = { h₁.store with tables := { h₁.store.tables with
              incidents := h₁.store.tables.incidents.savedAll environment newV5 toRfc3339
                (h₁.memory.incidents.reconcileVerified call).2.all } })) := by
  obtain ⟨hok, herr⟩ := @ensures_diagnoseAndClassify environment h pass fault 0
  unfold diagnoseAndCorrelate at hrun
  rcases hclassify : diagnoseAndClassify environment pass fault 0 h with ⟨_ | diagnoses, n, h₁⟩
  · rw [Faulty.bind_of_none hclassify] at hrun
    rw [hclassify] at herr
    cases hrun
    exact Or.inl ⟨rfl, herr rfl⟩
  · rw [Faulty.bind_of_some hclassify, Faulty.bind_pure_run] at hrun
    rw [hclassify] at hok
    obtain ⟨hincidents, hstreams⟩ := hok diagnoses rfl
    obtain ⟨hok', herr'⟩ := @ensures_correlate environment newV5 toRfc3339 h₁ pass diagnoses fault n
    refine Or.inr ⟨diagnoses, n, h₁, rfl, hincidents, hstreams, ?_⟩
    rcases hcorrelate : correlate environment newV5 toRfc3339 pass diagnoses fault n h₁ with ⟨_ | update, n'', h''⟩
    · rw [hcorrelate] at herr' hrun
      cases hrun
      exact Or.inl ⟨rfl, herr' rfl⟩
    · rw [hcorrelate] at hok' hrun
      cases hrun
      exact Or.inr ⟨rfl, hok' update rfl⟩

/-- A call without an answer has left the stage that failed untouched. -/
theorem MonitorCall.untouched_run (call : MonitorCall) (fault : ℕ → Bool) (h : Held MonitorMemory MonitorStore)
    (hnone : (call.run environment newV5 toRfc3339 fault 0 h).1 = none) :
    call.Untouched environment fault h (call.run environment newV5 toRfc3339 fault 0 h).2.2 := by
  cases call with
  | ingest now clock observations =>
    have hensures : ((ingest now clock observations).run environment newV5 toRfc3339).Ensures h
        (fun _ _ => True) fun h' => h' = h :=
      .bind ((Monitored.ensures_ingest now clock observations).imp (fun _ _ _ => .pure trivial) fun _ herr => herr)
    exact (hensures fault 0).2 hnone
  | classify pass =>
    have hensures : ((classify pass).run environment newV5 toRfc3339).Ensures h
        (fun _ _ => True) fun h' => h' = h :=
      .bind ((Monitored.ensures_diagnoseAndClassify pass).imp (fun _ _ _ => .pure trivial) fun _ herr => herr)
    exact (hensures fault 0).2 hnone
  | correlate pass =>
    obtain ⟨hheld, hanswer⟩ := @run_correlate environment newV5 toRfc3339 pass fault 0 h
    rcases hrun : Monitored.diagnoseAndCorrelate environment newV5 toRfc3339 pass fault 0 h with ⟨answer, n', h'⟩
    rw [hrun] at hheld hanswer
    rw [hheld]
    rcases Monitored.diagnoseAndCorrelate_cases pass fault h h' hrun with ⟨-, hsame⟩ | ⟨diagnoses, n, h₁, hclassify, hincidents, -, ⟨-, hsame⟩ | ⟨hsome, -⟩⟩
    · exact Or.inl hsame
    · rw [hsame]
      exact Or.inr ⟨hincidents, diagnoses, n, hclassify⟩
    · rw [show answer = none from hanswer.mp hnone] at hsome
      cases hsome

/-- What is held of incidents stays sound where it stays the same. -/
theorem Correlator.Sound.of_same {c c' : Correlator} (hsound : c.Sound environment) (hengine : c'.engine = c.engine)
    (hincidents : c'.tables.incidents = c.tables.incidents) (hresets : c'.tables.resets = c.tables.resets)
    (hclock : c'.clock = c.clock) : c'.Sound environment := by
  obtain ⟨engine, tables, clock⟩ := c
  obtain ⟨engine', tables', clock'⟩ := c'
  subst hengine hclock
  refine ⟨hsound.consistent, hincidents ▸ hsound.bare, hresets ▸ hsound.reset, hsound.tidy,
    hincidents ▸ hsound.records, hincidents ▸ hresets ▸ hsound.begun, fun id row hrow henvironment => ?_⟩
  refine (hsound.rows id row (hincidents ▸ hrow) henvironment).imp_right fun ⟨endedAt, hpast⟩ => ?_
  exact ⟨endedAt, hpast.status, hpast.ended, hpast.started, hpast.held, hpast.unheld⟩

/-- What survives every call. -/
structure Monitor.Sound (environment : String) (m : Monitor) : Prop where
  streams : StreamsAgree environment m.held
  incidents : m.correlator.Sound environment

theorem Monitor.Sound.of_same (hsound : m.Sound environment) {h : Held MonitorMemory MonitorStore}
    (hsame : SameIncidents m.held h) (hstreams : StreamsAgree environment h) :
    Monitor.Sound environment ⟨h, m.clock⟩ :=
  ⟨hstreams, hsound.incidents.of_same hsame.memory hsame.tables hsame.resets rfl⟩

/-- Time passes. -/
theorem Monitor.Sound.mono (hsound : m.Sound environment) {now : Timestamp} (hnow : m.clock ≤ now) :
    Monitor.Sound environment ⟨m.held, now⟩ :=
  ⟨hsound.streams, hsound.incidents.mono hnow⟩

/-- After a call that does not correlate, what is held of incidents is the same. -/
theorem Monitor.Sound.of_ensures (hsound : m.Sound environment) {α : Type} {procedure : Monitored α}
    (hensures : procedure.Ensures m.held (fun _ h' => SameIncidents m.held h' ∧ StreamsAgree environment h')
      fun h' => h' = m.held) (fault : ℕ → Bool) :
    Monitor.Sound environment ⟨(procedure fault 0 m.held).2.2, m.clock⟩ := by
  obtain ⟨hok, herr⟩ := hensures fault 0
  rcases hrun : procedure fault 0 m.held with ⟨_ | answer, n, h'⟩
  · rw [hrun] at herr
    rw [show h' = m.held from herr rfl]
    exact hsound
  · rw [hrun] at hok
    obtain ⟨hsame, hstreams⟩ := hok answer rfl
    exact hsound.of_same hsame hstreams

/-- Whatever a call does, memory and store still agree. -/
theorem Monitor.Sound.step (hsound : m.Sound environment) {input : MonitorCall × (ℕ → Bool)}
    (hallowed : (monitor environment newV5 toRfc3339).Allowed m input) :
    ((monitor environment newV5 toRfc3339).step m input).Sound environment := by
  obtain ⟨call, fault⟩ := input
  cases call with
  | ingest now clock observations =>
    exact hsound.of_ensures (.bind ((Monitored.ensures_ingest now clock observations).imp
      (fun _ _ hdone => .pure hdone) fun _ herr => herr)) fault
  | classify pass =>
    exact hsound.of_ensures (.bind ((Monitored.ensures_diagnoseAndClassify pass).imp
      (fun _ _ hdone => .pure hdone) fun _ herr => herr)) fault
  | correlate pass =>
    obtain ⟨hnow, hinjective, hunstored⟩ := hallowed
    change Monitor.Sound environment ⟨_, pass.reconciledAt⟩
    rw [(MonitorCall.run_correlate pass fault 0 m.held).1]
    rcases hrun : Monitored.diagnoseAndCorrelate environment newV5 toRfc3339 pass fault 0 m.held
      with ⟨answer, n', h'⟩
    rcases Monitored.diagnoseAndCorrelate_cases pass fault m.held h' hrun with
      ⟨-, hsame⟩ | ⟨diagnoses, n, h₁, -, hincidents, hstreams, ⟨-, hsame⟩ | ⟨-, call, hcall, hid, hmemory, hstore⟩⟩
    · rw [hsame]
      exact hsound.mono hnow
    · rw [hsame]
      exact (hsound.of_same hincidents hstreams).mono hnow
    · have hfirst := hsound.of_same hincidents hstreams
      have hfresh : call.Fresh h₁.store.tables.incidents := by
        refine ⟨fun d _ => ?_, fun d _ d' _ heq => ?_⟩
        · rw [hid, hincidents.tables]
          exact hunstored _
        · rw [hid] at heq
          exact hinjective heq
      obtain ⟨memory, store⟩ := h'
      subst hmemory hstore
      refine ⟨hstreams, ?_⟩
      rw [← hcall] at hnow ⊢
      exact hfirst.incidents.reconcile_saved hnow hfresh

/-- Memory and store agree in every run. -/
theorem sound_run {log : List (MonitorCall × (ℕ → Bool))} (hrun : (monitor environment newV5 toRfc3339).Run log m) :
    m.Sound environment :=
  hrun.invariant (P := fun _ m => m.Sound environment)
    (fun _ hinit => ⟨hinit.1, Correlator.sound_init hinit.2⟩) fun _ _ _ _ hsound hallowed => hsound.step hallowed

theorem Monitor.Sound.agrees (hsound : m.Sound environment) : m.Agrees environment where
  streams := hsound.streams
  incidents := hsound.incidents.records
  rows := by
    intro id row hrow henvironment hstatus
    rcases hsound.incidents.rows id row hrow henvironment with hheld | ⟨endedAt, hpast⟩
    · exact hheld
    · exact absurd hpast.status hstatus

/-- **Failures leave no trace.**  After every run memory and store agree on the streams and
on the incidents.  Of every call after it: if an operation failed, it has no
answer; and if it has none, it has left the stage that failed untouched. -/
theorem failure_leaves_no_trace {log : List (MonitorCall × (ℕ → Bool))}
    (hrun : (monitor environment newV5 toRfc3339).Run log m) (call : MonitorCall) (fault : ℕ → Bool) :
    let (answer, operations, after) := call.run environment newV5 toRfc3339 fault 0 m.held
    m.Agrees environment ∧ ((∃ k < operations, fault k = true) → answer = none) ∧
      (answer = none → call.Untouched environment fault m.held after) := by
  have hsound := sound_run hrun
  refine ⟨hsound.agrees, fun ⟨k, hk, hfault⟩ => ?_, call.untouched_run fault m.held⟩
  by_contra hanswer
  have hheeds := (call.heeds_run fault 0 m.held).2 (Option.isSome_iff_ne_none.mpr hanswer) k (Nat.zero_le k) hk
  rw [hfault] at hheeds
  cases hheeds

end Agree

open Flapping in
/-- The store refuses an observation, right after the transaction is begun. -/
theorem failure_leaves_no_trace_at_insert :
    let m : Monitor := ⟨⟨⟨.new, start.engine, ∅⟩, ⟨.new, [], start.tables⟩⟩, start.clock⟩
    let o : Observation := ⟨⟨⟨1⟩⟩, ⟨"reachability"⟩, host, none, 0, .timeout, .null⟩
    let result := (MonitorCall.ingest 0 (fun _ => 0) [o]).run "lab" newV5 toRfc3339 (fun n => n = 1) 0 m.held
    m.Agrees "lab" ∧ result.1 = none ∧ result.2.2 = m.held := by
  intro m o result
  have hstreams : StreamsAgree "lab" m.held := by
    unfold StreamsAgree
    decide +kernel
  have hrun : (monitor "lab" newV5 toRfc3339).Run [] m := .init ⟨hstreams, init_start⟩
  obtain ⟨hagrees, hnone, huntouched⟩ := failure_leaves_no_trace hrun (.ingest 0 (fun _ => 0) [o]) fun n => n = 1
  have hanswer : result.1 = none := hnone ⟨1, by decide +kernel, rfl⟩
  exact ⟨hagrees, hanswer, huntouched hanswer⟩

end Sentinel
