import Sentinel.Controller.Ingest
import Sentinel.Controller.Monitoring
import Sentinel.State.Resume

/-!
# Restarts

A controller that is started again puts its state engine together from three places:
the streams it saved, the states it saved, and the inventory, which says whose GPU probe
is disabled.  A store without streams is taken for an old one, and the newest stored
observations are folded in instead.

Two things can go wrong.  An agent is registered in the environment it claims, and what
it says about its accelerators reaches the engine; but the inventory that is read at the
start has only the controller's own environment.  And a store without streams need not
be an old one: an observation that was stored while its probe was disabled would be
folded in at the start, if the probe has been enabled since.

## Main definitions

* `saveEntityStates`, `loadEntityStates` — the state table.
* `Deployment` — a controller with its database, and `deployment`, everything that
  happens to it.
* `StateEngine.Survives` — what a restart should not change.

## Main results

* `Deployment.Sound.step` — what ties the engine to the database.
* `Deployment.survives_restart_iff` — when an engine survives a restart.
-/

namespace Sentinel

/-! ### The state table -/

/-- The row of an entity after a state is saved.  Components are upserts. -/
def saveEntityState (row : Option EntityState) (state : EntityState) : EntityState :=
  { state with components := (row.map EntityState.components).getD ∅ ∪ state.components }

/-- Save the states of an engine, each under its entity. -/
def saveEntityStates (rows : Std.ExtTreeMap EntityId EntityState) (engine : StateEngine) :
    Std.ExtTreeMap EntityId EntityState :=
  engine.states.toList.foldl
    (fun rows entry => rows.insert entry.1 (saveEntityState rows[entry.1]? entry.2)) rows

/-- Load every derived state of an environment. -/
def loadEntityStates (home : EntityId → String) (environment : String)
    (rows : Std.ExtTreeMap EntityId EntityState) : List EntityState :=
  (rows.toList.filter fun entry => home entry.1 = environment).map fun entry =>
    { entry.2 with entity := entry.1 }

theorem getElem?_saveEntityStates (rows : Std.ExtTreeMap EntityId EntityState) (engine : StateEngine)
    (e : EntityId) : (saveEntityStates rows engine)[e]? =
      (engine.states[e]?.map (saveEntityState rows[e]?)).or rows[e]? := by
  have hlook := List.foldl_look (fun (rows : Std.ExtTreeMap EntityId EntityState) e => rows[e]?)
    (fun rows entry => rows.insert entry.1 (saveEntityState rows[entry.1]? entry.2)) Prod.fst
    (fun row entry => some (saveEntityState row entry.2)) ?_ engine.states.toList e rows
  · rw [saveEntityStates, hlook, Std.ExtTreeMap.filter_toList]
    cases engine.states[e]? <;> rfl
  · intro rows entry e
    rw [Std.ExtTreeMap.getElem?_insert_eq]
    split
    · next he => rw [← he]
    · rfl

theorem mem_loadEntityStates {home : EntityId → String} {environment : String}
    {rows : Std.ExtTreeMap EntityId EntityState} {state : EntityState}
    (h : state ∈ loadEntityStates home environment rows) :
    home state.entity = environment ∧ ∃ row : EntityState, rows[state.entity]? = some row ∧
      row.components = state.components ∧ row.overall = state.overall := by
  obtain ⟨entry, hentry, rfl⟩ := List.mem_map.mp h
  obtain ⟨hmem, hhome⟩ := List.mem_filter.mp hentry
  exact ⟨of_decide_eq_true hhome, entry.2, Std.ExtTreeMap.mem_toList_iff_getElem?_eq_some.mp hmem, rfl, rfl⟩

/-! ### The deployment -/

/-- A controller, with the inventory and the states in its database. -/
structure Deployment where
  /-- The inventory, of every environment. -/
  tables : Tables
  /-- The states, of every environment. -/
  states : Std.ExtTreeMap EntityId EntityState
  /-- The controller. -/
  controller : Controller

namespace Deployment

/-- The state engine. -/
def engine (d : Deployment) : StateEngine := d.controller.engine.engine

/-- The store, as a controller of an environment reads it from the inventory tables. -/
def reload (home : EntityId → String) (environment : String) (tables : Tables) (store : Store) : Store :=
  { store with
    inventory := (tables.within home environment).loadInventory
    elsewhere := tables.entities.keys.filter fun id => home id ≠ environment }

/-- The engine saved: its streams and its states. -/
def saveEngine (d : Deployment) : Deployment :=
  { d with
    states := saveEntityStates d.states d.engine
    controller := { d.controller with store := d.controller.store.saveEngine d.controller.engine } }

/-- What comes in is recorded, unless the schema refuses it; the engine is saved in the
same transaction. -/
def recorded (d : Deployment) (after : Option Controller) : Deployment :=
  match after with
  | none => d
  | some controller =>
    { d with states := saveEntityStates d.states controller.engine.engine, controller := controller }

/-- An agent registers.  The engine is saved if a component changed its health. -/
def register (home : EntityId → String) (entityId : EntityKey → EntityId) (environment : String)
    (d : Deployment) (now : Timestamp) (request : RegisterRequest) : Deployment :=
  let snapshot := snapshotFromRegistration entityId request
  let merged := (d.tables.within home environment).loadInventory.merge snapshot
  let tables := d.tables.serve home entityId environment (.register request)
  let store := reload home environment tables d.controller.store
  let controller := { d.controller with store := store }.ingestSnapshot now store.inventory
    snapshot.entities ManagedEntity.gpuMonitoring
  let transitions := (Controller.configureGpuMonitoring now ManagedEntity.gpuMonitoring d.engine
    snapshot.entities).2
  { tables := tables
    states :=
      if transitions.isEmpty then d.states else saveEntityStates d.states controller.engine.engine
    controller := { controller with storageProviders := storageProviders merged } }

/-- A discovery cycle. -/
def discover (home : EntityId → String) (entityId : EntityKey → EntityId) (environment : String)
    (d : Deployment) (cycle : Cycle) : Deployment :=
  let inventory := cycle.inventory (d.tables.within home environment)
  let tables := d.tables.serve home entityId environment (.discover cycle)
  { d with
    tables := tables
    controller := { d.controller with
      store := reload home environment tables d.controller.store
      storageProviders := storageProviders inventory } }

/-- The engine as it is before streams are put back. -/
def seeded (home : EntityId → String) (environment : String) (d : Deployment) : StateEngine :=
  Controller.seedStates
    ((registerBuiltinProbes .new).setObservationCutoff d.controller.store.resetAt)
    (loadEntityStates home environment d.states)

/-- The controller started on what is in the database. -/
def start (home : EntityId → String) (environment : String) (d : Deployment) (now : Timestamp)
    (clock : Observation → Timestamp) : Deployment :=
  let controller := Controller.start d.controller.store now clock
    (loadEntityStates home environment d.states) ManagedEntity.gpuMonitoring
  let transitions := (Controller.configureGpuMonitoring now ManagedEntity.gpuMonitoring
    (d.seeded home environment) d.controller.store.inventory.all).2
  { d with
    states :=
      if transitions.isEmpty then d.states else saveEntityStates d.states controller.engine.engine
    controller := controller }

/-- The monitoring state reset, while the controller is stopped. -/
def resetState (home : EntityId → String) (environment : String) (d : Deployment) (now : Timestamp) :
    Deployment :=
  { d with
    states := d.states.filter fun e _ => home e ≠ environment
    controller := { d.controller with store := d.controller.store.resetState now } }

/-- A new database. -/
def blank (home : EntityId → String) (environment : String) : Deployment where
  tables := ⟨∅, []⟩
  states := ∅
  controller :=
    { store := reload home environment ⟨∅, []⟩ ⟨[], .new, [], [], fun _ => [], none⟩
      engine := ⟨.new, fun _ => []⟩
      storageProviders := ∅ }

/-- The engine saved, and put together again by a controller that starts. -/
def restarted (home : EntityId → String) (environment : String) (d : Deployment) (now : Timestamp)
    (clock : Observation → Timestamp) : Deployment :=
  d.saveEngine.start home environment now clock

end Deployment

/-- What happens to a controller. -/
inductive DeploymentInput
  /-- An agent sends a batch. -/
  | batch (now : Timestamp) (clock : Observation → Timestamp) (batch : List Observation)
  /-- The controller records what it observed itself. -/
  | record (now : Timestamp) (clock : Observation → Timestamp) (observations : List Observation)
  /-- An agent registers. -/
  | register (now : Timestamp) (request : RegisterRequest)
  /-- A discovery cycle runs. -/
  | discover (cycle : Cycle)
  /-- Silent streams expire. -/
  | expire (now at_ : Timestamp) (horizon : StateStream → Duration)
  /-- The controller is started again. -/
  | restart (now : Timestamp) (clock : Observation → Timestamp)
  /-- The monitoring state is reset, and the controller started again. -/
  | reset (at_ now : Timestamp) (clock : Observation → Timestamp)

/-- A deployment after an input. -/
def Deployment.step (home : EntityId → String) (entityId : EntityKey → EntityId) (environment : String)
    (d : Deployment) : DeploymentInput → Deployment
  | .batch now clock batch =>
    d.recorded ((d.controller.ingestAgentBatch now clock batch).map Prod.fst)
  | .record now clock observations =>
    d.recorded ((d.controller.ingestObservationsRecorded now clock observations).map Prod.fst)
  | .register now request => d.register home entityId environment now request
  | .discover cycle => d.discover home entityId environment cycle
  | .expire now at_ horizon => d.recorded (some (d.controller.expire now at_ horizon))
  | .restart now clock => d.start home environment now clock
  | .reset at_ now clock => (d.resetState home environment at_).start home environment now clock

/-- Everything that happens to a controller, from a new database on.  Discovery is what
the providers report. -/
def deployment (home : EntityId → String) (entityId : EntityKey → EntityId) (environment : String) :
    Machine Deployment DeploymentInput where
  Init := fun d => ∃ now clock, d = (Deployment.blank home environment).start home environment now clock
  step := Deployment.step home entityId environment
  Allowed := fun _ input =>
    match input with
    | .discover cycle => ∀ snapshot ∈ cycle.snapshots, Provided entityId snapshot
    | _ => True

/-- What a restart should not change of an engine: its streams with their debouncers, the
disabled probes, the cutoff and the healths, and what it answers from then on. -/
structure StateEngine.Survives (engine rebuilt : StateEngine) : Prop where
  /-- The parts are the same. -/
  alike : engine.Alike rebuilt
  /-- The answers are the same. -/
  answers : ∀ calls : List EngineCall, (∀ call ∈ calls, call.Ordinary) →
    rebuilt.answers calls = engine.answers calls

/-! ### Configuring the GPU probe -/

namespace Controller

variable {now : Timestamp} {monitored : ManagedEntity → Option Bool}

/-- What flipping the GPU probe of an entity keeps, configuring keeps. -/
theorem configureGpuMonitoring_invariant {P : StateEngine → Prop}
    (hstep : ∀ engine e enabled, P engine → P (engine.setProbeEnabled now e probeGpu enabled).1)
    (entities : List ManagedEntity) :
    ∀ {engine : StateEngine}, P engine → P (configureGpuMonitoring now monitored engine entities).1 := by
  induction entities with
  | nil => intro engine h; exact h
  | cons entity entities ih =>
    intro engine h
    rw [configureGpuMonitoring]
    cases monitored entity with
    | none => exact ih h
    | some enabled => exact ih (hstep engine entity.id enabled h)

/-- **Which probes are disabled** once entities with different identifiers are
configured: what they say of themselves, and what was before. -/
theorem mem_disabled_configure (entities : List ManagedEntity)
    (hids : (entities.map ManagedEntity.id).Nodup) {k : EntityId × ProbeId} :
    ∀ {engine : StateEngine}, engine.mappings[probeGpu]?.isSome →
      (k ∈ (configureGpuMonitoring now monitored engine entities).1.disabled ↔
        (∃ entity ∈ entities, (entity.id, probeGpu) = k ∧ monitored entity = some false) ∨
        k ∈ engine.disabled ∧ ∀ entity ∈ entities, (entity.id, probeGpu) = k → monitored entity = none) := by
  induction entities with
  | nil => intro engine _; simp [configureGpuMonitoring]
  | cons entity entities ih =>
    intro engine hprobe
    rw [List.map_cons, List.nodup_cons] at hids
    rw [configureGpuMonitoring]
    simp only [List.mem_cons, exists_eq_or_imp, forall_eq_or_imp]
    cases hmonitored : monitored entity with
    | none =>
      rw [ih hids.2 hprobe]
      simp
    | some enabled =>
      obtain ⟨streams, states, disabled, hframe⟩ :=
        engine.setProbeEnabled_frame now entity.id probeGpu enabled
      refine (ih hids.2 (by rw [hframe]; exact hprobe)).trans ?_
      rw [StateEngine.mem_disabled_setProbeEnabled hprobe]
      by_cases hk : k = (entity.id, probeGpu)
      · -- no other entity has this identifier
        have hother : ∀ other ∈ entities, ¬ (other.id, probeGpu) = k := by
          intro other hother heq
          rw [hk] at heq
          exact hids.1 ((Prod.mk.inj heq).1 ▸ List.mem_map_of_mem hother)
        have hnone : ¬ ∃ other ∈ entities, (other.id, probeGpu) = k ∧ monitored other = some false := by
          rintro ⟨other, hmem, heq, -⟩
          exact hother other hmem heq
        rw [if_pos hk]
        cases enabled with
        | true => simp [hk.symm, hnone]
        | false =>
          simp only [hk.symm, true_and, hnone, false_or, or_false]
          exact iff_of_true (fun other hmem heq => absurd heq (hother other hmem)) (Or.inl trivial)
      · have hne : ¬ (entity.id, probeGpu) = k := fun h => hk h.symm
        rw [if_neg hk]
        simp [hne]

end Controller

/-! ### What is saved -/

/-- The streams and states in the database are those of some engine: streams with
different keys, of the built-in probes, and behind every component of an entity of the
environment. -/
structure Stored (home : EntityId → String) (environment : String) (streams : List StateStream)
    (rows : Std.ExtTreeMap EntityId EntityState) : Prop where
  /-- The keys are different. -/
  nodup : (streams.map StateStream.key).Nodup
  /-- The probes are known. -/
  registered : ∀ s ∈ streams, ∃ mapping : ProbeMapping,
    builtinMappings[s.probe]? = some mapping ∧ mapping.component = s.component
  /-- A component has a stream. -/
  backed : ∀ (e : EntityId) (row : EntityState), home e = environment → rows[e]? = some row →
    ∀ (c : StateComponent) (r : ComponentState), row.components[c]? = some r →
      ∃ s ∈ streams, s.entity = e ∧ s.component = c
  /-- The roll-ups are in order. -/
  overall : ∀ (e : EntityId) (row : EntityState), home e = environment → rows[e]? = some row →
    row.overall = row.rollup

namespace Stored

variable {home : EntityId → String} {environment : String} {streams : List StateStream}
  {rows : Std.ExtTreeMap EntityId EntityState} {engine : StateEngine}

theorem empty : Stored home environment [] ∅ where
  nodup := List.nodup_nil
  registered := fun s hs => by cases hs
  backed := fun e row _ hrow => by simp at hrow
  overall := fun e row _ hrow => by simp at hrow

/-- A component that had a saved stream has one in the engine. -/
theorem hasStream (h : Stored home environment streams rows) (hsettled : engine.Settled)
    (hmappings : engine.mappings = builtinMappings)
    (hlive : ∀ s ∈ streams, engine.streams[s.key]?.isSome) {s : StateStream} (hs : s ∈ streams) :
    engine.HasStream s.entity s.component := by
  obtain ⟨s', hs'⟩ := Option.isSome_iff_exists.mp (hlive s hs)
  have hkey : (s'.entity, s'.probe, s'.observer) = (s.entity, s.probe, s.observer) :=
    hsettled.keyed s.key s' hs'
  obtain ⟨hentity, hrest⟩ := Prod.mk.inj hkey
  obtain ⟨mapping, hmapping, hcomponent⟩ := h.registered s hs
  obtain ⟨mapping', hmapping', hcomponent'⟩ := hsettled.registered s.key s' hs'
  -- the probe informs one component
  rw [hmappings, (Prod.mk.inj hrest).1, hmapping] at hmapping'
  refine ⟨s.key, s', hs', hentity, ?_⟩
  rw [← hcomponent', ← Option.some.inj hmapping', hcomponent]

/-- The row of an entity of the environment is the state that is saved. -/
theorem saveEntityState_eq (h : Stored home environment streams rows) (hsettled : engine.Settled)
    (hmappings : engine.mappings = builtinMappings)
    (hlive : ∀ s ∈ streams, engine.streams[s.key]?.isSome) {e : EntityId} (hhome : home e = environment)
    {state : EntityState} (hstate : engine.states[e]? = some state) :
    saveEntityState rows[e]? state = state := by
  have hcomponents : ((rows[e]?.map EntityState.components).getD ∅) ∪ state.components =
      state.components := by
    refine Std.ExtTreeMap.ext_getElem? fun c => ?_
    rw [Std.ExtTreeMap.getElem?_union]
    cases hcomponent : state.components[c]? with
    | some r => rfl
    | none =>
      cases hrow : rows[e]? with
      | none => simp
      | some row =>
        rw [Option.map_some, Option.getD_some, Option.none_or]
        by_contra hne
        obtain ⟨r, hr⟩ := Option.ne_none_iff_exists'.mp hne
        obtain ⟨s, hs, rfl, rfl⟩ := h.backed e row hhome hrow c r hr
        obtain ⟨r', hr'⟩ := hsettled.recorded_of_stream _ _
          (h.hasStream hsettled hmappings hlive hs) (Set.notMem_empty _)
        rw [StateEngine.recorded, hstate, Option.bind_some, hcomponent] at hr'
        cases hr'
  rw [saveEntityState, hcomponents]

/-- **Saving a settled engine** leaves a database that is in order. -/
theorem save (h : Stored home environment streams rows) (hsettled : engine.Settled)
    (hmappings : engine.mappings = builtinMappings)
    (hlive : ∀ s ∈ streams, engine.streams[s.key]?.isSome) :
    Stored home environment engine.streams.vals (saveEntityStates rows engine) := by
  have hvals : ∀ {e : EntityId} {c : StateComponent}, engine.HasStream e c →
      ∃ s ∈ engine.streams.vals, s.entity = e ∧ s.component = c := by
    rintro e c ⟨k, s, hs, hentity, hcomponent⟩
    exact ⟨s, Std.ExtTreeMap.mem_vals.mpr ⟨k, hs⟩, hentity, hcomponent⟩
  refine ⟨hsettled.nodup_keys, fun s hs => ?_, fun e row hhome hrow c r hr => ?_, fun e row hhome hrow => ?_⟩
  · obtain ⟨k, hk⟩ := Std.ExtTreeMap.mem_vals.mp hs
    rw [← hmappings]
    exact hsettled.registered k s hk
  · rw [getElem?_saveEntityStates] at hrow
    cases hstate : engine.states[e]? with
    | none =>
      rw [hstate, Option.map_none, Option.none_or] at hrow
      obtain ⟨s, hs, rfl, rfl⟩ := h.backed e row hhome hrow c r hr
      exact hvals (h.hasStream hsettled hmappings hlive hs)
    | some state =>
      rw [hstate, Option.map_some, Option.some_or,
        h.saveEntityState_eq hsettled hmappings hlive hhome hstate] at hrow
      refine hvals (hsettled.stream_of_recorded e c r ?_)
      rw [StateEngine.recorded, hstate, Option.some.inj hrow]
      exact hr
  · rw [getElem?_saveEntityStates] at hrow
    cases hstate : engine.states[e]? with
    | none =>
      rw [hstate, Option.map_none, Option.none_or] at hrow
      exact h.overall e row hhome hrow
    | some state =>
      rw [hstate, Option.map_some, Option.some_or,
        h.saveEntityState_eq hsettled hmappings hlive hhome hstate] at hrow
      rw [← Option.some.inj hrow]
      exact hsettled.overall e state hstate

/-- Without streams of the environment, and without its states. -/
theorem reset (rows : Std.ExtTreeMap EntityId EntityState) :
    Stored home environment [] (rows.filter fun e _ => home e ≠ environment) := by
  have hnone : ∀ (e : EntityId) (row : EntityState), home e = environment →
      (rows.filter fun e _ => home e ≠ environment)[e]? ≠ some row := by
    intro e row hhome hrow
    rw [Std.ExtTreeMap.getElem?_filter', Option.filter_eq_some_iff] at hrow
    exact of_decide_eq_true hrow.2 hhome
  refine ⟨List.nodup_nil, fun s hs => ?_, fun e row hhome hrow => ?_, fun e row hhome hrow => ?_⟩
  · cases hs
  · exact absurd hrow (hnone e row hhome)
  · exact absurd hrow (hnone e row hhome)

/-- The states put back are backed by the streams. -/
theorem seeded (h : Stored home environment streams rows) (hstreams : engine.streams = ∅)
    (hstates : engine.states = ∅) :
    (Controller.seedStates engine (loadEntityStates home environment rows)).Seeded streams := by
  have hseed : ∀ (states : List EntityState) (engine : StateEngine), engine.streams = ∅ →
      (Controller.seedStates engine states).streams = ∅ ∧
      ∀ (e : EntityId) (state : EntityState), (Controller.seedStates engine states).states[e]? = some state →
        (state ∈ states ∧ state.entity = e) ∨ engine.states[e]? = some state := by
    intro states
    induction states with
    | nil => intro engine hnone; exact ⟨hnone, fun e state hstate => Or.inr hstate⟩
    | cons first states ih =>
      intro engine hnone
      obtain ⟨hstreams, hstates⟩ := ih { engine with states := engine.states.insert first.entity first } hnone
      refine ⟨hstreams, fun e state hstate => ?_⟩
      rcases hstates e state hstate with ⟨hmem, hentity⟩ | hbefore
      · exact Or.inl ⟨List.mem_cons_of_mem _ hmem, hentity⟩
      · rw [Std.ExtTreeMap.getElem?_insert_eq] at hbefore
        split at hbefore
        · next hentity =>
          rw [Option.some.inj hbefore] at hentity ⊢
          exact Or.inl ⟨List.mem_cons_self, hentity⟩
        · exact Or.inr hbefore
  obtain ⟨hnone, hloaded⟩ := hseed (loadEntityStates home environment rows) engine hstreams
  have hrow : ∀ (e : EntityId) (state : EntityState),
      (Controller.seedStates engine (loadEntityStates home environment rows)).states[e]? = some state →
      home e = environment ∧ ∃ row : EntityState, rows[e]? = some row ∧
        row.components = state.components ∧ row.overall = state.overall := by
    intro e state hstate
    rcases hloaded e state hstate with ⟨hmem, rfl⟩ | hbefore
    · exact mem_loadEntityStates hmem
    · rw [hstates] at hbefore
      simp at hbefore
  refine ⟨hnone, fun e c r hr => ?_, fun e state hstate => ?_⟩
  · obtain ⟨state, hstate, hcomponent⟩ := Option.bind_eq_some_iff.mp hr
    obtain ⟨hhome, row, hrow, hcomponents, -⟩ := hrow e state hstate
    exact h.backed e row hhome hrow c r (hcomponents ▸ hcomponent)
  · obtain ⟨hhome, row, hrow, hcomponents, hoverall⟩ := hrow e state hstate
    rw [← hoverall, h.overall e row hhome hrow, EntityState.rollup, EntityState.rollup, hcomponents]

end Stored

/-! ### Starting -/

namespace TracedEngine

variable {clock : Observation → Timestamp}

/-- What folding one observation in keeps, folding many in keeps. -/
theorem ingestAll_invariant {P : StateEngine → Prop}
    (hstep : ∀ engine now o, P engine → P (StateEngine.ingest engine now o).1)
    (observations : List Observation) :
    ∀ {traced : TracedEngine}, P traced.engine → P (traced.ingestAll clock observations).engine := by
  induction observations with
  | nil => intro traced h; exact h
  | cons o observations ih =>
    intro traced h
    have hnext : P (traced.ingest (clock o) o).engine := hstep traced.engine (clock o) o h
    exact ih hnext

/-- Folding observations in keeps what probes mean, which are disabled, and the cutoff. -/
theorem ingestAll_frame (traced : TracedEngine) (clock : Observation → Timestamp)
    (observations : List Observation) :
    let after := (traced.ingestAll clock observations).engine
    after.mappings = traced.engine.mappings ∧ after.disabled = traced.engine.disabled ∧
      after.observationCutoff = traced.engine.observationCutoff := by
  refine ingestAll_invariant (P := fun engine => engine.mappings = traced.engine.mappings ∧
    engine.disabled = traced.engine.disabled ∧
    engine.observationCutoff = traced.engine.observationCutoff) ?_ observations ⟨rfl, rfl, rfl⟩
  intro engine now o h
  obtain ⟨streams, states, hframe⟩ := engine.ingest_frame now o
  rw [hframe]
  exact h

/-- **An engine without streams stays without them** exactly if the gate is closed to
everything that comes in. -/
theorem streams_ingestAll_eq_empty_iff (observations : List Observation) :
    ∀ {traced : TracedEngine}, traced.engine.streams = ∅ →
      ((traced.ingestAll clock observations).engine.streams = ∅ ↔
        ∀ o ∈ observations, traced.engine.gate (clock o) o = none) := by
  induction observations with
  | nil => intro traced hnone; simpa [ingestAll] using hnone
  | cons o observations ih =>
    intro traced hnone
    rw [List.forall_mem_cons]
    change ((traced.ingest (clock o) o).ingestAll clock observations).engine.streams = ∅ ↔ _
    have hadmits : traced.engine.admits (clock o) o = traced.engine.gate (clock o) o := by
      rw [StateEngine.admits, hnone]
      cases traced.engine.gate (clock o) o <;> simp
    cases hgate : traced.engine.gate (clock o) o with
    | none =>
      have hsame : (traced.ingest (clock o) o).engine = traced.engine := by
        change (traced.engine.ingest (clock o) o).1 = _
        rw [StateEngine.ingest, hadmits, hgate]
      rw [ih (by rw [hsame]; exact hnone), hsame]
      simp
    | some mapping =>
      refine iff_of_false (fun hempty => ?_) (fun h => by cases h.1)
      -- the stream of the observation is there from then on
      have hstream : (traced.ingest (clock o) o).engine.streams[o.streamKey]?.isSome := by
        change (traced.engine.ingest (clock o) o).1.streams[o.streamKey]?.isSome
        rw [StateEngine.ingest_streams_of_admits (hadmits.trans hgate), if_pos rfl]
        rfl
      have hkept : ((traced.ingest (clock o) o).ingestAll clock
          observations).engine.streams[o.streamKey]?.isSome :=
        ingestAll_invariant (P := fun engine => engine.streams[o.streamKey]?.isSome)
          (fun engine now o' h => StateEngine.isSome_streams_run (.ingest now o') h) observations hstream
      rw [hempty] at hkept
      simp at hkept

end TracedEngine

namespace Deployment

variable {home : EntityId → String} {environment : String} {d : Deployment} {now : Timestamp}
  {clock : Observation → Timestamp}

/-- The engine once the GPU probes are configured, before streams are put back. -/
def configured (home : EntityId → String) (environment : String) (d : Deployment) (now : Timestamp) :
    StateEngine :=
  (Controller.configureGpuMonitoring now ManagedEntity.gpuMonitoring (d.seeded home environment)
    d.controller.store.inventory.all).1

/-- The newest stored observations, from which a controller without streams starts. -/
def newest (d : Deployment) (now : Timestamp) : List Observation :=
  d.controller.store.inventory.all.flatMap fun entity =>
    d.controller.store.latestObservationsSince now entity.id d.controller.store.resetAt

theorem engine_start (d : Deployment) (now : Timestamp) (clock : Observation → Timestamp) :
    (d.start home environment now clock).engine =
      if d.controller.store.streams.isEmpty then
        (TracedEngine.ingestAll clock ⟨d.configured home environment now, d.controller.store.folded⟩
          (d.newest now)).engine
      else (d.configured home environment now).seedStreams now d.controller.store.streams := by
  change (Controller.start _ _ _ _ _).engine.engine = _
  rw [Controller.start]
  dsimp only
  split <;> rfl

/-- The engine before its streams are put back. -/
theorem configured_spec (h : Stored home environment d.controller.store.streams d.states)
    (now : Timestamp) :
    (d.configured home environment now).Seeded d.controller.store.streams ∧
    (d.configured home environment now).mappings = builtinMappings ∧
    (d.configured home environment now).observationCutoff = d.controller.store.resetAt ∧
    ∀ k, k ∈ (d.configured home environment now).disabled ↔
      ∃ entity ∈ d.controller.store.inventory.all, (entity.id, probeGpu) = k ∧
        entity.gpuMonitoring = some false := by
  have hseed : ∀ (states : List EntityState) (engine : StateEngine),
      (Controller.seedStates engine states).mappings = engine.mappings ∧
      (Controller.seedStates engine states).disabled = engine.disabled ∧
      (Controller.seedStates engine states).observationCutoff = engine.observationCutoff := by
    intro states
    induction states with
    | nil => intro engine; exact ⟨rfl, rfl, rfl⟩
    | cons state states ih => intro engine; exact ih _
  obtain ⟨hmappings, hdisabled, hcutoff⟩ := hseed (loadEntityStates home environment d.states)
    ((registerBuiltinProbes .new).setObservationCutoff d.controller.store.resetAt)
  have hmappings' : (d.seeded home environment).mappings = builtinMappings :=
    hmappings.trans (congrArg StateEngine.mappings registerBuiltinProbes_new)
  have hframe : (d.configured home environment now).mappings = builtinMappings ∧
      (d.configured home environment now).observationCutoff = d.controller.store.resetAt := by
    refine Controller.configureGpuMonitoring_invariant (P := fun engine =>
      engine.mappings = builtinMappings ∧ engine.observationCutoff = d.controller.store.resetAt) ?_ _
      ⟨hmappings', hcutoff⟩
    intro engine e enabled h
    obtain ⟨streams, states, disabled, hframe⟩ := engine.setProbeEnabled_frame now e probeGpu enabled
    rw [hframe]
    exact h
  refine ⟨?_, hframe.1, hframe.2, fun k => ?_⟩
  · refine Controller.configureGpuMonitoring_invariant (P := StateEngine.Seeded _) ?_ _ (h.seeded ?_ ?_)
    · intro engine e enabled hseeded
      exact hseeded.setProbeEnabled now e probeGpu enabled
    · rw [registerBuiltinProbes_new]
      rfl
    · rw [registerBuiltinProbes_new]
      rfl
  · have hprobe : (d.seeded home environment).mappings[probeGpu]?.isSome := by
      rw [hmappings']
      decide +kernel
    rw [configured, Controller.mem_disabled_configure _ (Inventory.nodup_ids _) hprobe]
    refine or_iff_left fun hbefore => ?_
    rw [seeded, hdisabled, registerBuiltinProbes_new] at hbefore
    have hempty : k ∈ (∅ : Std.ExtTreeSet (EntityId × ProbeId)) := hbefore.1
    simp at hempty

/-- Without streams, what is configured is settled. -/
theorem settled_of_seeded {engine : StateEngine} (h : engine.Seeded []) : engine.Settled := by
  have hsettled := h.settled List.nodup_nil (fun s hs => by cases hs) 0
  exact hsettled

/-! ### The invariant -/

variable {kind : EntityId → EntityType} {entityId : EntityKey → EntityId}

/-- What is stored of the environment's entities: their kinds are those of their
identifiers, and a registration said whether it is monitored. -/
structure Catalogued (home : EntityId → String) (kind : EntityId → EntityType) (environment : String)
    (d : Deployment) : Prop where
  /-- The store reads the tables. -/
  inventory : d.controller.store.inventory = (d.tables.within home environment).loadInventory
  /-- The kinds. -/
  kinds : ∀ e, home e = environment →
    ManagedEntity.OfKind kind e (d.controller.store.inventory.get e)
  /-- The flags are explicit. -/
  flagged : ∀ e, home e = environment → said (d.controller.store.inventory.get e) ≠ some none

/-- What ties the engine to the database. -/
structure Sound (home : EntityId → String) (kind : EntityId → EntityType) (environment : String)
    (d : Deployment) : Prop where
  /-- The inventory. -/
  catalogued : d.Catalogued home kind environment
  /-- What is saved. -/
  stored : Stored home environment d.controller.store.streams d.states
  /-- A stream that is saved is there. -/
  live : ∀ s ∈ d.controller.store.streams, d.engine.streams[s.key]?.isSome
  /-- The records are up to date. -/
  settled : d.engine.Settled
  /-- The built-in probes mean what they mean. -/
  mappings : d.engine.mappings = builtinMappings
  /-- The cutoff is the stored one. -/
  cutoff : d.engine.observationCutoff = d.controller.store.resetAt
  /-- No other probe is ever disabled. -/
  probes : ∀ k ∈ d.engine.disabled, k.2 = probeGpu
  /-- The hosts of the environment that said they have no accelerator. -/
  disabled : ∀ e, home e = environment → ((e, probeGpu) ∈ d.engine.disabled ↔
    kind e = .host ∧ said (d.controller.store.inventory.get e) = some (some false))

theorem get_of_foreign {tables : Tables} {e : EntityId} (h : home e ≠ environment) :
    (tables.within home environment).loadInventory.get e = none := by
  rw [Tables.get_loadInventory, Tables.getElem?_within, if_neg h]
  rfl

/-- The hosts without an accelerator, as the inventory has them. -/
theorem Catalogued.unmonitored (h : d.Catalogued home kind environment) (e : EntityId) :
    (∃ entity ∈ d.controller.store.inventory.all, (entity.id, probeGpu) = (e, probeGpu) ∧
      entity.gpuMonitoring = some false) ↔
    home e = environment ∧ kind e = .host ∧
      said (d.controller.store.inventory.get e) = some (some false) := by
  have hmem : ∀ entity : ManagedEntity, entity ∈ d.controller.store.inventory.all ∧ entity.id = e ↔
      d.controller.store.inventory.get e = some entity := by
    intro entity
    rw [← Option.mem_toList, ← Tables.filter_all, List.mem_filter, decide_eq_true_iff]
  by_cases hhome : home e = environment
  · have hmonitoring : ∀ entity, d.controller.store.inventory.get e = some entity →
        (entity.gpuMonitoring = some false ↔ kind e = .host ∧ said (some entity) = some (some false)) := by
      intro entity hentity
      have hflagged := h.flagged e hhome
      rw [hentity] at hflagged
      rw [gpuMonitoring_eq_some_iff hflagged, h.kinds e hhome entity hentity]
    constructor
    · rintro ⟨entity, hentity, hid, hfalse⟩
      have hget := (hmem entity).mp ⟨hentity, (Prod.mk.inj hid).1⟩
      rw [hget]
      exact ⟨hhome, (hmonitoring entity hget).mp hfalse⟩
    · rintro ⟨-, hhost, hsaid⟩
      cases hget : d.controller.store.inventory.get e with
      | none =>
        rw [hget] at hsaid
        cases hsaid
      | some entity =>
        obtain ⟨hentity, hid⟩ := (hmem entity).mpr hget
        rw [hget] at hsaid
        exact ⟨entity, hentity, by rw [hid], (hmonitoring entity hget).mpr ⟨hhost, hsaid⟩⟩
  · refine iff_of_false ?_ fun hall => hhome hall.1
    rintro ⟨entity, hentity, hid, -⟩
    have hget := (hmem entity).mp ⟨hentity, (Prod.mk.inj hid).1⟩
    rw [h.inventory, get_of_foreign hhome] at hget
    cases hget

/-- The streams an engine saves are its streams. -/
theorem isSome_of_mem_vals {engine : StateEngine} (h : engine.Settled) :
    ∀ s ∈ engine.streams.vals, engine.streams[s.key]?.isSome := by
  intro s hs
  obtain ⟨k, hk⟩ := Std.ExtTreeMap.mem_vals.mp hs
  rw [h.keyed k s hk, hk]
  rfl

/-- Whether the engine is saved or not, the database stays in order. -/
theorem stored_ite {engine : TracedEngine} {store : Store} {rows : Std.ExtTreeMap EntityId EntityState}
    (skip : Bool) (h : Stored home environment store.streams rows) (hsettled : engine.engine.Settled)
    (hmappings : engine.engine.mappings = builtinMappings)
    (hlive : ∀ s ∈ store.streams, engine.engine.streams[s.key]?.isSome) :
    let store' := if skip then store else store.saveEngine engine
    Stored home environment store'.streams (if skip then rows else saveEntityStates rows engine.engine) ∧
      ∀ s ∈ store'.streams, engine.engine.streams[s.key]?.isSome := by
  cases skip with
  | true => exact ⟨h, hlive⟩
  | false => exact ⟨h.save hsettled hmappings hlive, isSome_of_mem_vals hsettled⟩

/-- The engine a controller starts with, on a database in order. -/
theorem start_spec (hstored : Stored home environment d.controller.store.streams d.states)
    (now : Timestamp) (clock : Observation → Timestamp) :
    let after := (d.start home environment now clock).engine
    after.Settled ∧ after.mappings = builtinMappings ∧
      after.observationCutoff = d.controller.store.resetAt ∧
      after.disabled = (d.configured home environment now).disabled ∧
      ∀ s ∈ d.controller.store.streams, after.streams[s.key]?.isSome := by
  intro after
  obtain ⟨hseeded, hmappings, hcutoff, -⟩ := configured_spec hstored now
  have hengine : after = _ := d.engine_start now clock
  rw [hengine]
  split
  · next hempty =>
    rw [List.isEmpty_iff] at hempty
    rw [hempty] at hseeded ⊢
    obtain ⟨hmappings', hdisabled', hcutoff'⟩ := TracedEngine.ingestAll_frame
      ⟨d.configured home environment now, d.controller.store.folded⟩ clock (d.newest now)
    refine ⟨?_, hmappings'.trans hmappings, hcutoff'.trans hcutoff, hdisabled', fun s hs => by cases hs⟩
    exact TracedEngine.ingestAll_invariant (P := StateEngine.Settled)
      (fun engine now o h => h.ingest now o) _ (settled_of_seeded hseeded)
  · obtain ⟨hstreams, hmappings', hdisabled', hcutoff'⟩ := StateEngine.seedStreams_frame
      d.controller.store.streams now (d.configured home environment now)
    refine ⟨?_, hmappings'.trans hmappings, hcutoff'.trans hcutoff, hdisabled', fun s hs => ?_⟩
    · exact hseeded.settled hstored.nodup (by rw [hmappings]; exact hstored.registered) now
    · rw [hstreams, (StateEngine.putStreams_streams_iff hseeded.none hstored.nodup).mpr ⟨hs, rfl⟩]
      rfl

/-- **A controller that starts** on a database in order. -/
theorem Sound.start (hcatalogued : d.Catalogued home kind environment)
    (hstored : Stored home environment d.controller.store.streams d.states) (now : Timestamp)
    (clock : Observation → Timestamp) :
    (d.start home environment now clock).Sound home kind environment := by
  obtain ⟨-, -, -, hdisabled⟩ := configured_spec hstored now
  obtain ⟨hsettled, hmappings, hcutoff, hconfigured, hlive⟩ := start_spec hstored now clock
  set after := d.start home environment now clock with hafter
  have hstore : after.controller.store.inventory = d.controller.store.inventory ∧
      after.controller.store.resetAt = d.controller.store.resetAt := by
    rw [hafter, Deployment.start, Controller.start]
    dsimp only
    split <;> exact ⟨rfl, rfl⟩
  have hsaved := stored_ite (Controller.configureGpuMonitoring now ManagedEntity.gpuMonitoring
    (d.seeded home environment) d.controller.store.inventory.all).2.isEmpty
    hstored hsettled hmappings hlive
  refine ⟨⟨?_, ?_, ?_⟩, hsaved.1, hsaved.2, hsettled, hmappings, ?_, fun k hk => ?_, fun e he => ?_⟩
  · rw [hstore.1]
    exact hcatalogued.inventory
  · rw [hstore.1]
    exact hcatalogued.kinds
  · rw [hstore.1]
    exact hcatalogued.flagged
  · rw [hcutoff, hstore.2]
  · rw [hconfigured, hdisabled] at hk
    obtain ⟨entity, -, rfl, -⟩ := hk
    rfl
  · rw [hconfigured, hdisabled, hcatalogued.unmonitored, hstore.1]
    exact and_iff_right he

/-- The engine changes and is saved: the streams are not lost, and what probes mean, which
are disabled and the cutoff stay. -/
theorem Sound.saved (h : d.Sound home kind environment) (engine : TracedEngine) (store : Store)
    (hinventory : store.inventory = d.controller.store.inventory)
    (hresetAt : store.resetAt = d.controller.store.resetAt) (hsettled : engine.engine.Settled)
    (hmappings : engine.engine.mappings = d.engine.mappings)
    (hdisabled : engine.engine.disabled = d.engine.disabled)
    (hcutoff : engine.engine.observationCutoff = d.engine.observationCutoff)
    (hstreams : ∀ k : StreamKey, d.engine.streams[k]?.isSome → engine.engine.streams[k]?.isSome)
    (providers : Std.ExtTreeMap EntityId (List EntityId)) :
    Sound home kind environment
      { d with
        states := saveEntityStates d.states engine.engine
        controller := ⟨store.saveEngine engine, engine, providers⟩ } where
  catalogued := by
    refine ⟨?_, ?_, ?_⟩
    · exact hinventory.trans h.catalogued.inventory
    · exact (hinventory ▸ h.catalogued.kinds : _)
    · exact (hinventory ▸ h.catalogued.flagged : _)
  stored := h.stored.save hsettled (hmappings.trans h.mappings) fun s hs => hstreams s.key (h.live s hs)
  live := isSome_of_mem_vals hsettled
  settled := hsettled
  mappings := hmappings.trans h.mappings
  cutoff := hcutoff.trans (h.cutoff.trans hresetAt.symm)
  probes := fun k hk => h.probes k (hdisabled ▸ hk)
  disabled := fun e he => by
    change (e, probeGpu) ∈ engine.engine.disabled ↔ _ ∧ said (store.inventory.get e) = _
    rw [hdisabled, hinventory]
    exact h.disabled e he

/-! ### Steps -/

/-- Observations are recorded, unless the schema refuses them. -/
theorem Sound.record (h : d.Sound home kind environment) (now : Timestamp)
    (clock : Observation → Timestamp) (observations : List Observation) :
    (d.recorded ((d.controller.ingestObservationsRecorded now clock observations).map
      Prod.fst)).Sound home kind environment := by
  rw [d.controller.ingestObservationsRecorded_eq now clock observations]
  split
  · exact h
  · generalize d.controller.store.foldedIn now d.controller.storageProviders observations = folded
    obtain ⟨hmappings, hdisabled, hcutoff⟩ := d.controller.engine.ingestAll_frame clock folded
    refine h.saved _ (d.controller.store.added now (d.controller.store.fresh observations))
      rfl rfl ?_ hmappings hdisabled hcutoff (fun k hk => ?_) d.controller.storageProviders
    · exact TracedEngine.ingestAll_invariant (P := StateEngine.Settled)
        (fun engine now o h => h.ingest now o) folded h.settled
    · exact TracedEngine.ingestAll_invariant (P := fun engine => engine.streams[k]?.isSome)
        (fun engine now o h => StateEngine.isSome_streams_run (.ingest now o) h) folded hk

/-- A batch is what of it is accepted. -/
theorem map_fst_ingestAgentBatch (controller : Controller) (now : Timestamp)
    (clock : Observation → Timestamp) (batch : List Observation) :
    (controller.ingestAgentBatch now clock batch).map Prod.fst =
      (controller.ingestObservationsRecorded now clock (batch.partition controller.knows).1).map
        Prod.fst := by
  rw [Controller.ingestAgentBatch]
  obtain ⟨accepted, rejected⟩ := batch.partition controller.knows
  dsimp only
  cases controller.ingestObservationsRecorded now clock accepted <;> rfl

theorem Sound.expire (h : d.Sound home kind environment) (now at_ : Timestamp)
    (horizon : StateStream → Duration) :
    (d.recorded (some (d.controller.expire now at_ horizon))).Sound home kind environment := by
  obtain ⟨streams, states, hframe⟩ := d.engine.expire_frame now at_ horizon
  refine h.saved ⟨(d.engine.expire now at_ horizon).1, d.controller.engine.folded⟩
    d.controller.store rfl rfl (h.settled.expire now at_ horizon) ?_ ?_ ?_ (fun k hk => ?_)
    d.controller.storageProviders
  · rw [hframe]
  · rw [hframe]
  · rw [hframe]
  · exact StateEngine.isSome_streams_run (.expire now at_ horizon) hk

theorem Sound.discover (h : d.Sound home kind environment) {cycle : Cycle}
    (hcycle : ∀ snapshot ∈ cycle.snapshots, snapshot.Plain kind) :
    (d.discover home entityId environment cycle).Sound home kind environment := by
  have hsaid : ∀ e, home e = environment →
      said ((d.discover home entityId environment cycle).controller.store.inventory.get e) =
        said (d.controller.store.inventory.get e) ∧
      ManagedEntity.OfKind kind e
        ((d.discover home entityId environment cycle).controller.store.inventory.get e) := by
    intro e he
    have hkinds := h.catalogued.kinds e he
    rw [h.catalogued.inventory] at hkinds ⊢
    exact Tables.said_discover entityId he hkinds hcycle
  refine ⟨⟨rfl, fun e he => (hsaid e he).2, fun e he => ?_⟩, h.stored, h.live, h.settled, h.mappings,
    h.cutoff, h.probes, fun e he => ?_⟩
  · rw [(hsaid e he).1]
    exact h.catalogued.flagged e he
  · rw [(hsaid e he).1]
    exact h.disabled e he

/-- An agent registers: its host's GPU probe is what the registration says, in the engine
and in the inventory. -/
theorem Sound.register (h : d.Sound home kind environment) (now : Timestamp) {request : RegisterRequest}
    (hhost : kind (entityId ⟨request.environment, .host, request.hostname⟩) = .host) :
    (d.register home entityId environment now request).Sound home kind environment := by
  set id := entityId ⟨request.environment, .host, request.hostname⟩ with hid
  set flag := request.capabilities.contains ⟨"gpu.nvidia"⟩ with hflag
  set after := d.register home entityId environment now request with hafter
  have hprobe : d.engine.mappings[probeGpu]?.isSome := by
    rw [h.mappings]
    decide +kernel
  -- one entity is configured
  have hengine : after.engine = (d.engine.setProbeEnabled now id probeGpu flag).1 := rfl
  obtain ⟨streams, states, disabled, hframe⟩ := d.engine.setProbeEnabled_frame now id probeGpu flag
  have hsettled : after.engine.Settled := hengine ▸ h.settled.setProbeEnabled now id probeGpu flag
  have hmappings : after.engine.mappings = builtinMappings := by
    rw [hengine, hframe]
    exact h.mappings
  have hlive : ∀ s ∈ d.controller.store.streams, after.engine.streams[s.key]?.isSome := fun s hs =>
    hengine ▸ StateEngine.isSome_streams_run (.setProbeEnabled now id probeGpu flag) (h.live s hs)
  have hdisabled : ∀ k, k ∈ after.engine.disabled ↔
      if k = (id, probeGpu) then flag = false else k ∈ d.engine.disabled := by
    intro k
    rw [hengine]
    exact StateEngine.mem_disabled_setProbeEnabled hprobe
  have hstore : after.controller.store.inventory =
      ((d.tables.serve home entityId environment (.register request)).within home environment).loadInventory ∧
      after.controller.store.resetAt = d.controller.store.resetAt := by
    rw [hafter, Deployment.register, Controller.ingestSnapshot]
    dsimp only
    split <;> exact ⟨rfl, rfl⟩
  have hsaid : ∀ e, home e = environment →
      said (after.controller.store.inventory.get e) =
        (if id = e then some (some flag) else said (d.controller.store.inventory.get e)) ∧
      ManagedEntity.OfKind kind e (after.controller.store.inventory.get e) := by
    intro e he
    have hkinds := h.catalogued.kinds e he
    rw [h.catalogued.inventory] at hkinds ⊢
    rw [hstore.1]
    exact Tables.said_register he hkinds hhost
  have hsaved := @stored_ite home environment after.controller.engine
    (reload home environment after.tables d.controller.store) d.states
    (Controller.configureGpuMonitoring now ManagedEntity.gpuMonitoring d.engine
      (snapshotFromRegistration entityId request).entities).2.isEmpty h.stored hsettled hmappings hlive
  refine ⟨⟨hstore.1, fun e he => (hsaid e he).2, fun e he => ?_⟩, hsaved.1, hsaved.2, hsettled, hmappings,
    ?_, fun k hk => ?_, fun e he => ?_⟩
  · rw [(hsaid e he).1]
    split
    · exact fun heq => by cases heq
    · exact h.catalogued.flagged e he
  · rw [hstore.2, hengine, hframe]
    exact h.cutoff
  · rw [hdisabled] at hk
    split at hk
    · next heq => rw [heq]
    · exact h.probes k hk
  · rw [hdisabled, (hsaid e he).1]
    by_cases heq : id = e
    · subst heq
      simp [hhost]
    · rw [if_neg heq, if_neg fun hk => heq (Prod.mk.inj hk).1.symm]
      exact h.disabled e he

/-- The monitoring state is reset, and the controller started again. -/
theorem Sound.reset (h : d.Sound home kind environment) (at_ now : Timestamp)
    (clock : Observation → Timestamp) :
    ((d.resetState home environment at_).start home environment now clock).Sound home kind environment := by
  have hcatalogued : (d.resetState home environment at_).Catalogued home kind environment :=
    ⟨h.catalogued.inventory, h.catalogued.kinds, h.catalogued.flagged⟩
  exact Sound.start hcatalogued (Stored.reset d.states) now clock

/-- **Every input keeps the invariant.** -/
theorem Sound.step (hkind : ∀ key, kind (entityId key) = key.entityType)
    (h : d.Sound home kind environment) {input : DeploymentInput}
    (hinput : (deployment home entityId environment).Allowed d input) :
    (d.step home entityId environment input).Sound home kind environment := by
  cases input with
  | batch now clock batch =>
    rw [Deployment.step, map_fst_ingestAgentBatch]
    exact h.record now clock _
  | record now clock observations => exact h.record now clock observations
  | register now request => exact h.register now (hkind ⟨request.environment, .host, request.hostname⟩)
  | discover cycle => exact h.discover fun snapshot hsnapshot => (hinput snapshot hsnapshot).plain hkind
  | expire now at_ horizon => exact h.expire now at_ horizon
  | restart now clock => exact Sound.start h.catalogued h.stored now clock
  | reset at_ now clock => exact h.reset at_ now clock

/-- A new database is in order. -/
theorem sound_blank (now : Timestamp) (clock : Observation → Timestamp) :
    ((blank home environment).start home environment now clock).Sound home kind environment := by
  have hget : ∀ e, (blank home environment).controller.store.inventory.get e = none := by
    intro e
    change ((Tables.within home ⟨∅, []⟩ environment).loadInventory).get e = none
    rw [Tables.get_loadInventory, Tables.getElem?_within]
    simp
  refine Sound.start ⟨rfl, fun e _ known hknown => ?_, fun e _ => ?_⟩ Stored.empty now clock
  · rw [hget] at hknown
    cases hknown
  · rw [hget]
    exact fun h => by cases h

/-- **The engine is tied to the database** after every run. -/
theorem Sound.run (hkind : ∀ key, kind (entityId key) = key.entityType) {log : List DeploymentInput}
    (h : (deployment home entityId environment).Run log d) : d.Sound home kind environment := by
  refine h.invariant (P := fun _ d => d.Sound home kind environment) ?_ ?_
  · rintro d ⟨now, clock, rfl⟩
    exact sound_blank now clock
  · intro log d input _ hsound hinput
    exact hsound.step hkind hinput

/-! ### Surviving a restart -/

/-- Saving the engine keeps the invariant. -/
theorem Sound.saveEngine (h : d.Sound home kind environment) : d.saveEngine.Sound home kind environment :=
  h.saved d.controller.engine d.controller.store rfl rfl h.settled rfl rfl rfl
    (fun _ hk => hk) d.controller.storageProviders

/-- The streams of an engine put together again: its own, or what the newest observations
make. -/
theorem Sound.streams_restarted_iff (h : d.Sound home kind environment) (now : Timestamp)
    (clock : Observation → Timestamp) :
    (d.restarted home environment now clock).engine.streams = d.engine.streams ↔
      d.engine.streams ≠ ∅ ∨ ∀ o ∈ d.newest now,
        (d.saveEngine.configured home environment now).gate (clock o) o = none := by
  obtain ⟨hseeded, -, -, -⟩ := configured_spec h.saveEngine.stored now
  have hvals : d.saveEngine.controller.store.streams = d.engine.streams.vals := rfl
  have hempty : d.engine.streams = ∅ ↔ d.engine.streams.vals.isEmpty = true := by
    rw [List.isEmpty_iff, List.eq_nil_iff_forall_not_mem]
    constructor
    · intro hnone s hs
      obtain ⟨k, hk⟩ := Std.ExtTreeMap.mem_vals.mp hs
      rw [hnone] at hk
      simp at hk
    · intro hnone
      refine Std.ExtTreeMap.ext_getElem? fun k => ?_
      rw [Std.ExtTreeMap.getElem?_empty]
      by_contra hne
      obtain ⟨s, hs⟩ := Option.ne_none_iff_exists'.mp hne
      exact hnone s (Std.ExtTreeMap.mem_vals.mpr ⟨k, hs⟩)
  rw [restarted, engine_start, hvals]
  by_cases hstreams : d.engine.streams = ∅
  · rw [if_pos (hempty.mp hstreams), hstreams]
    refine (TracedEngine.streams_ingestAll_eq_empty_iff _ hseeded.none).trans ?_
    exact (or_iff_right fun hne => hne rfl).symm
  · rw [if_neg fun hvals => hstreams (hempty.mpr hvals), (StateEngine.seedStreams_frame _ _ _).1]
    exact iff_of_true (h.settled.putStreams_vals hseeded.none) (Or.inl hstreams)

/-- The disabled probes come back from the inventory, which is the environment's. -/
theorem Sound.disabled_restarted_iff (h : d.Sound home kind environment) (now : Timestamp) :
    (d.saveEngine.configured home environment now).disabled = d.engine.disabled ↔
      ∀ k ∈ d.engine.disabled, home k.1 = environment := by
  obtain ⟨-, -, -, hdisabled⟩ := configured_spec h.saveEngine.stored now
  have hconfigured : ∀ e, (e, probeGpu) ∈ (d.saveEngine.configured home environment now).disabled ↔
      home e = environment ∧ (e, probeGpu) ∈ d.engine.disabled := by
    intro e
    rw [hdisabled, h.saveEngine.catalogued.unmonitored]
    exact and_congr_right fun he => (h.disabled e he).symm
  constructor
  · intro heq k hk
    obtain ⟨e, p⟩ := k
    obtain rfl : p = probeGpu := h.probes _ hk
    rw [← heq] at hk
    exact ((hconfigured e).mp hk).1
  · intro hhome
    refine Std.ExtTreeSet.ext_mem fun k => ?_
    obtain ⟨e, p⟩ := k
    constructor
    · intro hk
      obtain ⟨entity, -, heq, -⟩ := (hdisabled (e, p)).mp hk
      rw [← (Prod.mk.inj heq).2] at hk ⊢
      exact ((hconfigured e).mp hk).2
    · intro hk
      obtain rfl : p = probeGpu := h.probes _ hk
      exact (hconfigured e).mpr ⟨hhome _ hk, hk⟩

/-- The gate looks at what a restart keeps. -/
theorem gate_congr {engine engine' : StateEngine} (hmappings : engine'.mappings = engine.mappings)
    (hdisabled : engine'.disabled = engine.disabled)
    (hcutoff : engine'.observationCutoff = engine.observationCutoff) :
    engine'.gate = engine.gate := by
  funext now o
  rw [StateEngine.gate, StateEngine.gate, StateEngine.probeEnabled, StateEngine.probeEnabled, hmappings,
    hdisabled, hcutoff]

/-- **When an engine survives a restart.**  In every run, whatever agents register and
send and however often the controller is started again: saving the engine and starting the
controller gives an engine with the same streams, disabled probes, cutoff and healths,
which answers alike from then on, if and only if no probe is disabled of an entity of
another environment, and the engine has streams or its gate is closed to the newest stored
observations. -/
theorem survives_restart_iff
    (htypes : ∀ key key', entityId key = entityId key' → key.entityType = key'.entityType)
    {log : List DeploymentInput} (h : (deployment home entityId environment).Run log d)
    (now : Timestamp) (clock : Observation → Timestamp) :
    d.engine.Survives (d.restarted home environment now clock).engine ↔
      (∀ k ∈ d.engine.disabled, home k.1 = environment) ∧
      (d.engine.streams ≠ ∅ ∨ ∀ o ∈ d.newest now, d.engine.gate (clock o) o = none) := by
  classical
  -- the type an identifier was derived from
  let kind : EntityId → EntityType := fun id =>
    if hkey : ∃ key, entityId key = id then hkey.choose.entityType else .host
  have hkind : ∀ key, kind (entityId key) = key.entityType := by
    intro key
    have hkey : ∃ key', entityId key' = entityId key := ⟨key, rfl⟩
    change dite _ _ _ = _
    rw [dif_pos hkey]
    exact htypes _ _ hkey.choose_spec
  have hsound : d.Sound home kind environment := Sound.run hkind h
  obtain ⟨-, hmappings, hcutoff, -⟩ := configured_spec hsound.saveEngine.stored now
  obtain ⟨hsettled, hmappings', hcutoff', hdisabled', -⟩ := start_spec hsound.saveEngine.stored now clock
  have hgate : (∀ k ∈ d.engine.disabled, home k.1 = environment) →
      (d.saveEngine.configured home environment now).gate = d.engine.gate := fun hhome =>
    gate_congr (hmappings.trans hsound.mappings.symm) ((hsound.disabled_restarted_iff now).mpr hhome)
      (hcutoff.trans hsound.cutoff.symm)
  constructor
  · intro hsurvives
    have hhome := (hsound.disabled_restarted_iff now).mp (hdisabled'.symm.trans hsurvives.alike.disabled)
    have hstreams := (hsound.streams_restarted_iff now clock).mp hsurvives.alike.streams
    rw [hgate hhome] at hstreams
    exact ⟨hhome, hstreams⟩
  · rintro ⟨hhome, hnewest⟩
    rw [← hgate hhome] at hnewest
    have halike : d.engine.Alike (d.restarted home environment now clock).engine :=
      hsound.settled.alike hsettled (hmappings'.trans hsound.mappings.symm)
        ((hsound.streams_restarted_iff now clock).mpr hnewest)
        (hdisabled'.trans ((hsound.disabled_restarted_iff now).mpr hhome))
        (hcutoff'.trans hsound.cutoff.symm)
    exact ⟨halike, fun calls hcalls => StateEngine.Alike.answers calls hcalls halike⟩

/-- Identifiers that tell the types apart. -/
def typedId (key : EntityKey) : EntityId :=
  match key.entityType with
  | .host => ⟨⟨1⟩⟩
  | .service => ⟨⟨2⟩⟩
  | .storage => ⟨⟨3⟩⟩
  | .scheduler => ⟨⟨4⟩⟩
  | .externalDependency => ⟨⟨5⟩⟩

theorem entityType_eq_of_typedId {key key' : EntityKey} (h : typedId key = typedId key') :
    key.entityType = key'.entityType := by
  unfold typedId at h
  revert h
  cases key.entityType <;> cases key'.entityType <;> decide

/-- A host that reports over SSH keeps its engine. -/
theorem survives_restart_ssh :
    let home : EntityId → String := fun _ => "lab"
    let clock : Observation → Timestamp := fun _ => 0
    let request : RegisterRequest :=
      { protocolVersion := 1, agentVersion := "0.1.0", environment := "lab", hostname := "h", capabilities := ∅ }
    let o : Observation := ⟨⟨⟨1⟩⟩, probeSsh, ⟨⟨1⟩⟩, none, 0, .ok, .null⟩
    let d := [DeploymentInput.register 0 request, .batch 0 clock [o]].foldl (step home typedId "lab")
      ((blank home "lab").start home "lab" 0 clock)
    d.engine.Survives (d.restarted home "lab" 0 clock).engine := by
  intro home clock request o d
  have hinit : (deployment home typedId "lab").Run [] ((blank home "lab").start home "lab" 0 clock) :=
    .init ⟨0, clock, rfl⟩
  have hrun : (deployment home typedId "lab").Run
      ([] ++ [DeploymentInput.register 0 request, .batch 0 clock [o]]) d :=
    hinit.append _ ⟨trivial, trivial, trivial⟩
  have hstream : d.engine.streams[o.streamKey]?.isSome := by decide +kernel
  refine (survives_restart_iff (fun _ _ => entityType_eq_of_typedId) hrun 0 clock).mpr
    ⟨fun _ _ => rfl, Or.inl fun hnone => ?_⟩
  rw [hnone] at hstream
  simp at hstream

/-- A result of the GPU probe is stored while the probe is disabled, and the host then
registers with an accelerator.  The engine has no streams, and a restart folds the stored
result in: the next result is answered differently. -/
theorem restart_folds_refused :
    let home : EntityId → String := fun _ => "lab"
    let clock : Observation → Timestamp := fun _ => 0
    let request : CapabilitySet → RegisterRequest := fun capabilities =>
      { protocolVersion := 1, agentVersion := "0.1.0", environment := "lab", hostname := "h",
        capabilities := capabilities }
    let result : ℕ → Observation := fun n => ⟨⟨⟨n⟩⟩, probeGpu, ⟨⟨1⟩⟩, none, 0, .ok, .null⟩
    let log := [DeploymentInput.register 0 (request ∅), .batch 0 clock [result 1],
      .register 0 (request {⟨"gpu.nvidia"⟩})]
    let d := log.foldl (step home typedId "lab") ((blank home "lab").start home "lab" 0 clock)
    let rebuilt := (d.restarted home "lab" 0 clock).engine
    (deployment home typedId "lab").Run log d ∧ ¬ d.engine.Survives rebuilt ∧
      rebuilt.answers [.ingest 0 (result 2)] ≠ d.engine.answers [.ingest 0 (result 2)] := by
  intro home clock request result log d rebuilt
  have hinit : (deployment home typedId "lab").Run [] ((blank home "lab").start home "lab" 0 clock) :=
    .init ⟨0, clock, rfl⟩
  have hrun : (deployment home typedId "lab").Run ([] ++ log) d :=
    hinit.append _ ⟨trivial, trivial, trivial, trivial⟩
  have hanswers : rebuilt.answers [.ingest 0 (result 2)] ≠ d.engine.answers [.ingest 0 (result 2)] := by
    decide +kernel
  refine ⟨hrun, fun hsurvives => hanswers (hsurvives.answers _ ?_), hanswers⟩
  intro call hcall
  rw [List.mem_singleton.mp hcall]
  exact .ingest 0 (result 2)

end Deployment

end Sentinel
