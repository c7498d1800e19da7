import Sentinel.Controller.Diagnose
import Sentinel.Controller.Mounts
import Sentinel.Controller.Restart
import Sentinel.Persistence.Reset

/-!
# Monitoring after a reset

A reset is recorded in the database, and each of the ways in which an observation comes to
count looks at that record: the engine refuses what finished earlier, a controller that
starts reads nothing earlier, and a diagnosis is given nothing earlier.  So a batch that
an agent spooled before the reset is stored when it arrives, and does not count.

What was known of the inventory is kept.  The storage topology is derived from the last
mount report of each host, however old it is, and the graph a diagnosis looks at may
still rest on a report from before the reset.

## Main definitions

* `Deployment.Dated` — the invariant that holds from a reset on.
* `Deployment.ForgetsBefore` — nothing earlier counts.
* `Deployment.Reads` — a deployment on the tables of a database.

## Main results

* `Deployment.Dated.run` — **nothing from before the last reset counts in any run.**
* `Deployment.reset_spec` — what a reset leaves, and what counts from then on.
-/

namespace Sentinel

/-! ### The engine -/

/-- An engine on which nothing counts that finished before the cutoff. -/
structure StateEngine.Since (cutoff : Timestamp) (engine : StateEngine) : Prop where
  /-- What finished earlier is ignored. -/
  ignores : engine.observationCutoff = some cutoff
  /-- The streams are at a later result. -/
  streams : ∀ (k : StreamKey) (s : StateStream), engine.streams[k]? = some s → cutoff ≤ s.finishedAt

namespace StateEngine

variable {engine : StateEngine} {cutoff now : Timestamp} {o : Observation}

/-- What passes the gate did not finish before the cutoff. -/
theorem le_finishedAt_of_admits {mapping : ProbeMapping} (hcutoff : engine.observationCutoff = some cutoff)
    (h : engine.admits now o = some mapping) : cutoff ≤ o.finishedAt := by
  by_contra hold
  have hclosed : engine.gate now o = none := by
    rw [gate, hcutoff, Option.any_some, decide_eq_true (lt_of_not_ge hold), Bool.or_true, if_pos rfl]
  rw [(admits_eq_some.mp h).1] at hclosed
  cases hclosed

/-- A call that keeps the cutoff, and puts no streams back, keeps the engine so. -/
theorem Since.run (h : engine.Since cutoff) (call : EngineCall)
    (hcutoff : (call.run engine).1.observationCutoff = engine.observationCutoff)
    (hseed : ∀ now streams, call ≠ .seedStreams now streams) : (call.run engine).1.Since cutoff := by
  refine ⟨hcutoff.trans h.ignores, fun k s hs => ?_⟩
  rcases call.streams_run engine k with ⟨-, heq⟩ | ⟨now, o, mapping, -, -, hadmits, -, heq⟩ |
    ⟨before, event, -, -, hbefore, heq⟩ | ⟨now, streams, _, _, hcall, -⟩
  · exact h.streams k s (heq ▸ hs)
  · rw [heq] at hs
    rw [← Option.some.inj hs]
    exact le_finishedAt_of_admits h.ignores hadmits
  · rw [heq] at hs
    rw [← Option.some.inj hs]
    exact h.streams k before hbefore
  · exact absurd hcall (hseed now streams)

theorem Since.ingest (h : engine.Since cutoff) (now : Timestamp) (o : Observation) :
    (engine.ingest now o).1.Since cutoff := by
  obtain ⟨streams, states, hframe⟩ := engine.ingest_frame now o
  refine h.run (.ingest now o) ?_ (fun _ _ hcall => by cases hcall)
  show (engine.ingest now o).1.observationCutoff = _
  rw [hframe]

theorem Since.setProbeEnabled (h : engine.Since cutoff) (now : Timestamp) (e : EntityId) (probe : ProbeId)
    (enabled : Bool) : (engine.setProbeEnabled now e probe enabled).1.Since cutoff := by
  obtain ⟨streams, states, disabled, hframe⟩ := engine.setProbeEnabled_frame now e probe enabled
  refine h.run (.setProbeEnabled now e probe enabled) ?_ (fun _ _ hcall => by cases hcall)
  show (engine.setProbeEnabled now e probe enabled).1.observationCutoff = _
  rw [hframe]

theorem Since.expire (h : engine.Since cutoff) (now at_ : Timestamp) (horizon : StateStream → Duration) :
    (engine.expire now at_ horizon).1.Since cutoff := by
  obtain ⟨streams, states, hframe⟩ := engine.expire_frame now at_ horizon
  refine h.run (.expire now at_ horizon) ?_ (fun _ _ hcall => by cases hcall)
  show (engine.expire now at_ horizon).1.observationCutoff = _
  rw [hframe]

end StateEngine

namespace TracedEngine

/-- **What finished before the cutoff does nothing.** -/
theorem ingestAll_eq_filter (cutoff : Timestamp) (clock : Observation → Timestamp)
    (observations : List Observation) :
    ∀ {traced : TracedEngine}, traced.engine.observationCutoff = some cutoff →
      traced.ingestAll clock observations =
        traced.ingestAll clock (observations.filter fun o => cutoff ≤ o.finishedAt) := by
  induction observations with
  | nil => intro traced _; rfl
  | cons o observations ih =>
    intro traced hcutoff
    have hkeep : (traced.ingest (clock o) o).engine.observationCutoff = some cutoff := by
      obtain ⟨streams, states, hframe⟩ := traced.engine.ingest_frame (clock o) o
      show (traced.engine.ingest (clock o) o).1.observationCutoff = _
      rw [hframe]
      exact hcutoff
    by_cases hold : cutoff ≤ o.finishedAt
    · rw [List.filter_cons_of_pos (by simpa using hold)]
      exact ih hkeep
    · -- the engine does not admit it, and is left alone
      have hadmits : traced.engine.admits (clock o) o = none := by
        cases hadmits : traced.engine.admits (clock o) o with
        | none => rfl
        | some mapping => exact absurd (StateEngine.le_finishedAt_of_admits hcutoff hadmits) hold
      have hsame : traced.ingest (clock o) o = traced := by
        rw [ingest, StateEngine.ingest, hadmits]
        rfl
      rw [List.filter_cons_of_neg (by simpa using hold), ← ih hcutoff]
      show (traced.ingest (clock o) o).ingestAll clock observations = _
      rw [hsame]

end TracedEngine

/-! ### The store -/

theorem finishedAt_of_mem_viewsOf {providers : Std.ExtTreeMap EntityId (List EntityId)} {o v : Observation}
    (h : v ∈ viewsOf providers o) : v.id = o.id ∧ v.finishedAt = o.finishedAt := by
  unfold viewsOf at h
  split at h
  · cases h
  · obtain ⟨storage, -, rfl⟩ := List.mem_map.mp h
    exact ⟨rfl, rfl⟩

namespace Store

variable {store : Store} {cutoff now : Timestamp}

/-- An identifier is that of a stored observation that did not finish before the cutoff. -/
def HoldsSince (store : Store) (cutoff : Timestamp) (x : ObservationId) : Prop :=
  ∃ o ∈ store.stored, o.id = x ∧ cutoff ≤ o.finishedAt

theorem HoldsSince.added {x : ObservationId} (h : store.HoldsSince cutoff x) (now : Timestamp)
    (observations : List Observation) : (store.added now observations).HoldsSince cutoff x := by
  obtain ⟨o, ho, hid, hsince⟩ := h
  refine ⟨o, ?_, hid, hsince⟩
  rw [stored_added]
  exact List.mem_append_left _ ho

/-- **What is stored of an observation that is folded in** finished no earlier: where the
batch repeats an identifier, the first is stored, and another one is folded in only if the
first is from the future. -/
theorem finishedAt_le_of_mem_foldedIn {providers : Std.ExtTreeMap EntityId (List EntityId)}
    {observations : List Observation} {o : Observation} (h : o ∈ store.foldedIn now providers observations) :
    ∃ first ∈ store.fresh observations, first.id = o.id ∧ o.finishedAt ≤ first.finishedAt := by
  have hcounts : store.counts now observations o = true := by
    rcases List.mem_append.mp h with ho | ho
    · exact (List.mem_filter.mp (List.mem_of_mem_firsts ho)).2
    · exact (List.mem_filter.mp ho).2
  rw [counts, Bool.and_eq_true, decide_eq_true_iff, decide_eq_true_iff] at hcounts
  obtain ⟨first, hfirst, hid⟩ := List.mem_map.mp hcounts.1
  refine ⟨first, hfirst, hid, ?_⟩
  by_cases hfuture : first.finishedAt ≤ now + maxFutureSkew
  · have hfirstCounts : store.counts now observations first = true := by
      rw [counts, Bool.and_eq_true, decide_eq_true_iff, decide_eq_true_iff, hid]
      exact ⟨hcounts.1, hfuture⟩
    rcases List.mem_append.mp h with ho | ho
    · rw [List.eq_of_mem_firsts_filter hfirst hfirstCounts ho hid.symm]
    · -- a view of the first
      obtain ⟨origin, horigin, hview⟩ := List.mem_flatMap.mp (List.mem_filter.mp ho).1
      obtain ⟨hvid, hfinished⟩ := finishedAt_of_mem_viewsOf hview
      have hsame := List.find?_of_mem_firstsFrom horigin
      rw [← hvid, ← hid, List.find?_of_mem_firstsFrom hfirst] at hsame
      rw [hfinished, Option.some.inj hsame]
  · exact hcounts.2.trans (le_of_lt (lt_of_not_ge hfuture))

/-- A batch leaves the identifiers different. -/
theorem nodup_ids_added (h : store.ids.Nodup) (now : Timestamp) (observations : List Observation) :
    (store.added now (store.fresh observations)).ids.Nodup := by
  rw [ids_added]
  refine List.nodup_append.mpr ⟨h, List.nodup_firstsFrom, fun x hx y hy heq => ?_⟩
  exact (mem_ids_fresh.mp hy).2 (heq ▸ hx)

/-- What is read with a cutoff did not finish before it. -/
theorem le_finishedAt_of_mem_latest {entity : EntityId} {o : Observation}
    (h : o ∈ store.latestObservationsSince now entity (some cutoff)) : cutoff ≤ o.finishedAt := by
  obtain ⟨row, hrow, rfl⟩ := Option.map_eq_some_iff.mp (mem_latestObservationsSince.mp h).2
  have hvalid := (List.mem_filter.mp (List.maxByKey_mem hrow)).2
  rw [Bool.and_eq_true, valid, Bool.and_eq_true, Option.all_some] at hvalid
  exact of_decide_eq_true (Bool.and_eq_true_iff.mp hvalid.2.2).1

end Store

/-! ### The deployment -/

namespace Deployment

variable {home : EntityId → String} {entityId : EntityKey → EntityId} {environment : String}
  {d : Deployment} {cutoff now : Timestamp} {clock : Observation → Timestamp}

/-- The invariant: nothing in the engine or saved of it is from before the cutoff. -/
structure Dated (home : EntityId → String) (environment : String) (cutoff : Timestamp) (d : Deployment) :
    Prop where
  /-- The cutoff is recorded. -/
  recorded : d.controller.store.resetAt = some cutoff
  /-- The engine. -/
  engine : d.engine.Since cutoff
  /-- The streams that are saved. -/
  streams : ∀ s ∈ d.controller.store.streams, cutoff ≤ s.finishedAt
  /-- An observation is stored once. -/
  unique : d.controller.store.ids.Nodup
  /-- What was folded in. -/
  folded : ∀ k, ∀ x ∈ d.controller.engine.folded k, d.controller.store.HoldsSince cutoff x
  /-- What was folded into the streams that are saved. -/
  saved : ∀ k, ∀ x ∈ d.controller.store.folded k, d.controller.store.HoldsSince cutoff x
  /-- The states that are saved are backed by the streams that are. -/
  stored : Stored home environment d.controller.store.streams d.states
  /-- A stream that is saved is there. -/
  live : ∀ s ∈ d.controller.store.streams, d.engine.streams[s.key]?.isSome
  /-- The records are up to date. -/
  settled : d.engine.Settled
  /-- The built-in probes mean what they mean. -/
  mappings : d.engine.mappings = builtinMappings

/-- A dated engine, saved or not on a dated store. -/
theorem dated_ite (engine : TracedEngine) (store : Store) {rows : Std.ExtTreeMap EntityId EntityState}
    (skip : Bool) (tables : Tables) (providers : Std.ExtTreeMap EntityId (List EntityId))
    (hrecorded : store.resetAt = some cutoff) (hunique : store.ids.Nodup)
    (hstreams : ∀ s ∈ store.streams, cutoff ≤ s.finishedAt)
    (hsaved : ∀ k, ∀ x ∈ store.folded k, store.HoldsSince cutoff x)
    (hstored : Stored home environment store.streams rows) (hengine : engine.engine.Since cutoff)
    (hfolded : ∀ k, ∀ x ∈ engine.folded k, store.HoldsSince cutoff x)
    (hlive : ∀ s ∈ store.streams, engine.engine.streams[s.key]?.isSome)
    (hsettled : engine.engine.Settled) (hmappings : engine.engine.mappings = builtinMappings) :
    Dated home environment cutoff
      ⟨tables, if skip then rows else saveEntityStates rows engine.engine,
        ⟨if skip then store else store.saveEngine engine, engine, providers⟩⟩ := by
  obtain ⟨hstored', hlive'⟩ := stored_ite skip hstored hsettled hmappings hlive
  cases skip with
  | true =>
    exact ⟨hrecorded, hengine, hstreams, hunique, hfolded, hsaved, hstored', hlive', hsettled, hmappings⟩
  | false =>
    refine ⟨hrecorded, hengine, fun s hs => ?_, hunique, hfolded, hfolded, hstored', hlive', hsettled,
      hmappings⟩
    obtain ⟨k, hk⟩ := Std.ExtTreeMap.mem_vals.mp hs
    exact hengine.streams k s hk

/-- The engine a controller starts with, and what is known to be folded into it. -/
theorem traced_start (d : Deployment) (now : Timestamp) (clock : Observation → Timestamp) :
    (d.start home environment now clock).controller.engine =
      if d.controller.store.streams.isEmpty then
        TracedEngine.ingestAll clock ⟨d.configured home environment now, d.controller.store.folded⟩
          (d.newest now)
      else ⟨(d.configured home environment now).seedStreams now d.controller.store.streams,
        d.controller.store.folded⟩ := by
  show (Controller.start _ _ _ _ _).engine = _
  rw [Controller.start]
  rfl

/-- **A controller that starts** reads nothing from before the cutoff. -/
theorem dated_start (hrecorded : d.controller.store.resetAt = some cutoff)
    (hunique : d.controller.store.ids.Nodup)
    (hstreams : ∀ s ∈ d.controller.store.streams, cutoff ≤ s.finishedAt)
    (hsaved : ∀ k, ∀ x ∈ d.controller.store.folded k, d.controller.store.HoldsSince cutoff x)
    (hstored : Stored home environment d.controller.store.streams d.states) (now : Timestamp)
    (clock : Observation → Timestamp) :
    (d.start home environment now clock).Dated home environment cutoff := by
  obtain ⟨hseeded, -, hcutoff, -⟩ := configured_spec hstored now
  obtain ⟨hsettled, hmappings, -, -, hlive⟩ := start_spec hstored now clock
  have hconfigured : (d.configured home environment now).Since cutoff := by
    refine ⟨hcutoff.trans hrecorded, fun k s hs => ?_⟩
    rw [hseeded.none] at hs
    simp at hs
  have hengine : (d.start home environment now clock).controller.engine.engine.Since cutoff ∧
      ∀ k, ∀ x ∈ (d.start home environment now clock).controller.engine.folded k,
        d.controller.store.HoldsSince cutoff x := by
    rw [traced_start]
    split
    · refine ⟨TracedEngine.ingestAll_invariant (fun engine now o h => h.ingest now o) _ hconfigured,
        fun k x hx => ?_⟩
      rcases TracedEngine.mem_ingestAll_folded _ hx with hbefore | ⟨o, ho, -, rfl⟩
      · exact hsaved k x hbefore
      · obtain ⟨entity, -, hlatest⟩ := List.mem_flatMap.mp ho
        have hmem := ((d.controller.store.latestObservationsSince_spec now entity.id _).2 o hlatest).1
        rw [hrecorded] at hlatest
        exact ⟨o, hmem, rfl, Store.le_finishedAt_of_mem_latest hlatest⟩
    · obtain ⟨hput, -, -, hkeep⟩ := StateEngine.seedStreams_frame d.controller.store.streams now
        (d.configured home environment now)
      refine ⟨⟨hkeep.trans hconfigured.ignores, fun k s hs => ?_⟩, hsaved⟩
      have hs' : (d.controller.store.streams.foldl StateEngine.putStream
          (d.configured home environment now)).streams[k]? = some s := hput ▸ hs
      exact hstreams s ((StateEngine.putStreams_streams_iff hseeded.none hstored.nodup).mp hs').1
  exact dated_ite _ d.controller.store _ d.tables _ hrecorded hunique hstreams hsaved hstored hengine.1
    hengine.2 hlive hsettled hmappings

/-- Observations are recorded, unless the schema refuses them. -/
theorem Dated.record (h : d.Dated home environment cutoff) (now : Timestamp)
    (clock : Observation → Timestamp) (observations : List Observation) :
    (d.recorded ((d.controller.ingestObservationsRecorded now clock observations).map
      Prod.fst)).Dated home environment cutoff := by
  rw [d.controller.ingestObservationsRecorded_eq now clock observations]
  split
  · exact h
  · have hold := TracedEngine.ingestAll_eq_filter cutoff clock
      (d.controller.store.foldedIn now d.controller.storageProviders observations) h.engine.ignores
    obtain ⟨hmappings, -, -⟩ := d.controller.engine.ingestAll_frame clock
      (d.controller.store.foldedIn now d.controller.storageProviders observations)
    refine dated_ite _ (d.controller.store.added now _) false d.tables d.controller.storageProviders h.recorded
      (Store.nodup_ids_added h.unique now observations) h.streams
      (fun k x hx => (h.saved k x hx).added now _) h.stored ?_ (fun k x hx => ?_) (fun s hs => ?_) ?_
      (hmappings.trans h.mappings)
    · exact TracedEngine.ingestAll_invariant (fun engine now o h => h.ingest now o) _ h.engine
    · rw [hold] at hx
      rcases TracedEngine.mem_ingestAll_folded _ hx with hbefore | ⟨o, ho, -, rfl⟩
      · exact (h.folded k x hbefore).added now _
      · obtain ⟨hfolded, hsince⟩ := List.mem_filter.mp ho
        obtain ⟨first, hfirst, hid, hle⟩ := Store.finishedAt_le_of_mem_foldedIn hfolded
        refine ⟨first, ?_, hid, (of_decide_eq_true hsince).trans hle⟩
        rw [Store.stored_added]
        exact List.mem_append_right _ hfirst
    · exact TracedEngine.ingestAll_invariant (P := fun engine => engine.streams[s.key]?.isSome)
        (fun engine now o h => StateEngine.isSome_streams_run (.ingest now o) h) _ (h.live s hs)
    · exact TracedEngine.ingestAll_invariant (P := StateEngine.Settled)
        (fun engine now o h => h.ingest now o) _ h.settled

/-- **Every input but a reset keeps the cutoff.** -/
theorem Dated.step (h : d.Dated home environment cutoff) {input : DeploymentInput}
    (hinput : ∀ at_ now clock, input ≠ .reset at_ now clock) :
    (d.step home entityId environment input).Dated home environment cutoff := by
  cases input with
  | batch now clock batch =>
    rw [Deployment.step, map_fst_ingestAgentBatch]
    exact h.record now clock _
  | record now clock observations => exact h.record now clock observations
  | register now request =>
    have hconfigured : ∀ entities, let after :=
        (Controller.configureGpuMonitoring now ManagedEntity.gpuMonitoring d.engine entities).1
        after.Since cutoff ∧ after.Settled ∧ after.mappings = builtinMappings ∧
          ∀ s ∈ d.controller.store.streams, after.streams[s.key]?.isSome := by
      intro entities
      refine Controller.configureGpuMonitoring_invariant (P := fun engine => engine.Since cutoff ∧
        engine.Settled ∧ engine.mappings = builtinMappings ∧
        ∀ s ∈ d.controller.store.streams, engine.streams[s.key]?.isSome) ?_ entities
        ⟨h.engine, h.settled, h.mappings, h.live⟩
      rintro engine e enabled ⟨hsince, hsettled, hmappings, hlive⟩
      obtain ⟨streams, states, disabled, hframe⟩ := engine.setProbeEnabled_frame now e probeGpu enabled
      refine ⟨hsince.setProbeEnabled now e probeGpu enabled, hsettled.setProbeEnabled now e probeGpu enabled,
        ?_, fun s hs => StateEngine.isSome_streams_run (.setProbeEnabled now e probeGpu enabled) (hlive s hs)⟩
      rw [hframe]
      exact hmappings
    obtain ⟨hsince, hsettled, hmappings, hlive⟩ :=
      hconfigured (snapshotFromRegistration entityId request).entities
    exact dated_ite _ (reload home environment _ d.controller.store) _ _ _ h.recorded h.unique
      h.streams h.saved h.stored hsince h.folded hlive hsettled hmappings
  | discover cycle =>
    exact ⟨h.recorded, h.engine, h.streams, h.unique, h.folded, h.saved, h.stored, h.live, h.settled,
      h.mappings⟩
  | expire now at_ horizon =>
    obtain ⟨streams, states, hframe⟩ := d.engine.expire_frame now at_ horizon
    refine dated_ite ⟨(d.engine.expire now at_ horizon).1, d.controller.engine.folded⟩
      d.controller.store false d.tables d.controller.storageProviders h.recorded h.unique h.streams
      h.saved h.stored (h.engine.expire now at_ horizon) h.folded (fun s hs => ?_) (h.settled.expire now at_ horizon) ?_
    · exact StateEngine.isSome_streams_run (.expire now at_ horizon) (h.live s hs)
    · rw [hframe]
      exact h.mappings
  | restart now clock => exact dated_start h.recorded h.unique h.streams h.saved h.stored now clock
  | reset at_ now clock => exact absurd rfl (hinput at_ now clock)

/-- **A controller that starts after a reset.** -/
theorem dated_reset (hunique : d.controller.store.ids.Nodup) (cutoff now : Timestamp)
    (clock : Observation → Timestamp) :
    ((d.resetState home environment cutoff).start home environment now clock).Dated home environment
      cutoff := by
  refine dated_start (d := d.resetState home environment cutoff) rfl hunique (fun s hs => ?_)
    (fun k x hx => ?_) (Stored.reset d.states) now clock
  · cases hs
  · cases hx

/-- The reset that is recorded after an input. -/
def cutoffAfter (cutoff : Timestamp) : DeploymentInput → Timestamp
  | .reset at_ _ _ => at_
  | _ => cutoff

/-- **Nothing from before the last reset counts**, whatever happens after it. -/
theorem Dated.run (later : List DeploymentInput) :
    ∀ {cutoff : Timestamp} {d : Deployment}, d.Dated home environment cutoff →
      (later.foldl (Deployment.step home entityId environment) d).Dated home environment
        (later.foldl cutoffAfter cutoff) := by
  induction later with
  | nil => intro cutoff d h; exact h
  | cons input later ih =>
    intro cutoff d h
    by_cases hreset : ∃ at_ now clock, input = .reset at_ now clock
    · obtain ⟨at_, now, clock, rfl⟩ := hreset
      exact ih (dated_reset h.unique at_ now clock)
    · push Not at hreset
      have hcutoff : cutoffAfter cutoff input = cutoff := by
        cases input with
        | reset at_ now clock => exact absurd rfl (hreset at_ now clock)
        | _ => rfl
      rw [List.foldl_cons, List.foldl_cons, hcutoff]
      exact ih (h.step hreset)

/-! ### What counts after a reset -/

/-- **What finished before the cutoff does not count**, for a health or for a diagnosis. -/
structure ForgetsBefore (home : EntityId → String) (environment : String) (cutoff : Timestamp)
    (d : Deployment) : Prop where
  /-- The cutoff is the recorded one. -/
  recorded : d.controller.store.resetAt = some cutoff
  /-- No such observation was folded into the engine. -/
  folded : ∀ o ∈ d.controller.store.stored, o.finishedAt < cutoff →
    ∀ k, o.id ∉ d.controller.engine.folded k
  /-- None that still comes in is. -/
  arriving : ∀ (clock : Observation → Timestamp) (observations : List Observation),
    d.controller.engine.ingestAll clock observations =
      d.controller.engine.ingestAll clock (observations.filter fun o => cutoff ≤ o.finishedAt)
  /-- The healths are those of the streams. -/
  settled : d.engine.Settled
  /-- The streams are at later results. -/
  streams : ∀ (k : StreamKey) (s : StateStream), d.engine.streams[k]? = some s →
    cutoff ≤ s.finishedAt
  /-- So are the streams behind the states in the database. -/
  loaded : ∀ state ∈ loadEntityStates home environment d.states,
    ∀ (c : StateComponent) (r : ComponentState), state.components[c]? = some r →
      ∃ s ∈ d.controller.store.streams, s.entity = state.entity ∧ s.component = c ∧ cutoff ≤ s.finishedAt
  /-- A diagnosis looks at such streams, and at later observations. -/
  diagnosed : ∀ reading : Controller.Reading,
    (d.controller.currentEngine reading).Settled ∧
    (∀ (k : StreamKey) (s : StateStream), (d.controller.currentEngine reading).streams[k]? = some s →
      cutoff ≤ s.finishedAt) ∧
    ∀ o ∈ d.controller.currentObservations reading, cutoff ≤ o.finishedAt

theorem Dated.forgetsBefore (h : d.Dated home environment cutoff) :
    d.ForgetsBefore home environment cutoff := by
  refine ⟨h.recorded, fun o ho hold k hk => ?_, fun clock observations => ?_, h.settled, h.engine.streams,
    fun state hstate c r hr => ?_, fun reading => ?_⟩
  · -- identifiers are stored once
    obtain ⟨other, hother, hid, hsince⟩ := h.folded k o.id hk
    rw [List.inj_on_of_nodup_map h.unique hother ho hid] at hsince
    exact absurd hold (not_lt_of_ge hsince)
  · exact TracedEngine.ingestAll_eq_filter cutoff clock observations h.engine.ignores
  · obtain ⟨hhome, row, hrow, hcomponents, -⟩ := mem_loadEntityStates hstate
    obtain ⟨s, hs, hentity, hcomponent⟩ := h.stored.backed state.entity row hhome hrow c r (hcomponents ▸ hr)
    exact ⟨s, hs, hentity, hcomponent, h.streams s hs⟩
  · have hcurrent : (d.controller.currentEngine reading).Since cutoff :=
      h.engine.expire reading.expiresAt reading.expiresAt _
    refine ⟨h.settled.expire reading.expiresAt reading.expiresAt _, hcurrent.streams, fun o ho => ?_⟩
    obtain ⟨entity, -, ho⟩ := List.mem_flatMap.mp ho
    rw [hcurrent.ignores] at ho
    exact Store.le_finishedAt_of_mem_latest (List.mem_filter.mp ho).1

/-- A deployment of an environment on the tables of a database. -/
structure Reads (home : EntityId → String) (environment : String) (t : MonitoringTables) (d : Deployment) :
    Prop where
  /-- The reset. -/
  resetAt : d.controller.store.resetAt = t.resets[environment]?
  /-- The states. -/
  states : ∀ e, home e = environment → d.states[e]? = t.states[e]?
  /-- The streams. -/
  streams : d.controller.store.streams = (t.streams.filter fun s => s.1 = environment).map Prod.snd
  /-- The observations. -/
  observations : d.controller.store.observations = t.observations

/-- A reset of the tables is one of the deployment. -/
theorem Reads.resetState {t after : MonitoringTables} (h : d.Reads home environment t)
    (hreset : MonitoringTables.IsReset home environment cutoff t after) :
    (d.resetState home environment cutoff).Reads home environment after := by
  refine ⟨?_, fun e he => ?_, ?_, h.observations.trans hreset.history.1.symm⟩
  · rw [hreset.resets, Std.ExtTreeMap.getElem?_insert_self]
    rfl
  · show (d.states.filter _)[e]? = _
    rw [hreset.states, Std.ExtTreeMap.getElem?_filter', Std.ExtTreeMap.getElem?_filter', h.states e he]
  · have hnone : after.streams.filter (fun s => s.1 = environment) = [] := by
      rw [List.filter_eq_nil_iff]
      intro s hs henvironment
      rw [hreset.streams] at hs
      exact of_decide_eq_true (List.mem_filter.mp hs).2 (of_decide_eq_true henvironment)
    rw [hnone]
    rfl

/-- **What a reset does.**  On every database: the reset of an environment clears its
monitoring state and leaves the rest alone, or fails and changes nothing.  A controller
that is started then, and whatever happens to it, counts nothing that finished before the
reset that is recorded, for a health or among the states and observations of a diagnosis. -/
theorem reset_spec (entityId : EntityKey → EntityId) {t : MonitoringTables}
    (hreads : d.Reads home environment t) (hunique : d.controller.store.ids.Nodup) (resetAt : Timestamp) (fault : ℕ → Bool) :
    match t.resetState home environment resetAt fault with
    | (after, none) => after = t
    | (after, some _) =>
      after.Cleared home environment resetAt ∧ t.Beside home environment after ∧
      (d.resetState home environment resetAt).Reads home environment after ∧
      ∀ (now : Timestamp) (clock : Observation → Timestamp) (later : List DeploymentInput),
        (later.foldl (step home entityId environment)
          ((d.resetState home environment resetAt).start home environment now clock)).ForgetsBefore
            home environment (later.foldl cutoffAfter resetAt) := by
  have hspec := MonitoringTables.resetState_spec home environment resetAt fault t
  cases houtcome : t.resetState home environment resetAt fault with
  | mk after outcome =>
    rw [houtcome] at hspec
    cases outcome with
    | none => exact hspec
    | some outcome =>
      have hcommitted : (t.resetState home environment resetAt fault).2.isSome := by
        rw [houtcome]
        rfl
      have hreset := MonitoringTables.isReset_of_committed hcommitted
      rw [houtcome] at hreset
      refine ⟨hspec.1, hspec.2, hreads.resetState hreset, fun now clock later => ?_⟩
      exact (Dated.run later (dated_reset hunique resetAt now clock)).forgetsBefore

/-- A database with a failed result, a tracked incident and a message about it is reset; an
agent then uploads a result from before the reset, and the controller is started again. -/
theorem reset_spec_late_upload :
    let home : EntityId → String := fun _ => "lab"
    let clock : Observation → Timestamp := fun _ => 12
    let result (k : ℕ) (finishedAt : Timestamp) : Observation :=
      ⟨⟨⟨k⟩⟩, probeSsh, ⟨⟨1⟩⟩, none, finishedAt, .failed, .null⟩
    let incident : StoredIncident := ⟨"lab", "f", .opened, .critical, 5, none⟩
    let rows : List ObservationRow := [⟨result 1 5, 5⟩]
    let message : Notification := ⟨"7", "f", .opened, .critical, 5, none⟩
    let incidents : Std.ExtTreeMap Uuid StoredIncident := .insert ∅ ⟨7⟩ incident
    let t : MonitoringTables := ⟨∅, ∅, [], ⟨.ofList ["lab"] compare, ∅, incidents, fun _ => ∅, fun _ => ∅,
      fun _ => ∅, fun _ => [], fun _ => [], [⟨message.deduplicationKey, ⟨7⟩, message⟩]⟩, rows, []⟩
    let blank := blank home "lab"
    let d : Deployment := ⟨blank.tables, ∅, { blank.controller with
      store := { blank.controller.store with observations := rows } }⟩
    let later := [DeploymentInput.batch 11 clock [result 2 9], .restart 12 clock]
    (t.resetState home "lab" 10 fun _ => false).1.Cleared home "lab" 10 ∧
      (later.foldl (step home typedId "lab") ((d.resetState home "lab" 10).start home "lab" 10
        clock)).ForgetsBefore home "lab" 10 := by
  intro home clock result incident rows message incidents t blank d later
  have hreads : d.Reads home "lab" t := ⟨by decide +kernel, fun e _ => rfl, rfl, rfl⟩
  have hunique : d.controller.store.ids.Nodup := List.nodup_singleton _
  have hspec := reset_spec typedId hreads hunique 10 fun _ => false
  have hcommitted : (t.resetState home "lab" 10 fun _ => false).2.isSome = true := by decide +kernel
  cases houtcome : t.resetState home "lab" 10 fun _ => false with
  | mk after outcome =>
    rw [houtcome] at hspec hcommitted
    cases outcome with
    | none => cases hcommitted
    | some outcome => exact ⟨hspec.1, hspec.2.2.2 10 clock later⟩

/-- **The graph remembers.**  A client's mount report finishes before a reset.  It is not
read by any diagnosis after it, but the discovery cycles read it: that the file server has
a client at all rests on it, and so does the conclusion that its export service has failed. -/
theorem graph_remembers_mounts :
    let home : EntityId → String := fun _ => "lab"
    let clock : Observation → Timestamp := fun _ => 103
    let entityId (key : EntityKey) : EntityId :=
      if key.entityType = .storage then ⟨⟨3⟩⟩ else if key.canonicalName = "a" then ⟨⟨1⟩⟩ else ⟨⟨2⟩⟩
    let edgeId (r : Relation) : Uuid := if r.2.2 = .provides then ⟨1⟩ else ⟨2⟩
    let table : Observation := ⟨⟨⟨1⟩⟩, probeClientMount, ⟨⟨1⟩⟩, none, 0, .ok,
      .obj [("mounts", .arr [.obj [("server", .str "fs")]])]⟩
    let declared := ((InventorySnapshot.new .staticConfig).addEntity (.new ⟨⟨1⟩⟩ .host "a") rfl).addEntity
      (.new ⟨⟨2⟩⟩ .host "fs") rfl
    let cycle (d : Deployment) : Cycle := ⟨[some declared], some (deriveStorageTopology entityId edgeId "lab"
      d.controller.store 103 (Cycle.fold (d.tables.within home "lab").loadInventory (some declared))).snapshot,
      by
        show [declared.source, (deriveStorageTopology _ _ _ _ _ _).snapshot.source].Nodup
        rw [deriveStorageTopology, source_topology]
        decide⟩
    let result (k : ℕ) (probe : ProbeId) (at_ : Timestamp) (status : ProbeStatus) : Observation :=
      ⟨⟨⟨k⟩⟩, probe, ⟨⟨2⟩⟩, none, at_, status, .null⟩
    let fresh := [result 2 probeNetwork 101 .ok, result 3 probeNetwork 102 .ok, result 4 probeAgent 101 .ok,
      result 5 probeAgent 102 .ok, result 6 probeServerPort 102 .failed]
    let next := step home entityId "lab"
    let started := (blank home "lab").start home "lab" 0 clock
    let known := next started (.discover (cycle started))
    let measured (reports : List Observation) : Deployment :=
      next (next (next known (.batch 1 clock reports)) (.reset 100 100 clock)) (.record 103 clock fresh)
    let found (reports : List Observation) : List DiagnosisType :=
      let d := next (measured reports) (.discover (cycle (measured reports)))
      (d.controller.diagnose ⟨104, 104, "lab", ⟨∅, 60, none⟩, []⟩ entityId).map Diagnosis.diagnosisType
    table.finishedAt < 100 ∧ (measured [table]).controller.store.resetAt = some 100 ∧
      Kind.nfsServiceFailure ∈ found [table] ∧ Kind.nfsServiceFailure ∉ found [] := by
  decide +kernel

end Deployment

end Sentinel
