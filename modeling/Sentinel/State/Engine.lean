import Sentinel.Lib.Machine
import Sentinel.State.Debounce

/-!
# The state engine

The engine folds observations into entity state.  A probe is registered with the
component it informs and its debounce policy; every probe and observer of an
entity has a debounced stream of its own, and a component's health is combined
from the streams that contribute to it.

Iteration order over the streams does not matter to any result: a combination
picks the worst stream under a key no two of them share, and sorts the evidence.
The streams are therefore kept in an ordered map.  Every call reads the clock
once, as `now`.

## Main definitions

* `StateStream`, `StateStream.accept`, `StateStream.lapse` — one stream, a result
  folded into it, and its expiry.
* `StateEngine`, `StateEngine.ingest`, `StateEngine.recompute`,
  `StateEngine.expire`, `StateEngine.setProbeEnabled`, `StateEngine.seedStreams`
  — the engine and its calls.
* `StateEngine.recorded`, `StateEngine.health` — what a component reads.
* `EngineCall`, `engineMachine` — the calls as data, and the engine they drive.

## Main results

* `StateEngine.recompute_recorded`, `StateEngine.recompute_transition` — what a
  recomputation writes and answers.
-/

namespace Sentinel

/-- How one probe's results feed into state. -/
structure ProbeMapping where
  /-- Which component this probe informs. -/
  component : StateComponent
  /-- How much evidence is needed before health changes. -/
  policy : DebouncePolicy
  /-- Event probes preserve history without asserting component health. -/
  informational : Bool
  deriving DecidableEq, Repr

namespace ProbeMapping

/-- A mapping with the default debounce policy. -/
def new (component : StateComponent) : ProbeMapping := ⟨component, .default, false⟩

/-- A mapping that reacts to the first observation. -/
def immediate (component : StateComponent) : ProbeMapping := ⟨component, .immediate, false⟩

end ProbeMapping

/-! ### Streams -/

/-- Whether a status counts against the entity in the debouncer. -/
def isBad (status : ProbeStatus) : Bool := status ≠ .ok

/-- The worst health a given status can justify. -/
def cap (health : Health) (status : ProbeStatus) : Health :=
  match status with
  | .ok => health
  | .degraded => if Health.degraded.severityRank < health.severityRank then .degraded else health
  | _ => if Health.unavailable.severityRank < health.severityRank then .unavailable else health

/-- One independently debounced probe and observer. -/
structure StateStream where
  /-- The entity measured. -/
  entity : EntityId
  /-- The probe. -/
  probe : ProbeId
  /-- Who ran it. -/
  observer : Option EntityId
  /-- The component it informs. -/
  component : StateComponent
  /-- The observation folded in last. -/
  lastObservation : ObservationId
  /-- When that one finished. -/
  finishedAt : Timestamp
  /-- The hysteresis. -/
  debouncer : Debouncer
  /-- What this stream reports. -/
  state : ComponentState
  /-- Whether the stream has gone silent. -/
  expired : Bool
  deriving DecidableEq, Repr

namespace StateStream

/-- The key the engine keeps the stream under. -/
def key (s : StateStream) : StreamKey := (s.entity, s.probe, s.observer)

/-- A stream as it is created for its first observation, before that one is
folded in. -/
def fresh (now : Timestamp) (mapping : ProbeMapping) (starting : Health) (o : Observation) :
    StateStream where
  entity := o.targetEntity
  probe := o.probeId
  observer := o.observerEntity
  component := mapping.component
  lastObservation := o.id
  finishedAt := o.finishedAt
  debouncer := .startingAt mapping.policy starting
  state := .new now starting
  expired := false

/-- The debouncer after a status, and the health the stream then reports. -/
def judge (d : Debouncer) (status : ProbeStatus) : Debouncer × Health :=
  match status with
  | .unsupported => ((d.force .unknown).1, .unknown)
  | .notApplicable => ((d.force .notApplicable).1, .notApplicable)
  | status => ((d.observe (isBad status)).1, cap (d.observe (isBad status)).1.health status)

/-- A replay must not count toward hysteresis, and delayed spool uploads must not
overwrite a more recent verdict. -/
def refuses (s : StateStream) (o : Observation) : Bool :=
  s.lastObservation = o.id || o.finishedAt < s.finishedAt

/-- Fold one observation into a stream. -/
def accept (s : StateStream) (o : Observation) : StateStream :=
  let (debouncer, health) := judge s.debouncer o.status
  { s with
    expired := false
    lastObservation := o.id
    finishedAt := o.finishedAt
    debouncer := debouncer
    state :=
      { health := health
        evidence := [o.id]
        since := if s.state.health ≠ health then o.finishedAt else s.state.since
        consecutiveFailures := debouncer.consecutiveFailures
        consecutiveSuccesses := debouncer.consecutiveSuccesses } }

/-- Silence, or a probe enabled again: the stream's health is unknown until it
reports anew. -/
def lapse (s : StateStream) : StateStream :=
  { s with
    expired := true
    state := { s.state with health := .unknown }
    debouncer := (s.debouncer.force .unknown).1 }

@[simp] theorem accept_entity (s : StateStream) (o : Observation) :
    (s.accept o).entity = s.entity := rfl

@[simp] theorem accept_probe (s : StateStream) (o : Observation) :
    (s.accept o).probe = s.probe := rfl

@[simp] theorem accept_component (s : StateStream) (o : Observation) :
    (s.accept o).component = s.component := rfl

@[simp] theorem accept_key (s : StateStream) (o : Observation) : (s.accept o).key = s.key := rfl

@[simp] theorem lapse_key (s : StateStream) : s.lapse.key = s.key := rfl

@[simp] theorem accept_debouncer (s : StateStream) (o : Observation) :
    (s.accept o).debouncer = (judge s.debouncer o.status).1 := rfl

@[simp] theorem accept_health (s : StateStream) (o : Observation) :
    (s.accept o).state.health = (judge s.debouncer o.status).2 := rfl

@[simp] theorem lapse_debouncer (s : StateStream) :
    s.lapse.debouncer = .startingAt s.debouncer.policy .unknown :=
  Debouncer.force_fst _ _

/-- A status that carries a signal goes through the hysteresis. -/
theorem judge_of_isConclusive (d : Debouncer) {status : ProbeStatus}
    (h : status.isConclusive = true) :
    judge d status =
      ((d.observe (isBad status)).1, cap (d.observe (isBad status)).1.health status) := by
  cases status <;> first | rfl | exact absurd h (by decide)

/-- A status that carries none sets the health directly and starts afresh. -/
theorem judge_of_not_isConclusive (d : Debouncer) {status : ProbeStatus}
    (h : status.isConclusive = false) :
    ∃ health, (health = .unknown ∨ health = .notApplicable) ∧
      judge d status = (.startingAt d.policy health, health) := by
  cases status with
  | unsupported => exact ⟨.unknown, Or.inl rfl, by rw [judge, Debouncer.force_fst]⟩
  | notApplicable => exact ⟨.notApplicable, Or.inr rfl, by rw [judge, Debouncer.force_fst]⟩
  | _ => cases h

@[simp] theorem judge_policy (d : Debouncer) (status : ProbeStatus) :
    (judge d status).1.policy = d.policy := by
  cases h : status.isConclusive with
  | true => rw [judge_of_isConclusive d h, Debouncer.observe_policy]
  | false =>
    obtain ⟨health, -, hj⟩ := judge_of_not_isConclusive d h
    rw [hj]
    rfl

end StateStream

/-! ### The engine -/

/-- Derives entity state from a stream of observations. -/
structure StateEngine where
  /-- What each registered probe means. -/
  mappings : Std.ExtTreeMap ProbeId ProbeMapping
  /-- The debounced streams. -/
  streams : Std.ExtTreeMap StreamKey StateStream
  /-- The derived states. -/
  states : Std.ExtTreeMap EntityId EntityState
  /-- Probes that inventory has retired from an entity. -/
  disabled : Std.ExtTreeSet (EntityId × ProbeId)
  /-- Observations that finished before this do not count. -/
  observationCutoff : Option Timestamp

namespace StateEngine

/-- An engine that knows about no probes yet. -/
def new : StateEngine := ⟨∅, ∅, ∅, ∅, none⟩

/-- Declare how a probe's results map onto a state component. -/
def register (engine : StateEngine) (probe : ProbeId) (mapping : ProbeMapping) : StateEngine :=
  { engine with mappings := engine.mappings.insert probe mapping }

/-- Whether a probe has been registered. -/
def knows (engine : StateEngine) (probe : ProbeId) : Bool := engine.mappings.contains probe

/-- Whether inventory allows this probe to contribute to this entity. -/
def probeEnabled (engine : StateEngine) (entity : EntityId) (probe : ProbeId) : Bool :=
  !engine.disabled.contains (entity, probe)

/-- Ignore what finished before the cutoff. -/
def setObservationCutoff (engine : StateEngine) (cutoff : Option Timestamp) : StateEngine :=
  { engine with observationCutoff := cutoff }

/-- The streams of enabled probes that inform a component. -/
def voters (engine : StateEngine) (entity : EntityId) (component : StateComponent) :
    List StateStream :=
  engine.streams.vals.filter fun s =>
    s.entity = entity ∧ s.component = component ∧ engine.probeEnabled entity s.probe

/-- The voters, less an observer gone silent while another one still measures
the same probe. -/
def contributors (engine : StateEngine) (entity : EntityId) (component : StateComponent) :
    List StateStream :=
  (engine.voters entity component).filter fun s =>
    !s.expired ||
      !(engine.voters entity component).any fun other => other.probe = s.probe && !other.expired

/-- The combination of the contributors: the worst one's state, and the evidence
of all of them. -/
def combined (engine : StateEngine) (now : Timestamp) (entity : EntityId)
    (component : StateComponent) : ComponentState :=
  let contributors := engine.contributors entity component
  let worst := contributors.maxByKey fun s => (s.state.health.severityRank, s.probe, s.observer)
  { worst.elim (ComponentState.new now .notApplicable) StateStream.state with
    evidence := (contributors.flatMap fun s => s.state.evidence).sortDedup }

/-- The state of an entity, everything unknown if it has none. -/
def stateOrUnknown (engine : StateEngine) (now : Timestamp) (entity : EntityId) : EntityState :=
  engine.states[entity]?.getD (.unknown now entity)

/-- Combine a component's streams anew and record the result. -/
def recompute (engine : StateEngine) (now : Timestamp) (entity : EntityId)
    (component : StateComponent) : StateEngine × Option StateTransition :=
  let combined := engine.combined now entity component
  let state := engine.stateOrUnknown now entity
  let previous := state.component component
  let since :=
    if previous = combined.health then
      (state.components[component]?.map ComponentState.since).getD combined.since
    else combined.since
  let state := state.setComponent now component { combined with since := since }
  ({ engine with states := engine.states.insert entity state },
    if combined.health ≠ previous then
      some ⟨entity, some component, previous, combined.health, now, combined.evidence⟩
    else none)

/-- Recompute several components in turn, collecting the transitions. -/
def recomputeAll (now : Timestamp) :
    StateEngine → List (EntityId × StateComponent) → StateEngine × List StateTransition
  | engine, [] => (engine, [])
  | engine, (entity, component) :: pairs =>
    let (engine, transition) := engine.recompute now entity component
    let (engine, transitions) := recomputeAll now engine pairs
    (engine, transition.toList ++ transitions)

/-- The mapping under which an observation may be folded in, whatever its stream
holds: none for a disabled probe, a result from before the cutoff or from the
future, a probe that is unregistered or informational. -/
def gate (engine : StateEngine) (now : Timestamp) (o : Observation) : Option ProbeMapping :=
  if !engine.probeEnabled o.targetEntity o.probeId ||
      engine.observationCutoff.any (fun cutoff => o.finishedAt < cutoff) then none
  else if now + maxFutureSkew < o.finishedAt then none
  else
    match engine.mappings[o.probeId]? with
    | none => none
    | some mapping => if mapping.informational then none else some mapping

/-- The mapping under which an observation is folded in, if it passes the gate
and its stream does not refuse it. -/
def admits (engine : StateEngine) (now : Timestamp) (o : Observation) : Option ProbeMapping :=
  match engine.gate now o with
  | none => none
  | some mapping =>
    if engine.streams[o.streamKey]?.any (fun s => s.refuses o) then none else some mapping

/-- The health a new stream of a component starts from: unknown beside other
streams of the component, else what is recorded. -/
def starting (engine : StateEngine) (now : Timestamp) (entity : EntityId)
    (component : StateComponent) : Health :=
  if engine.streams.vals.any fun s => s.entity = entity && s.component = component then .unknown
  else (engine.stateOrUnknown now entity).component component

/-- The stream an observation is folded into: the one of its key, or a new one. -/
def streamFor (engine : StateEngine) (now : Timestamp) (mapping : ProbeMapping)
    (o : Observation) : StateStream :=
  engine.streams[o.streamKey]?.getD
    (.fresh now mapping (engine.starting now o.targetEntity mapping.component) o)

/-- Give an entity a state if it has none. -/
def touch (engine : StateEngine) (now : Timestamp) (entity : EntityId) : StateEngine :=
  { engine with states := engine.states.insert entity (engine.stateOrUnknown now entity) }

/-- The engine with an observation folded into its stream, nothing recomputed
yet. -/
def absorb (engine : StateEngine) (now : Timestamp) (mapping : ProbeMapping) (o : Observation) :
    StateEngine :=
  { engine.touch now o.targetEntity with
    streams := engine.streams.insert o.streamKey ((engine.streamFor now mapping o).accept o) }

/-- Fold one observation in, answering any state change it caused. -/
def ingest (engine : StateEngine) (now : Timestamp) (o : Observation) :
    StateEngine × Option StateTransition :=
  match engine.admits now o with
  | none => (engine, none)
  | some mapping =>
    (engine.absorb now mapping o).recompute now o.targetEntity mapping.component

/-- Fold in many observations in the order given, each with the clock at its
turn. -/
def ingestAll : StateEngine → List (Timestamp × Observation) → StateEngine × List StateTransition
  | engine, [] => (engine, [])
  | engine, (now, o) :: rest =>
    let (engine, transition) := engine.ingest now o
    let (engine, transitions) := ingestAll engine rest
    (engine, transition.toList ++ transitions)

/-- The engine with every stream that satisfies `p` lapsed. -/
def lapseWhere (engine : StateEngine) (p : StateStream → Bool) : StateEngine :=
  { engine with streams := engine.streams.map fun _ s => if p s then s.lapse else s }

/-- Whether a stream of an enabled probe has been silent for longer than its
horizon. -/
def silent (engine : StateEngine) (at_ : Timestamp) (horizon : StateStream → Duration)
    (s : StateStream) : Bool :=
  engine.probeEnabled s.entity s.probe && horizon s < at_ - s.finishedAt &&
    s.state.health ≠ .notApplicable

/-- The components that streams gone silent inform. -/
def silenced (engine : StateEngine) (at_ : Timestamp) (horizon : StateStream → Duration) :
    Std.ExtTreeSet (EntityId × StateComponent) :=
  .ofList
    ((engine.streams.vals.filter (engine.silent at_ horizon)).map fun s => (s.entity, s.component))

/-- Expire health evidence without interpreting silence as recovery. -/
def expire (engine : StateEngine) (now : Timestamp) (at_ : Timestamp)
    (horizon : StateStream → Duration) : StateEngine × List StateTransition :=
  recomputeAll now (engine.lapseWhere (engine.silent at_ horizon))
    (engine.silenced at_ horizon).toList

/-- Recompute a component if one is recorded. -/
def recomputeRecorded (engine : StateEngine) (now : Timestamp) (entity : EntityId)
    (component : StateComponent) : StateEngine × Option StateTransition :=
  if engine.states[entity]?.any (fun s => s.components.contains component) then
    engine.recompute now entity component
  else (engine, none)

/-- Flip whether a probe contributes to an entity; one enabled again has its
streams lapse. -/
def toggle (engine : StateEngine) (entity : EntityId) (probe : ProbeId) (enabled : Bool) :
    StateEngine :=
  if enabled then
    { engine with disabled := engine.disabled.erase (entity, probe) }.lapseWhere
      fun s => s.entity = entity && s.probe = probe
  else { engine with disabled := engine.disabled.insert (entity, probe) }

/-- Exclude a retired probe without deleting its streams, or enable one again:
that requires new measurements instead of reviving old health. -/
def setProbeEnabled (engine : StateEngine) (now : Timestamp) (entity : EntityId)
    (probe : ProbeId) (enabled : Bool) : StateEngine × Option StateTransition :=
  match engine.mappings[probe]? with
  | none => (engine, none)
  | some mapping =>
    let changed :=
      if enabled then engine.disabled.contains (entity, probe)
      else !engine.disabled.contains (entity, probe)
    if !changed then (engine, none)
    else (engine.toggle entity probe enabled).recomputeRecorded now entity mapping.component

/-- Put a stream under its key. -/
def putStream (engine : StateEngine) (s : StateStream) : StateEngine :=
  { engine with streams := engine.streams.insert s.key s }

/-- Put persisted streams back, and recompute what they inform. -/
def seedStreams (engine : StateEngine) (now : Timestamp) (streams : List StateStream) :
    StateEngine :=
  let components := Std.ExtTreeSet.ofList (streams.map fun s => (s.entity, s.component))
  (recomputeAll now (streams.foldl putStream engine) components.toList).1

/-- Whether this source's current verdict has met the recovery threshold. -/
def confirmsHealth (engine : StateEngine) (o : Observation) : Bool :=
  if !engine.probeEnabled o.targetEntity o.probeId then false
  else
    (engine.streams[o.streamKey]?.map fun s => s.state.health = .healthy && !s.expired).getD
      (!engine.knows o.probeId)

/-- The state recorded for a component of an entity. -/
def recorded (engine : StateEngine) (entity : EntityId) (component : StateComponent) :
    Option ComponentState :=
  engine.states[entity]?.bind fun s => s.components[component]?

/-- The health a component of an entity reads, `notApplicable` if none was ever
recorded. -/
def health (engine : StateEngine) (entity : EntityId) (component : StateComponent) : Health :=
  ((engine.recorded entity component).map ComponentState.health).getD .notApplicable

/-! ### Reading recorded state -/

theorem component_stateOrUnknown (engine : StateEngine) (now : Timestamp) (e : EntityId)
    (c : StateComponent) : (engine.stateOrUnknown now e).component c = engine.health e c := by
  unfold stateOrUnknown health recorded
  cases engine.states[e]? with
  | none => exact EntityState.component_unknown now e c
  | some state => rfl

theorem components_stateOrUnknown (engine : StateEngine) (now : Timestamp) (e : EntityId)
    (c : StateComponent) : (engine.stateOrUnknown now e).components[c]? = engine.recorded e c := by
  unfold stateOrUnknown recorded
  cases engine.states[e]? with
  | none => exact Std.ExtTreeMap.getElem?_empty
  | some state => rfl

theorem health_of_recorded {engine : StateEngine} {e : EntityId} {c : StateComponent}
    {r : ComponentState} (h : engine.recorded e c = some r) : engine.health e c = r.health := by
  rw [health, h]; rfl

/-- A health other than `notApplicable` is recorded. -/
theorem recorded_of_health_ne {engine : StateEngine} {e : EntityId} {c : StateComponent}
    (h : engine.health e c ≠ .notApplicable) : ∃ r, engine.recorded e c = some r := by
  unfold health at h
  cases hr : engine.recorded e c with
  | none => rw [hr] at h; exact absurd rfl h
  | some r => exact ⟨r, rfl⟩

/-! ### What admits an observation -/

/-- An observation passes the gate under the mapping of its probe. -/
theorem mapping_of_gate {engine : StateEngine} {now : Timestamp} {o : Observation}
    {mapping : ProbeMapping} (h : engine.gate now o = some mapping) :
    engine.mappings[o.probeId]? = some mapping := by
  unfold gate at h
  split at h
  · cases h
  split at h
  · cases h
  split at h
  · cases h
  next m hm =>
  split at h
  · cases h
  cases h
  exact hm

/-- Only results of enabled probes pass the gate. -/
theorem enabled_of_gate {engine : StateEngine} {now : Timestamp} {o : Observation}
    {mapping : ProbeMapping} (h : engine.gate now o = some mapping) :
    engine.probeEnabled o.targetEntity o.probeId = true := by
  unfold gate at h
  split at h
  · cases h
  next hfirst =>
  simp only [Bool.or_eq_true, Bool.not_eq_true', not_or, Bool.not_eq_false] at hfirst
  exact hfirst.1

theorem admits_eq_some {engine : StateEngine} {now : Timestamp} {o : Observation}
    {mapping : ProbeMapping} :
    engine.admits now o = some mapping ↔
      engine.gate now o = some mapping ∧
      ∀ s, engine.streams[o.streamKey]? = some s → s.refuses o = false := by
  unfold admits
  cases engine.gate now o with
  | none => simp
  | some m =>
    dsimp only
    split
    · next hany =>
      obtain ⟨s, hs, hr⟩ := (Option.any_eq_true _ _).mp hany
      refine iff_of_false (by simp) fun h => ?_
      rw [h.2 s hs] at hr
      cases hr
    · next hany =>
      refine ⟨fun h => ⟨h, fun s hs => ?_⟩, fun h => h.1⟩
      by_contra hr
      exact hany ((Option.any_eq_true _ _).mpr ⟨s, hs, by simpa using hr⟩)

theorem touch_recorded (engine : StateEngine) (now : Timestamp) (e e' : EntityId)
    (c : StateComponent) : (engine.touch now e).recorded e' c = engine.recorded e' c := by
  have hget : (engine.touch now e).states[e']? =
      if e = e' then some (engine.stateOrUnknown now e) else engine.states[e']? :=
    Std.ExtTreeMap.getElem?_insert_eq
  rw [recorded, hget]
  split
  · next he => rw [Option.bind_some, components_stateOrUnknown, he]
  · rfl

/-- Folding an observation into its stream changes no health yet. -/
theorem absorb_health (engine : StateEngine) (now : Timestamp) (mapping : ProbeMapping)
    (o : Observation) (e : EntityId) (c : StateComponent) :
    (engine.absorb now mapping o).health e c = engine.health e c := by
  change (Option.map _ ((engine.touch now o.targetEntity).recorded e c)).getD _ = _
  rw [touch_recorded, health]

theorem mem_silenced {engine : StateEngine} {at_ : Timestamp} {horizon : StateStream → Duration}
    {p : EntityId × StateComponent} :
    p ∈ (engine.silenced at_ horizon).toList ↔
      ∃ (k : StreamKey) (s : StateStream), engine.streams[k]? = some s ∧
        engine.silent at_ horizon s = true ∧ (s.entity, s.component) = p := by
  rw [silenced, Std.ExtTreeSet.mem_toList_ofList, List.mem_map]
  simp only [List.mem_filter, Std.ExtTreeMap.mem_vals]
  constructor
  · rintro ⟨s, ⟨⟨k, hk⟩, hs⟩, hp⟩; exact ⟨k, s, hk, hs, hp⟩
  · rintro ⟨k, s, hk, hs, hp⟩; exact ⟨s, ⟨⟨k, hk⟩, hs⟩, hp⟩

/-! ### What a recomputation does -/

section Recompute

variable (engine : StateEngine) (now : Timestamp) (e : EntityId) (c : StateComponent)

theorem combined_health :
    (engine.combined now e c).health =
      ((engine.contributors e c).maxByKey
        fun s => (s.state.health.severityRank, s.probe, s.observer)).elim .notApplicable
          fun s => s.state.health := by
  dsimp only [combined]
  cases (engine.contributors e c).maxByKey
    fun s => (s.state.health.severityRank, s.probe, s.observer) <;> rfl

@[simp] theorem recompute_mappings : (engine.recompute now e c).1.mappings = engine.mappings := rfl

@[simp] theorem recompute_streams : (engine.recompute now e c).1.streams = engine.streams := rfl

@[simp] theorem recompute_disabled : (engine.recompute now e c).1.disabled = engine.disabled := rfl

@[simp] theorem recompute_observationCutoff :
    (engine.recompute now e c).1.observationCutoff = engine.observationCutoff := rfl

/-- A recomputation writes the state of one entity, in which one component
changes. -/
theorem recompute_states (e' : EntityId) :
    ∃ since, (engine.recompute now e c).1.states[e']? =
      if e = e' then
        some ((engine.stateOrUnknown now e).setComponent now c
          { engine.combined now e c with since := since })
      else engine.states[e']? :=
  ⟨_, Std.ExtTreeMap.getElem?_insert_eq⟩

/-- What is recorded after a recomputation: the combination at its own place,
whatever was there elsewhere. -/
theorem recompute_recorded (e' : EntityId) (c' : StateComponent) :
    ∃ since, (engine.recompute now e c).1.recorded e' c' =
      if (e, c) = (e', c') then some { engine.combined now e c with since := since }
      else engine.recorded e' c' := by
  obtain ⟨since, h⟩ := engine.recompute_states now e c e'
  refine ⟨since, ?_⟩
  unfold recorded
  rw [h]
  by_cases he : e = e'
  · subst he
    rw [if_pos rfl, Option.bind_some, EntityState.setComponent_components,
      Std.ExtTreeMap.getElem?_insert_eq, components_stateOrUnknown]
    simp only [Prod.mk.injEq, true_and]
    rfl
  · rw [if_neg he, if_neg (fun h => he (Prod.mk.inj h).1)]

theorem recompute_health (e' : EntityId) (c' : StateComponent) :
    (engine.recompute now e c).1.health e' c' =
      if (e, c) = (e', c') then (engine.combined now e c).health else engine.health e' c' := by
  obtain ⟨since, h⟩ := engine.recompute_recorded now e c e' c'
  unfold health
  rw [h]
  split <;> rfl

/-- The transition a recomputation answers is the change of its component. -/
theorem recompute_transition {t : StateTransition} (h : (engine.recompute now e c).2 = some t) :
    t = ⟨e, some c, engine.health e c, (engine.combined now e c).health, now,
        (engine.combined now e c).evidence⟩ ∧
      engine.health e c ≠ (engine.combined now e c).health := by
  simp only [recompute, component_stateOrUnknown] at h
  split at h
  · next hne => exact ⟨(Option.some.inj h).symm, hne.symm⟩
  · cases h

end Recompute

end StateEngine

/-! ### Calls -/

/-- A call of the engine, with what it is given. -/
inductive EngineCall
  | register (probe : ProbeId) (mapping : ProbeMapping)
  | setObservationCutoff (cutoff : Option Timestamp)
  | ingest (now : Timestamp) (o : Observation)
  | expire (now at_ : Timestamp) (horizon : StateStream → Duration)
  | setProbeEnabled (now : Timestamp) (entity : EntityId) (probe : ProbeId) (enabled : Bool)
  | seedStreams (now : Timestamp) (streams : List StateStream)

namespace EngineCall

/-- The engine after a call, and the transitions the call returns. -/
def run (engine : StateEngine) : EngineCall → StateEngine × List StateTransition
  | register probe mapping => (engine.register probe mapping, [])
  | setObservationCutoff cutoff => (engine.setObservationCutoff cutoff, [])
  | ingest now o => ((engine.ingest now o).1, (engine.ingest now o).2.toList)
  | expire now at_ horizon => engine.expire now at_ horizon
  | setProbeEnabled now entity probe enabled =>
    ((engine.setProbeEnabled now entity probe enabled).1,
      (engine.setProbeEnabled now entity probe enabled).2.toList)
  | seedStreams now streams => (engine.seedStreams now streams, [])

/-- What the callers keep to: a probe that has streams is not registered for
another component, and a stream put back informs the component its probe is
registered for. -/
def Proper (engine : StateEngine) : EngineCall → Prop
  | register probe mapping => ∀ (k : StreamKey) (s : StateStream), engine.streams[k]? = some s →
      s.probe = probe → mapping.component = s.component
  | seedStreams _ streams => ∀ s ∈ streams, ∃ mapping : ProbeMapping,
      engine.mappings[s.probe]? = some mapping ∧ mapping.component = s.component
  | _ => True

end EngineCall

/-- The engine, from the empty one, under proper calls. -/
def engineMachine : Machine StateEngine EngineCall where
  Init := fun engine => engine = .new
  step := fun engine call => (call.run engine).1
  Allowed := EngineCall.Proper

end Sentinel
