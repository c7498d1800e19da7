import Sentinel.Diagnosis.Newest
import Sentinel.Diagnosis.NodeFacts
import Sentinel.Integrations.Slurm.Observe
import Sentinel.State.Immediate

/-!
# A cycle of Slurm's

The observations of one cycle are folded into the state engine in the order in which
Slurm listed the records, and the index of newest observations takes them in the same
order.  Both keep of each stream what was listed last, and nothing else of the cycle.

## Main definitions

* `Start` — what a cycle starts from.
* `eventsFromView`, `Start.after` — the cycle, and what diagnosis sees after it.
* `lastReading` — what is listed last of a stream.

## Main results

* `Start.Before.report` — what a stream reports after a cycle.
* `Start.Before.latest` — which observation of a probe is the newest after a cycle.
-/

namespace Sentinel

namespace Slurm

/-- The probes that a cycle makes observations of. -/
def slurmProbes : List ProbeId := [probeNode, probeController]

/-- What a cycle starts from: an engine that was reached from its registered probes, the
newest observations, each under its stream, and the inventory. -/
structure Start where
  /-- The state engine. -/
  engine : StateEngine
  /-- The newest observations. -/
  index : ObservationIndex
  /-- The inventory. -/
  inventory : Inventory
  reached : ∃ log, (registeredMachine builtinMappings).Run log engine
  keyed : index.Keyed

/-- All that is known of the probes of a cycle was drawn and made before it. -/
structure Start.Before (start : Start) {n : ℕ} (draws : Draws n) : Prop where
  stream : ∀ (k : StreamKey) (s : StateStream), start.engine.streams[k]? = some s → s.probe ∈ slurmProbes →
    ∀ i < n, s.lastObservation ≠ draws.id i ∧ s.finishedAt ≤ draws.finishedAt i
  cutoff : ∀ cutoff ∈ start.engine.observationCutoff, ∀ i < n, cutoff ≤ draws.finishedAt i
  held : ∀ (k : StreamKey) (o : Observation), start.index.held[k]? = some o → o.probeId ∈ slurmProbes →
    ∀ i < n, o.finishedAt < draws.finishedAt i

section Cycle

variable (site : Site) (view : SlurmView) {n : ℕ} (draws : Draws n)

/-- The observations of a cycle, with the clock as each is folded in. -/
def eventsFromView : List (Timestamp × Observation) :=
  (observationsFromView site view draws).mapIdx fun i o => (draws.now i, o)

/-- The engine after a cycle. -/
def Start.engineAfter (start : Start) : StateEngine := (start.engine.ingestAll (eventsFromView site view draws)).1

/-- What diagnosis sees after a cycle. -/
def Start.after (start : Start) : DiagnosisContext where
  environment := site.environment
  inventory := start.inventory
  states := (start.engineAfter site view draws).states
  observations := start.index.insertAll (observationsFromView site view draws)

/-- What is listed last of a stream. -/
def lastReading (k : StreamKey) : Option Reading :=
  ((readingsFromView site view).filter fun r => r.streamKey = k).getLast?

end Cycle

variable {site : Site} {view : SlurmView} {n : ℕ} {draws : Draws n} {start : Start} {k : StreamKey}
  {e : EntityId} {c : StateComponent} {r : Reading}

/-! ### Observations and events -/

theorem probe_of_mem_readings (h : r ∈ readingsFromView site view) : r.probeId ∈ slurmProbes := by
  rcases mem_readingsFromView.mp h with ⟨node, -, rfl⟩ | ⟨controller, -, hr⟩
  · exact List.mem_cons_self
  · rw [Site.controllerReadings, List.mem_pair] at hr
    rcases hr with rfl | rfl <;> exact List.mem_cons_of_mem _ List.mem_cons_self

theorem mem_observationsFromView {o : Observation} (h : o ∈ observationsFromView site view draws) :
    ∃ i < view.size, ∃ r ∈ readingsFromView site view, o = r.observation (draws.id i) (draws.finishedAt i) := by
  rw [observationsFromView, List.mem_mapIdx] at h
  obtain ⟨i, hi, rfl⟩ := h
  exact ⟨i, length_readingsFromView ▸ hi, _, List.getElem_mem hi, rfl⟩

theorem map_snd_eventsFromView (draws : Draws n) :
    (eventsFromView site view draws).map Prod.snd = observationsFromView site view draws := by
  refine List.ext_getElem (by rw [eventsFromView, List.length_map, List.length_mapIdx]) ?_
  intro i _ _
  simp only [eventsFromView, List.getElem_map, List.getElem_mapIdx]

theorem mem_eventsFromView {event : Timestamp × Observation} (h : event ∈ eventsFromView site view draws) :
    ∃ i < view.size, ∃ r ∈ readingsFromView site view,
      event = (draws.now i, r.observation (draws.id i) (draws.finishedAt i)) := by
  rw [eventsFromView, List.mem_mapIdx] at h
  obtain ⟨i, hi, rfl⟩ := h
  rw [observationsFromView, List.length_mapIdx] at hi
  refine ⟨i, length_readingsFromView ▸ hi, _, List.getElem_mem hi, ?_⟩
  simp only [observationsFromView, List.getElem_mapIdx]

theorem streamKey_of_mem {o : Observation} (h : o ∈ observationsFromView site view draws) :
    o.streamKey = o.reading.streamKey := by
  obtain ⟨i, hi, r, hr, rfl⟩ := mem_observationsFromView h
  rfl

/-- No identifier is drawn twice, and the clock does not go back. -/
theorem inTurn_observationsFromView (hn : view.size ≤ n) : StateEngine.InTurn (observationsFromView site view draws) := by
  rw [StateEngine.InTurn, List.pairwise_iff_getElem]
  intro i j hi hj hij
  rw [observationsFromView, List.length_mapIdx, length_readingsFromView] at hi hj
  simp only [observationsFromView, List.getElem_mapIdx]
  exact ⟨fun heq => hij.ne (draws.id_inj i (hi.trans_le hn) j (hj.trans_le hn) heq), draws.monotone hij.le⟩

/-- The last observation of a stream was made of what is listed last. -/
theorem map_reading_getLast (draws : Draws n) (k : StreamKey) :
    (((observationsFromView site view draws).filter fun o => o.streamKey = k).getLast?).map Observation.reading =
      lastReading site view k := by
  have hfilter : (observationsFromView site view draws).filter (fun o => o.streamKey = k) =
      (observationsFromView site view draws).filter fun o => o.reading.streamKey = k :=
    List.filter_congr fun o ho => by rw [streamKey_of_mem ho]
  rw [lastReading, ← map_reading_observationsFromView draws, List.filter_map, List.getLast?_map, hfilter]
  rfl

theorem lastReading_eq_some (h : lastReading site view k = some r) :
    r ∈ readingsFromView site view ∧ r.streamKey = k := by
  obtain ⟨hmem, hkey⟩ := List.mem_filter.mp (List.mem_of_getLast? h)
  exact ⟨hmem, of_decide_eq_true hkey⟩

/-! ### Streams -/

/-- The component that a probe of a cycle informs. -/
def componentOf (p : ProbeId) : StateComponent := if p = probeNode then .scheduler else .service

/-- The probes of a cycle react at once. -/
theorem mapping_of_slurmProbes : ∀ p ∈ slurmProbes, builtinMappings[p]? = some (.immediate (componentOf p)) := by
  decide +kernel

theorem Start.serves (start : Start) : start.engine.Serves builtinMappings := by
  obtain ⟨log, hrun⟩ := start.reached
  exact StateEngine.serves_run hrun

/-- What a cycle observes counts unless its probe is disabled. -/
theorem Start.Before.gate (h : start.Before draws) (hn : view.size ≤ n) {event : Timestamp × Observation}
    (hevent : event ∈ eventsFromView site view draws) :
    (start.engine.gate event.1 event.2).isSome =
      start.engine.probeEnabled event.2.targetEntity event.2.probeId := by
  obtain ⟨i, hi, r, hr, rfl⟩ := mem_eventsFromView hevent
  have hmapping : start.engine.mappings[r.probeId]? = some (.immediate (componentOf r.probeId)) := by
    rw [start.serves.mappings_eq]
    exact mapping_of_slurmProbes r.probeId (probe_of_mem_readings hr)
  have hcutoff : start.engine.observationCutoff.any (fun cutoff =>
      (r.observation (draws.id i) (draws.finishedAt i)).finishedAt < cutoff) = false := by
    rw [Option.any_eq_false]
    intro cutoff hc
    rw [decide_eq_false_iff_not, not_lt]
    exact h.cutoff cutoff hc i (hi.trans_le hn)
  have hskew : ¬ draws.now i + maxFutureSkew < (r.observation (draws.id i) (draws.finishedAt i)).finishedAt :=
    not_lt.mpr ((draws.le_now i).trans (le_add_of_nonneg_right (by decide)))
  rw [StateEngine.gate, hcutoff, Bool.or_false]
  cases henabled : start.engine.probeEnabled (r.observation (draws.id i) (draws.finishedAt i)).targetEntity
      (r.observation (draws.id i) (draws.finishedAt i)).probeId with
  | false => rfl
  | true =>
    have hmapping' : start.engine.mappings[(r.observation (draws.id i) (draws.finishedAt i)).probeId]? =
        some (.immediate (componentOf r.probeId)) := hmapping
    rw [if_neg (by decide), if_neg hskew, hmapping']
    rfl

/-- The observations of a stream that count. -/
theorem Start.Before.passing (h : start.Before draws) (hn : view.size ≤ n) (k : StreamKey) :
    start.engine.passing (eventsFromView site view draws) k =
      if start.engine.probeEnabled k.1 k.2.1 then
        (eventsFromView site view draws).filter fun event => event.2.streamKey = k
      else [] := by
  have hfilter : start.engine.passing (eventsFromView site view draws) k =
      (eventsFromView site view draws).filter fun event =>
        decide (event.2.streamKey = k) && start.engine.probeEnabled k.1 k.2.1 := by
    refine List.filter_congr fun event hevent => ?_
    rw [h.gate hn hevent]
    by_cases hk : event.2.streamKey = k
    · rw [← hk]
      rfl
    · rw [decide_eq_false hk, Bool.false_and, Bool.false_and]
  rw [hfilter]
  cases start.engine.probeEnabled k.1 k.2.1 <;> simp

/-- The last of them, as it was read. -/
theorem Start.Before.getLast_passing (h : start.Before draws) (hn : view.size ≤ n) (k : StreamKey) :
    ((start.engine.passing (eventsFromView site view draws) k).getLast?).map (fun event => event.2.reading) =
      if start.engine.probeEnabled k.1 k.2.1 then lastReading site view k else none := by
  rw [h.passing hn]
  split
  · rw [← map_reading_getLast draws, ← map_snd_eventsFromView, List.filter_map, List.getLast?_map,
      Option.map_map]
    rfl
  · rfl

/-- **What a stream reports after a cycle**: what was listed last of it, if anything was. -/
theorem Start.Before.report (h : start.Before draws) (hn : view.size ≤ n) (k : StreamKey) :
    (start.engineAfter site view draws).report k =
      ((if start.engine.probeEnabled k.1 k.2.1 then lastReading site view k else none).map fun r =>
        (componentOf k.2.1, false, r.status.health)).or (start.engine.report k) := by
  rw [← h.getLast_passing hn k, Option.map_map]
  by_cases hpass : start.engine.passing (eventsFromView site view draws) k = []
  · rw [StateEngine.report, Start.engineAfter, StateEngine.ingestAll_streams_of_nil _ hpass, hpass]
    rfl
  · have hmember : ∀ event ∈ start.engine.passing (eventsFromView site view draws) k,
        ∃ i < n, event.2.id = draws.id i ∧ event.2.finishedAt = draws.finishedAt i ∧ k.2.1 ∈ slurmProbes := by
      intro event hevent
      obtain ⟨hmem, hkey, -⟩ := StateEngine.key_of_mem_passing hevent
      obtain ⟨i, hi, r, hr, rfl⟩ := mem_eventsFromView hmem
      exact ⟨i, hi.trans_le hn, rfl, rfl, hkey ▸ probe_of_mem_readings hr⟩
    have hprobe : k.2.1 ∈ slurmProbes := by
      obtain ⟨event, hevent⟩ := List.exists_mem_of_ne_nil _ hpass
      obtain ⟨-, -, -, -, hprobe⟩ := hmember event hevent
      exact hprobe
    refine start.serves.report_ingestAll (mapping_of_slurmProbes _ hprobe) ?_ ?_
    · have hsublist : (start.engine.passing (eventsFromView site view draws) k).Sublist
          (eventsFromView site view draws) := List.filter_sublist
      exact (inTurn_observationsFromView hn).sublist (map_snd_eventsFromView draws ▸ hsublist.map Prod.snd)
    · intro s hs event hevent
      obtain ⟨i, hi, hid, hfinished, -⟩ := hmember event hevent
      have hs' : s.probe ∈ slurmProbes := by
        rw [show s.probe = k.2.1 from congrArg (fun k => k.2.1) (start.serves.settled.keyed k s hs)]
        exact hprobe
      rw [hid, hfinished]
      exact h.stream k s hs hs' i hi

/-- Which streams something was folded in of. -/
theorem Start.Before.passing_ne_nil (h : start.Before draws) (hn : view.size ≤ n) (k : StreamKey) :
    start.engine.passing (eventsFromView site view draws) k ≠ [] ↔
      (if start.engine.probeEnabled k.1 k.2.1 then lastReading site view k else none).isSome = true := by
  rw [← h.getLast_passing hn k, Option.isSome_map, ← List.getLast?_isSome]

/-! ### Components -/

/-- What diagnosis reads of a component after a cycle. -/
theorem Start.component_after (start : Start) (site : Site) (view : SlurmView) (draws : Draws n) (e : EntityId)
    (c : StateComponent) : (start.after site view draws).component e c =
      if (start.engineAfter site view draws).states[e]?.isSome then
        (start.engineAfter site view draws).health e c
      else .unknown := by
  rw [DiagnosisContext.component, StateEngine.health, StateEngine.recorded]
  change ((start.engineAfter site view draws).states[e]?.map fun s => s.component c).getD .unknown = _
  cases (start.engineAfter site view draws).states[e]? <;> rfl

/-! ### The newest observations -/

/-- What is held of a stream after a cycle: the last observation of the cycle, if there is one. -/
theorem Start.Before.held_after (h : start.Before draws) (hn : view.size ≤ n) (k : StreamKey) :
    (start.after site view draws).observations.held[k]? =
      (((observationsFromView site view draws).filter fun o => o.streamKey = k).getLast?).or start.index.held[k]? := by
  refine ObservationIndex.held_insertAll_of_inTurn ?_ ?_ k
  · exact (inTurn_observationsFromView hn).imp And.right
  · intro o ho existing hexisting
    obtain ⟨i, hi, r, hr, rfl⟩ := mem_observationsFromView ho
    have hkey := start.keyed _ existing hexisting
    have hprobe : existing.probeId ∈ slurmProbes := by
      rw [show existing.probeId = r.probeId from congrArg (fun k => k.2.1) hkey]
      exact probe_of_mem_readings hr
    exact (h.held _ existing hexisting hprobe i (hi.trans_le hn)).le

theorem Start.keyed_after (start : Start) (site : Site) (view : SlurmView) (draws : Draws n) :
    (start.after site view draws).observations.Keyed :=
  start.keyed.insertAll _

theorem observerEntity_of_mem {o : Observation} (h : o ∈ observationsFromView site view draws) :
    o.observerEntity = none := by
  obtain ⟨i, hi, r, hr, rfl⟩ := mem_observationsFromView h
  rfl

/-- What is held after a cycle was observed in it, as the last of its stream, or was held before. -/
theorem Start.Before.held_cases (h : start.Before draws) (hn : view.size ≤ n) {o : Observation}
    (ho : (start.after site view draws).observations.held[k]? = some o) :
    (k.2.2 = none ∧ o ∈ observationsFromView site view draws ∧
        ((observationsFromView site view draws).filter fun o => o.streamKey = k).getLast? = some o) ∨
      start.index.held[k]? = some o := by
  rw [h.held_after hn] at ho
  rcases Option.or_eq_some_iff.mp ho with hlast | ⟨-, hheld⟩
  · obtain ⟨hmem, hkey⟩ := List.mem_filter.mp (List.mem_of_getLast? hlast)
    refine Or.inl ⟨?_, hmem, hlast⟩
    rw [← of_decide_eq_true hkey]
    exact observerEntity_of_mem hmem
  · exact Or.inr hheld

/-- **The newest observation of a probe after a cycle**: what was listed last of its entity. -/
theorem Start.Before.latest (h : start.Before draws) (hn : view.size ≤ n) {p : ProbeId}
    (hr : lastReading site view (e, p, none) = some r) :
    ∃ o, (start.after site view draws).observations.latest e p = some o ∧ o.reading = r := by
  rw [← map_reading_getLast draws, Option.map_eq_some_iff] at hr
  obtain ⟨o, ho, rfl⟩ := hr
  obtain ⟨hmem, hkey⟩ := List.mem_filter.mp (List.mem_of_getLast? ho)
  have hkey := of_decide_eq_true hkey
  obtain ⟨rfl, rfl⟩ : o.targetEntity = e ∧ o.probeId = p :=
    ⟨congrArg Prod.fst hkey, congrArg (fun k => k.2.1) hkey⟩
  refine ⟨o, ObservationIndex.latest_of_newest (start.keyed_after site view draws) ?_ ?_, rfl⟩
  · rw [h.held_after hn, hkey, ho, Option.some_or]
  · intro k o' ho' htarget hprobe hne
    have hk := start.keyed_after site view draws k o' ho'
    obtain ⟨i, hi, r, hr, heq⟩ := mem_observationsFromView hmem
    rcases h.held_cases hn ho' with ⟨hobserver, hmem', hlast⟩ | hheld
    · -- another one of the cycle is of the same stream, which has one last
      refine absurd ?_ hne
      have hsame : k = (o.targetEntity, o.probeId, none) := by
        rw [← hk, Observation.streamKey, htarget, hprobe, observerEntity_of_mem hmem']
      rw [hsame, ho] at hlast
      exact (Option.some.inj hlast).symm
    · rw [show o.finishedAt = draws.finishedAt i by rw [heq]; rfl]
      refine h.held k o' hheld ?_ i (hi.trans_le hn)
      rw [hprobe, heq]
      exact probe_of_mem_readings hr

/-- An entity of which a cycle lists nothing has the newest observations it had. -/
theorem Start.Before.latest_of_none (h : start.Before draws) (hn : view.size ≤ n) {p : ProbeId}
    (hr : lastReading site view (e, p, none) = none) :
    (start.after site view draws).observations.latest e p = start.index.latest e p := by
  refine ObservationIndex.latest_congr fun observer => ?_
  have hnone : (observationsFromView site view draws).filter
      (fun o => o.streamKey = ((e, p, observer) : StreamKey)) = [] := by
    rw [List.filter_eq_nil_iff]
    intro o ho hkey
    have hkey := of_decide_eq_true hkey
    obtain rfl : observer = none := (congrArg (fun k => k.2.2) hkey).symm.trans (observerEntity_of_mem ho)
    rw [← map_reading_getLast draws, Option.map_eq_none_iff, List.getLast?_eq_none_iff,
      List.filter_eq_nil_iff] at hr
    exact hr o ho (decide_eq_true hkey)
  rw [h.held_after hn, hnone]
  rfl

end Slurm

end Sentinel
