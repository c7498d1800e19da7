import Sentinel.State.Replay

/-!
# Engines that answer alike

What an engine answers to observations and to silence depends on its streams, on the
disabled probes, on the cutoff and on what its components read, and on nothing else it
records.  Settled engines read the same of the same streams, so an engine that is put
together again from its streams answers as before.

## Main definitions

* `StateEngine.Alike` — two engines that differ at most in what is recorded beside the
  healths.
* `StateEngine.answers` — the transitions that a list of calls returns.
* `StateEngine.Seeded` — an engine with states put back, before its streams are.

## Main results

* `StateEngine.Alike.answers` — alike engines answer alike.
* `StateEngine.Settled.alike` — settled engines with the same streams are alike.
* `StateEngine.Seeded.settled` — putting the streams back settles a seeded engine.
-/

namespace Sentinel

namespace StateEngine

variable {engine engine' : StateEngine} {now : Timestamp} {e : EntityId} {c : StateComponent}

/-- Two engines that differ at most in what they record beside the healths. -/
structure Alike (engine engine' : StateEngine) : Prop where
  /-- The same probes mean the same. -/
  mappings : engine'.mappings = engine.mappings
  /-- The streams, with their debouncers, are the same. -/
  streams : engine'.streams = engine.streams
  /-- The same probes are disabled. -/
  disabled : engine'.disabled = engine.disabled
  /-- The cutoff is the same. -/
  cutoff : engine'.observationCutoff = engine.observationCutoff
  /-- Every component reads the same. -/
  health : ∀ e c, engine'.health e c = engine.health e c

namespace Alike

theorem probeEnabled (h : Alike engine engine') : engine'.probeEnabled = engine.probeEnabled := by
  funext e p
  rw [StateEngine.probeEnabled, StateEngine.probeEnabled, h.disabled]

theorem contributors (h : Alike engine engine') (e : EntityId) (c : StateComponent) :
    engine'.contributors e c = engine.contributors e c := by
  have hvoters : engine'.voters e c = engine.voters e c := by
    simp only [voters, h.streams, h.probeEnabled]
  rw [StateEngine.contributors, StateEngine.contributors, hvoters]

theorem combined (h : Alike engine engine') (now : Timestamp) (e : EntityId) (c : StateComponent) :
    engine'.combined now e c = engine.combined now e c := by
  rw [StateEngine.combined, StateEngine.combined, h.contributors]

/-- Alike engines recompute alike. -/
theorem recompute (h : Alike engine engine') (now : Timestamp) (e : EntityId) (c : StateComponent) :
    Alike (engine.recompute now e c).1 (engine'.recompute now e c).1 ∧
      (engine'.recompute now e c).2 = (engine.recompute now e c).2 := by
  refine ⟨⟨h.mappings, h.streams, h.disabled, h.cutoff, fun e' c' => ?_⟩, ?_⟩
  · rw [recompute_health, recompute_health, h.combined, h.health]
  · simp only [StateEngine.recompute, component_stateOrUnknown, h.combined, h.health]

theorem recomputeAll (pairs : List (EntityId × StateComponent)) :
    ∀ {engine engine' : StateEngine}, Alike engine engine' →
      Alike (StateEngine.recomputeAll now engine pairs).1 (StateEngine.recomputeAll now engine' pairs).1 ∧
        (StateEngine.recomputeAll now engine' pairs).2 = (StateEngine.recomputeAll now engine pairs).2 := by
  induction pairs with
  | nil => intro engine engine' h; exact ⟨h, rfl⟩
  | cons p pairs ih =>
    intro engine engine' h
    obtain ⟨hone, htransition⟩ := h.recompute now p.1 p.2
    obtain ⟨hrest, htransitions⟩ := ih hone
    refine ⟨hrest, ?_⟩
    change (engine'.recompute now p.1 p.2).2.toList ++
      (StateEngine.recomputeAll now (engine'.recompute now p.1 p.2).1 pairs).2 = _
    rw [htransition, htransitions]
    rfl

theorem absorb (h : Alike engine engine') (now : Timestamp) (mapping : ProbeMapping) (o : Observation) :
    Alike (engine.absorb now mapping o) (engine'.absorb now mapping o) := by
  have hstarting : engine'.starting now o.targetEntity mapping.component =
      engine.starting now o.targetEntity mapping.component := by
    rw [starting, starting, component_stateOrUnknown, component_stateOrUnknown, h.streams, h.health]
  refine ⟨h.mappings, ?_, h.disabled, h.cutoff, fun e c => ?_⟩
  · simp only [StateEngine.absorb, streamFor, h.streams, hstarting]
  · rw [absorb_health, absorb_health, h.health]

theorem admits (h : Alike engine engine') (now : Timestamp) (o : Observation) :
    engine'.admits now o = engine.admits now o := by
  simp only [StateEngine.admits, gate, h.probeEnabled, h.cutoff, h.mappings, h.streams]

theorem ingest (h : Alike engine engine') (now : Timestamp) (o : Observation) :
    Alike (engine.ingest now o).1 (engine'.ingest now o).1 ∧
      (engine'.ingest now o).2 = (engine.ingest now o).2 := by
  rw [StateEngine.ingest, StateEngine.ingest, h.admits]
  cases engine.admits now o with
  | none => exact ⟨h, rfl⟩
  | some mapping => exact (h.absorb now mapping o).recompute now o.targetEntity mapping.component

theorem lapseWhere (h : Alike engine engine') (p : StateStream → Bool) :
    Alike (engine.lapseWhere p) (engine'.lapseWhere p) :=
  ⟨h.mappings, by simp only [StateEngine.lapseWhere, h.streams], h.disabled, h.cutoff, h.health⟩

theorem expire (h : Alike engine engine') (now at_ : Timestamp) (horizon : StateStream → Duration) :
    Alike (engine.expire now at_ horizon).1 (engine'.expire now at_ horizon).1 ∧
      (engine'.expire now at_ horizon).2 = (engine.expire now at_ horizon).2 := by
  have hsilent : engine'.silent at_ horizon = engine.silent at_ horizon := by
    funext s
    simp only [silent, h.probeEnabled]
  have hsilenced : engine'.silenced at_ horizon = engine.silenced at_ horizon := by
    rw [silenced, silenced, hsilent, h.streams]
  rw [StateEngine.expire, StateEngine.expire, hsilent, hsilenced]
  exact (h.lapseWhere _).recomputeAll _

end Alike

end StateEngine

/-! ### Answers -/

/-- A call that an observation or the passing of time makes. -/
inductive EngineCall.Ordinary : EngineCall → Prop
  | ingest (now : Timestamp) (o : Observation) : Ordinary (.ingest now o)
  | expire (now at_ : Timestamp) (horizon : StateStream → Duration) : Ordinary (.expire now at_ horizon)

namespace StateEngine

variable {engine engine' : StateEngine} {now : Timestamp} {e : EntityId}

/-- The transitions that calls return, one list for each. -/
def answers : StateEngine → List EngineCall → List (List StateTransition)
  | _, [] => []
  | engine, call :: calls => (call.run engine).2 :: answers (call.run engine).1 calls

/-- **Alike engines answer alike**, whatever observations come and whatever expires. -/
theorem Alike.answers (calls : List EngineCall) (hcalls : ∀ call ∈ calls, call.Ordinary) :
    ∀ {engine engine' : StateEngine}, Alike engine engine' →
      engine'.answers calls = engine.answers calls := by
  induction calls with
  | nil => intro engine engine' _; rfl
  | cons call calls ih =>
    intro engine engine' h
    rw [List.forall_mem_cons] at hcalls
    have hstep : Alike (call.run engine).1 (call.run engine').1 ∧
        (call.run engine').2 = (call.run engine).2 := by
      cases hcalls.1 with
      | ingest now o =>
        obtain ⟨hnext, htransition⟩ := h.ingest now o
        exact ⟨hnext, congrArg Option.toList htransition⟩
      | expire now at_ horizon => exact h.expire now at_ horizon
    rw [StateEngine.answers, StateEngine.answers, hstep.2, ih hcalls.2 hstep.1]

/-- **Settled engines with the same streams are alike**: what a component reads is the
worst its streams say. -/
theorem Settled.alike (h : engine.Settled) (h' : engine'.Settled)
    (hmappings : engine'.mappings = engine.mappings) (hstreams : engine'.streams = engine.streams)
    (hdisabled : engine'.disabled = engine.disabled)
    (hcutoff : engine'.observationCutoff = engine.observationCutoff) : Alike engine engine' := by
  refine ⟨hmappings, hstreams, hdisabled, hcutoff, fun e c => ?_⟩
  have hcontributed : engine'.contributed e c = engine.contributed e c := by
    simp only [contributed, Contributes, Votes, probeEnabled, hstreams, hdisabled]
  have hworst := h'.isWorst_health e c
  rw [hcontributed] at hworst
  exact hworst.unique Health.severityRank_injective (h.isWorst_health e c)

/-! ### What a call leaves alone -/

theorem expire_frame (engine : StateEngine) (now at_ : Timestamp) (horizon : StateStream → Duration) :
    ∃ streams states, (engine.expire now at_ horizon).1 =
      { engine with streams := streams, states := states } := by
  obtain ⟨states, hframe⟩ := recomputeAll_frame now (engine.silenced at_ horizon).toList
    (engine.lapseWhere (engine.silent at_ horizon))
  rw [expire, hframe]
  exact ⟨_, states, rfl⟩

theorem recomputeRecorded_frame (engine : StateEngine) (now : Timestamp) (e : EntityId)
    (c : StateComponent) :
    ∃ states, (engine.recomputeRecorded now e c).1 = { engine with states := states } := by
  rw [recomputeRecorded]
  split
  · exact ⟨_, rfl⟩
  · exact ⟨engine.states, rfl⟩

/-- What is flipped is a registered probe that is not as it is asked to be. -/
theorem setProbeEnabled_eq {now : Timestamp} {probe : ProbeId} {enabled : Bool} {mapping : ProbeMapping}
    (hmapping : engine.mappings[probe]? = some mapping) :
    engine.setProbeEnabled now e probe enabled =
      if engine.disabled.contains (e, probe) = enabled then
        (engine.toggle e probe enabled).recomputeRecorded now e mapping.component
      else (engine, none) := by
  unfold setProbeEnabled
  rw [hmapping]
  cases enabled <;> cases engine.disabled.contains (e, probe) <;> rfl

/-- Flipping a probe changes which probes are disabled, not what probes mean. -/
theorem setProbeEnabled_frame (engine : StateEngine) (now : Timestamp) (e : EntityId) (probe : ProbeId)
    (enabled : Bool) : ∃ streams states disabled, (engine.setProbeEnabled now e probe enabled).1 =
      { engine with streams := streams, states := states, disabled := disabled } := by
  cases hmapping : engine.mappings[probe]? with
  | none =>
    rw [setProbeEnabled, hmapping]
    exact ⟨engine.streams, engine.states, engine.disabled, rfl⟩
  | some mapping =>
    rw [setProbeEnabled_eq hmapping]
    split
    · obtain ⟨states, hframe⟩ := recomputeRecorded_frame (engine.toggle e probe enabled) now e
        mapping.component
      rw [hframe]
      cases enabled with
      | true => exact ⟨_, states, _, rfl⟩
      | false => exact ⟨_, states, _, rfl⟩
    · exact ⟨engine.streams, engine.states, engine.disabled, rfl⟩

theorem mem_disabled_toggle {probe : ProbeId} {enabled : Bool} {k : EntityId × ProbeId} :
    k ∈ (engine.toggle e probe enabled).disabled ↔
      if k = (e, probe) then enabled = false else k ∈ engine.disabled := by
  cases enabled with
  | true =>
    change k ∈ engine.disabled.erase (e, probe) ↔ _
    rw [Std.ExtTreeSet.mem_erase]
    split
    · next hk => simp [hk]
    · next hk => simp [Ne.symm hk]
  | false =>
    change k ∈ engine.disabled.insert (e, probe) ↔ _
    rw [Std.ExtTreeSet.mem_insert_iff]
    split
    · next hk => simp [hk]
    · next hk => simp [hk]

/-- **Which probes are disabled** after one is flipped. -/
theorem mem_disabled_setProbeEnabled {now : Timestamp} {probe : ProbeId} {enabled : Bool}
    (hprobe : engine.mappings[probe]?.isSome) {k : EntityId × ProbeId} :
    k ∈ (engine.setProbeEnabled now e probe enabled).1.disabled ↔
      if k = (e, probe) then enabled = false else k ∈ engine.disabled := by
  obtain ⟨mapping, hmapping⟩ := Option.isSome_iff_exists.mp hprobe
  rw [setProbeEnabled_eq hmapping]
  split
  · obtain ⟨states, hframe⟩ := recomputeRecorded_frame (engine.toggle e probe enabled) now e
      mapping.component
    rw [hframe]
    exact mem_disabled_toggle
  · next hunchanged =>
    -- nothing changes where the probe is as it is asked to be
    split
    · next hk =>
      rw [hk, ← Std.ExtTreeSet.contains_iff_mem]
      cases enabled <;> simpa using hunchanged
    · rfl

/-- Streams are not lost. -/
theorem isSome_streams_run (call : EngineCall) {k : StreamKey} (h : engine.streams[k]?.isSome) :
    (call.run engine).1.streams[k]?.isSome := by
  rcases call.streams_run_or engine k with ⟨-, heq⟩ | ⟨s, hs⟩
  · rwa [heq]
  · rw [hs]
    rfl

/-! ### Putting an engine together again -/

/-- The streams of a settled engine have different keys. -/
theorem Settled.nodup_keys (h : engine.Settled) : (engine.streams.vals.map StateStream.key).Nodup := by
  have hkeys := Std.ExtTreeMap.nodup_keys_toList engine.streams
  rw [Std.ExtTreeMap.vals, List.map_map]
  refine (List.map_congr_left fun entry hentry => ?_) ▸ hkeys
  exact (h.keyed entry.1 entry.2 (Std.ExtTreeMap.mem_toList_iff_getElem?_eq_some.mp hentry)).symm

/-- An engine without streams, whose records are of components that some streams inform. -/
structure Seeded (streams : List StateStream) (engine : StateEngine) : Prop where
  /-- There are no streams yet. -/
  none : engine.streams = ∅
  /-- A record belongs to one of the streams. -/
  backed : ∀ e c r, engine.recorded e c = some r → ∃ s ∈ streams, s.entity = e ∧ s.component = c
  /-- The roll-ups are in order. -/
  overall : ∀ (e : EntityId) (state : EntityState), engine.states[e]? = some state →
    state.overall = state.rollup

theorem Seeded.recomputeRecorded {streams : List StateStream} (h : engine.Seeded streams)
    (now : Timestamp) (e : EntityId) (c : StateComponent) :
    (engine.recomputeRecorded now e c).1.Seeded streams := by
  rw [StateEngine.recomputeRecorded]
  split
  · next hrecorded =>
    obtain ⟨state, hstate, hcontains⟩ := (Option.any_eq_true _ _).mp hrecorded
    obtain ⟨r, hr⟩ := Option.isSome_iff_exists.mp
      (Std.ExtTreeMap.contains_eq_isSome_getElem?.symm.trans hcontains)
    refine ⟨h.none, fun e' c' r' hr' => ?_, fun e' state' hstate' => ?_⟩
    · obtain ⟨since, hafter⟩ := engine.recompute_recorded now e c e' c'
      rw [hafter] at hr'
      split at hr'
      · next heq =>
        obtain ⟨rfl, rfl⟩ := Prod.mk.inj heq
        refine h.backed e c r ?_
        rw [recorded, hstate]
        exact hr
      · exact h.backed e' c' r' hr'
    · obtain ⟨since, hafter⟩ := engine.recompute_states now e c e'
      rw [hafter] at hstate'
      split at hstate'
      · rw [← Option.some.inj hstate']
        exact EntityState.setComponent_overall _ _ _ _
      · exact h.overall e' state' hstate'
  · exact h

/-- Flipping a probe of an engine without streams records nothing new. -/
theorem Seeded.setProbeEnabled {streams : List StateStream} (h : engine.Seeded streams) (now : Timestamp)
    (e : EntityId) (probe : ProbeId) (enabled : Bool) :
    (engine.setProbeEnabled now e probe enabled).1.Seeded streams := by
  cases hmapping : engine.mappings[probe]? with
  | none =>
    rw [StateEngine.setProbeEnabled, hmapping]
    exact h
  | some mapping =>
    rw [setProbeEnabled_eq hmapping]
    split
    · have htoggle : (engine.toggle e probe enabled).Seeded streams := by
        refine ⟨?_, fun e' c' r hr => ?_, fun e' state hstate => ?_⟩
        · cases enabled with
          | true =>
            refine Std.ExtTreeMap.ext_getElem? fun k => ?_
            rw [toggle, if_pos rfl, lapseWhere_streams]
            simp [h.none]
          | false => exact h.none
        · rw [recorded, toggle_states] at hr
          exact h.backed e' c' r hr
        · rw [toggle_states] at hstate
          exact h.overall e' state hstate
      exact htoggle.recomputeRecorded now e mapping.component
    · exact h

theorem putStreams_states (streams : List StateStream) :
    ∀ engine : StateEngine, (streams.foldl putStream engine).states = engine.states ∧
      (streams.foldl putStream engine).disabled = engine.disabled ∧
      (streams.foldl putStream engine).observationCutoff = engine.observationCutoff := by
  induction streams with
  | nil => intro engine; exact ⟨rfl, rfl, rfl⟩
  | cons s streams ih => intro engine; exact ih (engine.putStream s)

/-- Streams with different keys are all there once they are put back. -/
theorem putStreams_streams_iff {streams : List StateStream} (hnone : engine.streams = ∅)
    (hkeys : (streams.map StateStream.key).Nodup) {k : StreamKey} {s : StateStream} :
    (streams.foldl putStream engine).streams[k]? = some s ↔ s ∈ streams ∧ s.key = k := by
  rw [putStreams_streams, hnone, Std.ExtTreeMap.getElem?_empty, Option.or_none]
  constructor
  · intro h
    obtain ⟨hmem, hkey⟩ := List.mem_filter.mp (List.mem_of_getLast? h)
    exact ⟨hmem, of_decide_eq_true hkey⟩
  · rintro ⟨hmem, hkey⟩
    have hin : s ∈ streams.filter fun s => s.key = k := List.mem_filter.mpr ⟨hmem, decide_eq_true hkey⟩
    rw [List.getLast?_eq_some_getLast (List.ne_nil_of_mem hin)]
    obtain ⟨hmem', hkey'⟩ := List.mem_filter.mp (List.getLast_mem (List.ne_nil_of_mem hin))
    refine congrArg some (List.inj_on_of_nodup_map hkeys hmem' hmem ?_)
    rw [of_decide_eq_true hkey', hkey]

/-- **Putting the streams back settles the engine.** -/
theorem Seeded.settled {streams : List StateStream} (h : engine.Seeded streams)
    (hkeys : (streams.map StateStream.key).Nodup)
    (hregistered : ∀ s ∈ streams, ∃ mapping : ProbeMapping,
      engine.mappings[s.probe]? = some mapping ∧ mapping.component = s.component) (now : Timestamp) :
    (engine.seedStreams now streams).Settled := by
  obtain ⟨hstates, -, -⟩ := putStreams_states streams engine
  have hstream : ∀ {k : StreamKey} {s : StateStream},
      (streams.foldl putStream engine).streams[k]? = some s ↔ s ∈ streams ∧ s.key = k :=
    putStreams_streams_iff h.none hkeys
  have hhas : ∀ s ∈ streams, (streams.foldl putStream engine).HasStream s.entity s.component :=
    fun s hs => ⟨s.key, s, hstream.mpr ⟨hs, rfl⟩, rfl, rfl⟩
  have hput : (streams.foldl putStream engine).SettledExcept
      { p | ∃ s ∈ streams, (s.entity, s.component) = p } := by
    refine ⟨fun k s hs => (hstream.mp hs).2, fun k s hs => ?_, fun e c hs hnot => ?_, fun e c r hr => ?_,
      fun e c r hnot hr => ?_, fun e state hstate => ?_⟩
    · rw [putStreams_mappings]
      exact hregistered s (hstream.mp hs).1
    · obtain ⟨k, s, hs, rfl, rfl⟩ := hs
      exact absurd ⟨s, (hstream.mp hs).1, rfl⟩ hnot
    · rw [recorded, hstates] at hr
      obtain ⟨s, hs, rfl, rfl⟩ := h.backed e c r hr
      exact hhas s hs
    · rw [recorded, hstates] at hr
      obtain ⟨s, hs, rfl, rfl⟩ := h.backed e c r hr
      exact absurd ⟨s, hs, rfl⟩ hnot
    · rw [hstates] at hstate
      exact h.overall e state hstate
  refine (hput.recomputeAll now _ ?_).mono ?_
  · intro p hp
    rw [Std.ExtTreeSet.mem_toList_ofList] at hp
    obtain ⟨s, hs, rfl⟩ := List.mem_map.mp hp
    exact hhas s hs
  · rintro p ⟨⟨s, hs, rfl⟩, hnot⟩
    exact (hnot (Std.ExtTreeSet.mem_toList_ofList.mpr (List.mem_map.mpr ⟨s, hs, rfl⟩))).elim

/-- Nothing else changes when streams are put back. -/
theorem seedStreams_frame (streams : List StateStream) (now : Timestamp) (engine : StateEngine) :
    (engine.seedStreams now streams).streams = (streams.foldl putStream engine).streams ∧
    (engine.seedStreams now streams).mappings = engine.mappings ∧
    (engine.seedStreams now streams).disabled = engine.disabled ∧
    (engine.seedStreams now streams).observationCutoff = engine.observationCutoff := by
  obtain ⟨states, hframe⟩ := recomputeAll_frame now
    (Std.ExtTreeSet.ofList (streams.map fun s => (s.entity, s.component))).toList
    (streams.foldl putStream engine)
  obtain ⟨-, hdisabled, hcutoff⟩ := putStreams_states streams engine
  rw [seedStreams, hframe]
  exact ⟨rfl, putStreams_mappings streams engine, hdisabled, hcutoff⟩

/-- The streams of a settled engine, put back into an engine without streams. -/
theorem Settled.putStreams_vals (h : engine.Settled) (hnone : engine'.streams = ∅) :
    (engine.streams.vals.foldl putStream engine').streams = engine.streams := by
  refine Std.ExtTreeMap.ext_getElem? fun k => Option.ext fun s => ?_
  rw [putStreams_streams_iff hnone h.nodup_keys, Std.ExtTreeMap.mem_vals]
  constructor
  · rintro ⟨⟨k', hs⟩, rfl⟩
    rwa [h.keyed k' s hs]
  · intro hs
    exact ⟨⟨k, hs⟩, h.keyed k s hs⟩

end StateEngine

end Sentinel
