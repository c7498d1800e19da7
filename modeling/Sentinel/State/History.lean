import Sentinel.State.Invariant

/-!
# Streams and what they were fed

A stream remembers little of what it was fed: two counters and a verdict.  This
file keeps its whole history beside the run, and ties the stream to it: the
debouncer is the one fed with the results since the last reset.  From that
follows what a component that reads healthy rests on, and that silence is never
read as recovery.

## Main definitions

* `StreamEvent`, `EngineCall.events` — what a call does to a stream.
* `sinceReset` — the statuses fed since the last reset.
* `measuringMachine` — the engine under measurements, expiry and retirement.
* `StateStream.Follows` — the stream is what its history makes it.

## Main results

* `EngineCall.streams_run` — everything a call can do to a stream.
* `StateEngine.follows_run` — after every run every stream follows its history.
* `StateEngine.healthy_rests_on_recovery` — what a healthy component rests on.
-/

namespace Sentinel

/-! ### What a call does to a stream -/

/-- Something that happens to a stream. -/
inductive StreamEvent
  /-- An observation was accepted. -/
  | result (o : Observation)
  /-- The stream went silent for too long. -/
  | silence
  /-- Its probe was enabled again. -/
  | reenabled
  /-- It was put back as it had been persisted. -/
  | seeded (s : StateStream)

/-- What a call does to the stream of a key. -/
def EngineCall.events (engine : StateEngine) : EngineCall → StreamKey → List StreamEvent
  | register _ _, _ => []
  | setObservationCutoff _, _ => []
  | ingest now o, k =>
    if o.streamKey = k ∧ (engine.admits now o).isSome then [.result o] else []
  | expire _ at_ horizon, k =>
    if engine.streams[k]?.any (engine.silent at_ horizon) then [.silence] else []
  | setProbeEnabled _ e probe enabled, k =>
    if enabled && engine.knows probe && engine.disabled.contains (e, probe) &&
        engine.streams[k]?.any (fun s => s.entity = e && s.probe = probe) then [.reenabled]
    else []
  | seedStreams _ streams, k => (streams.filter fun s => s.key = k).map .seeded

namespace StateEngine

variable {engine : StateEngine}

theorem lapseWhere_streams (p : StateStream → Bool) (k : StreamKey) :
    (engine.lapseWhere p).streams[k]? =
      engine.streams[k]?.map fun s => if p s then s.lapse else s :=
  Std.ExtTreeMap.getElem?_map

/-- Of the streams put under one key the last one stays. -/
theorem putStreams_streams (streams : List StateStream) (k : StreamKey) :
    (streams.foldl putStream engine).streams[k]? =
      ((streams.filter fun s => s.key = k).getLast?).or engine.streams[k]? := by
  induction streams using List.reverseRecOn with
  | nil => rfl
  | append_singleton streams s ih =>
    rw [List.foldl_append, List.foldl_cons, List.foldl_nil, putStream_streams, List.filter_append]
    by_cases hk : s.key = k
    · rw [if_pos hk, List.filter_cons_of_pos (by simpa using hk), List.filter_nil,
        List.getLast?_concat]
      rfl
    · rw [if_neg hk, List.filter_cons_of_neg (by simpa using hk), List.filter_nil, List.append_nil,
        ih]

theorem putStreams_mappings (streams : List StateStream) :
    ∀ engine : StateEngine, (streams.foldl putStream engine).mappings = engine.mappings := by
  induction streams with
  | nil => intro engine; rfl
  | cons s streams ih => intro engine; exact (ih _).trans rfl

theorem recomputeRecorded_streams (engine : StateEngine) (now : Timestamp) (e : EntityId)
    (c : StateComponent) : (engine.recomputeRecorded now e c).1.streams = engine.streams := by
  unfold recomputeRecorded
  split <;> rfl

theorem ingest_streams_of_admits {now : Timestamp} {o : Observation} {mapping : ProbeMapping}
    (h : engine.admits now o = some mapping) (k : StreamKey) :
    (engine.ingest now o).1.streams[k]? =
      if o.streamKey = k then some ((engine.streamFor now mapping o).accept o)
      else engine.streams[k]? := by
  rw [ingest, h]
  exact Std.ExtTreeMap.getElem?_insert_eq

theorem setProbeEnabled_streams (engine : StateEngine) (now : Timestamp) (e : EntityId) (probe : ProbeId)
    (enabled : Bool) (k : StreamKey) :
    (engine.setProbeEnabled now e probe enabled).1.streams[k]? =
      if enabled && engine.knows probe && engine.disabled.contains (e, probe) then
        engine.streams[k]?.map fun s => if s.entity = e && s.probe = probe then s.lapse else s
      else engine.streams[k]? := by
  unfold setProbeEnabled knows
  rw [Std.ExtTreeMap.contains_eq_isSome_getElem?]
  cases engine.mappings[probe]? with
  | none => simp
  | some mapping =>
    cases enabled with
    | false =>
      cases hd : engine.disabled.contains (e, probe) with
      | false => simp [recomputeRecorded_streams, toggle]
      | true => simp
    | true =>
      cases hd : engine.disabled.contains (e, probe) with
      | false => simp
      | true =>
        simp only [if_true, Bool.not_true, Bool.false_eq_true, if_false, Option.isSome_some,
          Bool.and_self, recomputeRecorded_streams, toggle]
        exact lapseWhere_streams _ k

end StateEngine

/-- **Everything a call can do to a stream**: leave it alone, fold a result in,
let it lapse, or put a persisted one in its place. -/
theorem EngineCall.streams_run (engine : StateEngine) (call : EngineCall) (k : StreamKey) :
    (call.events engine k = [] ∧ (call.run engine).1.streams[k]? = engine.streams[k]?) ∨
    (∃ now o mapping, call = .ingest now o ∧ o.streamKey = k ∧
      engine.admits now o = some mapping ∧ call.events engine k = [.result o] ∧
      (call.run engine).1.streams[k]? = some ((engine.streamFor now mapping o).accept o)) ∨
    (∃ s event, (event = .silence ∨ event = .reenabled) ∧ call.events engine k = [event] ∧
      engine.streams[k]? = some s ∧ (call.run engine).1.streams[k]? = some s.lapse) ∨
    (∃ now streams s earlier, call = .seedStreams now streams ∧ s ∈ streams ∧ s.key = k ∧
      call.events engine k = earlier ++ [.seeded s] ∧
      (call.run engine).1.streams[k]? = some s) := by
  cases call with
  | register probe mapping => exact Or.inl ⟨rfl, rfl⟩
  | setObservationCutoff cutoff => exact Or.inl ⟨rfl, rfl⟩
  | ingest now o =>
    cases hm : engine.admits now o with
    | none =>
      refine Or.inl ⟨?_, ?_⟩
      · simp [events, hm]
      · simp [run, StateEngine.ingest, hm]
    | some mapping =>
      by_cases hk : o.streamKey = k
      · refine Or.inr (Or.inl ⟨now, o, mapping, rfl, hk, hm, ?_, ?_⟩)
        · simp [events, hm, hk]
        · exact (StateEngine.ingest_streams_of_admits hm k).trans (if_pos hk)
      · refine Or.inl ⟨?_, ?_⟩
        · simp [events, hk]
        · exact (StateEngine.ingest_streams_of_admits hm k).trans (if_neg hk)
  | expire now at_ horizon =>
    have hstreams : ((expire now at_ horizon).run engine).1.streams[k]? =
        engine.streams[k]?.map fun s => if engine.silent at_ horizon s then s.lapse else s := by
      rw [← StateEngine.lapseWhere_streams]
      simp only [run, StateEngine.expire, StateEngine.recomputeAll_streams]
    rw [hstreams, events]
    cases hs : engine.streams[k]? with
    | none => exact Or.inl ⟨rfl, rfl⟩
    | some s =>
      cases hsilent : engine.silent at_ horizon s with
      | false => exact Or.inl ⟨by simp [hsilent], by simp [hsilent]⟩
      | true =>
        exact Or.inr (Or.inr (Or.inl ⟨s, .silence, Or.inl rfl, by simp [hsilent], rfl,
          by simp [hsilent]⟩))
  | setProbeEnabled now e probe enabled =>
    have hstreams := engine.setProbeEnabled_streams now e probe enabled k
    rw [show ((setProbeEnabled now e probe enabled).run engine).1 =
      (engine.setProbeEnabled now e probe enabled).1 from rfl, hstreams, events]
    cases hs : engine.streams[k]? with
    | none => exact Or.inl ⟨by simp, by simp⟩
    | some s =>
      generalize (enabled && engine.knows probe && engine.disabled.contains (e, probe)) = flips
      cases flips with
      | false => exact Or.inl ⟨by simp, by simp⟩
      | true =>
        by_cases hthis : s.entity = e ∧ s.probe = probe
        · refine Or.inr (Or.inr (Or.inl ⟨s, .reenabled, Or.inr rfl, ?_, rfl, ?_⟩))
          · simp [hthis.1, hthis.2]
          · simp [hthis.1, hthis.2]
        · refine Or.inl ⟨?_, ?_⟩
          · simpa using fun he hp => hthis ⟨he, hp⟩
          · simpa using fun he hp => absurd ⟨he, hp⟩ hthis
  | seedStreams now streams =>
    have hstreams : ((seedStreams now streams).run engine).1.streams[k]? =
        ((streams.filter fun s => s.key = k).getLast?).or engine.streams[k]? := by
      rw [← StateEngine.putStreams_streams]
      simp only [run, StateEngine.seedStreams, StateEngine.recomputeAll_streams]
    rw [hstreams, events]
    rcases List.eq_nil_or_concat (streams.filter fun s => s.key = k) with hnil | ⟨init, s, hs⟩
    · exact Or.inl ⟨by rw [hnil]; rfl, by rw [hnil]; rfl⟩
    · have hmem : s ∈ streams.filter fun s => s.key = k := by rw [hs]; simp
      obtain ⟨hmem, hk⟩ := List.mem_filter.mp hmem
      refine Or.inr (Or.inr (Or.inr ⟨now, streams, s, init.map .seeded, rfl, hmem,
        by simpa using hk, ?_, ?_⟩))
      · rw [hs, List.concat_eq_append, List.map_append]; rfl
      · rw [hs, List.concat_eq_append, List.getLast?_concat]; rfl

/-- A call leaves a stream alone or leaves one behind. -/
theorem EngineCall.streams_run_or (engine : StateEngine) (call : EngineCall) (k : StreamKey) :
    (call.events engine k = [] ∧ (call.run engine).1.streams[k]? = engine.streams[k]?) ∨
    ∃ s, (call.run engine).1.streams[k]? = some s := by
  rcases call.streams_run engine k with h | ⟨_, _, _, _, _, _, _, h⟩ | ⟨_, _, _, _, _, h⟩ |
      ⟨_, _, _, _, _, _, _, _, h⟩
  · exact Or.inl h
  all_goals exact Or.inr ⟨_, h⟩

/-! ### The statuses since the last reset -/

/-- The status an event feeds into the hysteresis; a reset feeds none. -/
def StreamEvent.status? : StreamEvent → Option ProbeStatus
  | result o => if o.status.isConclusive then some o.status else none
  | _ => none

/-- The statuses fed since the last reset, that is, after the last result that
was unsupported or not applicable, expiry, or enabling anew. -/
def sinceReset (events : List StreamEvent) : List ProbeStatus :=
  (events.rtakeWhile fun event => event.status?.isSome).filterMap StreamEvent.status?

@[simp] theorem sinceReset_nil : sinceReset [] = [] := rfl

theorem sinceReset_concat (events : List StreamEvent) (event : StreamEvent) :
    sinceReset (events ++ [event]) =
      event.status?.elim [] fun status => sinceReset events ++ [status] := by
  unfold sinceReset
  cases h : event.status? with
  | none => rw [List.rtakeWhile_concat_neg _ _ _ (by simp [h])]; rfl
  | some status =>
    rw [List.rtakeWhile_concat_pos _ _ _ (by simp [h]), List.filterMap_append]
    simp [h]

/-! ### Streams follow their history -/

/-- The stream is what the events made it: its debouncer was fed the statuses
since the last reset, it reports healthy only on the debouncer's word, and
nothing is known of it while it is expired. -/
structure StateStream.Follows (events : List StreamEvent) (s : StateStream) : Prop where
  sound : s.debouncer.policy.Sound
  fed : ∃ start, (start = .unknown ∨ start = .notApplicable) ∧
    s.debouncer = (Debouncer.startingAt s.debouncer.policy start).feed
      ((sinceReset events).map isBad)
  healthy : s.state.health = .healthy → s.debouncer.health = .healthy
  expired : s.expired = true → s.state.health = .unknown

theorem cap_eq_healthy {health : Health} {status : ProbeStatus}
    (h : cap health status = .healthy) : health = .healthy := by
  cases status <;> cases health <;> first | rfl | exact absurd h (by decide)

namespace StateStream

variable {s : StateStream} {events : List StreamEvent}

/-- A result folded in is one more event of the history. -/
theorem accept_follows {start : Health} (o : Observation)
    (hsound : s.debouncer.policy.Sound) (hstart : start = .unknown ∨ start = .notApplicable)
    (hfed : s.debouncer = (Debouncer.startingAt s.debouncer.policy start).feed
      ((sinceReset events).map isBad)) :
    (s.accept o).Follows (events ++ [.result o]) := by
  have hpolicy : (s.accept o).debouncer.policy = s.debouncer.policy := by
    rw [accept_debouncer, judge_policy]
  refine ⟨hpolicy ▸ hsound, ?_, fun hh => ?_, fun hexp => by cases hexp⟩
  · rw [hpolicy, sinceReset_concat, StreamEvent.status?]
    cases hc : o.status.isConclusive with
    | true =>
      refine ⟨start, hstart, ?_⟩
      rw [if_pos rfl, Option.elim_some, List.map_append, List.map_singleton,
        Debouncer.feed_concat, ← hfed, accept_debouncer, judge_of_isConclusive _ hc]
    | false =>
      obtain ⟨health, hhealth, hj⟩ := judge_of_not_isConclusive s.debouncer hc
      refine ⟨health, hhealth, ?_⟩
      rw [accept_debouncer, hj]
      rfl
  · rw [accept_health] at hh
    rw [accept_debouncer]
    cases hc : o.status.isConclusive with
    | true =>
      rw [judge_of_isConclusive _ hc] at hh ⊢
      exact cap_eq_healthy hh
    | false =>
      obtain ⟨health, hhealth, hj⟩ := judge_of_not_isConclusive s.debouncer hc
      rw [hj] at hh ⊢
      exact hh

theorem Follows.lapse (h : s.Follows events) {event : StreamEvent}
    (hreset : event.status? = none) : s.lapse.Follows (events ++ [event]) where
  sound := by rw [lapse_debouncer]; exact h.sound
  fed := by
    refine ⟨.unknown, Or.inl rfl, ?_⟩
    rw [sinceReset_concat, hreset, lapse_debouncer]
    rfl
  healthy := fun hh => by cases hh
  expired := fun _ => rfl

end StateStream

/-! ### The measuring engine -/

/-- The calls of a running engine: probes registered with thresholds that ask
for evidence, and measurements, expiry, retirement. -/
def EngineCall.Measuring : EngineCall → Prop
  | register _ mapping => mapping.policy.Sound
  | seedStreams _ _ => False
  | _ => True

/-- The engine, from the empty one, under proper measuring calls. -/
def measuringMachine : Machine StateEngine EngineCall where
  Init := fun engine => engine = .new
  step := fun engine call => (call.run engine).1
  Allowed := fun engine call => call.Proper engine ∧ call.Measuring

/-- The measuring engine with the history of every stream. -/
def measuringHistory : Machine (StateEngine × (StreamKey → List StreamEvent)) EngineCall :=
  measuringMachine.record fun engine call k => call.events engine k

namespace StateEngine

/-- What holds of a measuring engine and the histories of its streams. -/
structure FollowsHistory (engine : StateEngine) (history : StreamKey → List StreamEvent) :
    Prop where
  settled : engine.Settled
  sound : ∀ (probe : ProbeId) (mapping : ProbeMapping), engine.mappings[probe]? = some mapping →
    mapping.policy.Sound
  follows : ∀ (k : StreamKey) (s : StateStream), engine.streams[k]? = some s →
    s.Follows (history k)
  exists_stream : ∀ k, history k ≠ [] → ∃ s : StateStream, engine.streams[k]? = some s
  nil_of_none : ∀ k : StreamKey, engine.streams[k]? = none → history k = []

variable {engine : StateEngine} {history : StreamKey → List StreamEvent}

/-- Only a registration changes what a probe means. -/
theorem run_mappings (engine : StateEngine) (call : EngineCall) {probe : ProbeId}
    {mapping : ProbeMapping} (h : (call.run engine).1.mappings[probe]? = some mapping) :
    engine.mappings[probe]? = some mapping ∨ call = .register probe mapping := by
  cases call with
  | register probe' mapping' =>
    have hget : (engine.register probe' mapping').mappings[probe]? =
        if probe' = probe then some mapping' else engine.mappings[probe]? :=
      Std.ExtTreeMap.getElem?_insert_eq
    rw [EngineCall.run, hget] at h
    split at h
    · next hp => cases h; exact Or.inr (by rw [hp])
    · exact Or.inl h
  | setObservationCutoff cutoff => exact Or.inl h
  | ingest now o =>
    refine Or.inl ?_
    dsimp only [EngineCall.run, ingest] at h
    split at h <;> exact h
  | expire now at_ horizon =>
    rw [EngineCall.run, expire, recomputeAll_mappings] at h
    exact Or.inl h
  | setProbeEnabled now e probe' enabled =>
    refine Or.inl ?_
    dsimp only [EngineCall.run, setProbeEnabled] at h
    split at h
    · exact h
    · generalize (if enabled = true then _ else _ : Bool) = changed at h
      cases changed with
      | false => exact h
      | true =>
        have htoggle : (engine.toggle e probe' enabled).mappings = engine.mappings := by
          cases enabled <;> rfl
        rw [← htoggle]
        simp only [Bool.not_true, Bool.false_eq_true, if_false, recomputeRecorded] at h
        split at h <;> exact h
  | seedStreams now streams =>
    rw [EngineCall.run, seedStreams, recomputeAll_mappings] at h
    rw [putStreams_mappings] at h
    exact Or.inl h

/-- **Every measuring call keeps streams and histories together.** -/
theorem FollowsHistory.run (h : engine.FollowsHistory history) {call : EngineCall}
    (hproper : call.Proper engine) (hmeasuring : call.Measuring) :
    (call.run engine).1.FollowsHistory fun k => history k ++ call.events engine k where
  settled := h.settled.run hproper
  sound := by
    intro probe mapping hm
    rcases run_mappings engine call hm with hm | rfl
    · exact h.sound probe mapping hm
    · exact hmeasuring
  follows := by
    intro k s hs
    rcases call.streams_run engine k with ⟨hev, hsame⟩ | ⟨now, o, mapping, rfl, rfl, hm, hev, hnew⟩ |
        ⟨t, event, hevent, hev, ht, hnew⟩ | ⟨now, streams, t, earlier, rfl, -⟩
    · rw [hev, List.append_nil]
      exact h.follows k s (hsame ▸ hs)
    · rw [hev]
      rw [hnew] at hs
      cases hs
      cases hold : engine.streams[o.streamKey]? with
      | some t =>
        have hfor : engine.streamFor now mapping o = t := by rw [streamFor, hold]; rfl
        obtain ⟨start, hstart, hfed⟩ := (h.follows _ t hold).fed
        rw [hfor]
        exact StateStream.accept_follows o (h.follows _ t hold).sound hstart hfed
      | none =>
        have hfor : engine.streamFor now mapping o = .fresh now mapping
            (engine.starting now o.targetEntity mapping.component) o := by
          rw [streamFor, hold]; rfl
        rw [hfor, h.nil_of_none _ hold]
        exact StateStream.accept_follows o (h.sound _ mapping (mapping_of_gate (admits_eq_some.mp hm).1))
          (h.settled.starting now o.targetEntity mapping.component) rfl
    · rw [hev]
      rw [hnew] at hs
      cases hs
      exact (h.follows k t ht).lapse (by rcases hevent with rfl | rfl <;> rfl)
    · exact hmeasuring.elim
  exists_stream := by
    intro k hne
    rcases call.streams_run_or engine k with ⟨hev, hsame⟩ | hnew
    · rw [hev, List.append_nil] at hne
      rw [hsame]
      exact h.exists_stream k hne
    · exact hnew
  nil_of_none := by
    intro k hnone
    rcases call.streams_run_or engine k with ⟨hev, hsame⟩ | ⟨s, hnew⟩
    · rw [hev, List.append_nil]
      exact h.nil_of_none k (hsame ▸ hnone)
    · rw [hnew] at hnone; cases hnone

/-- **After every run every stream follows its history.** -/
theorem follows_run {log : List EngineCall}
    {state : StateEngine × (StreamKey → List StreamEvent)}
    (h : measuringHistory.Run log state) : state.1.FollowsHistory state.2 := by
  refine h.invariant (P := fun _ state => state.1.FollowsHistory state.2) ?_ ?_
  · rintro ⟨engine, history⟩ ⟨hinit, hnil⟩
    cases hinit
    cases hnil
    refine ⟨settled_new, ?_, ?_, fun k hne => absurd rfl hne, fun _ _ => rfl⟩
    · intro probe mapping hm; simp at hm
    · intro k s hs; simp at hs
  · rintro log ⟨engine, history⟩ call - hfollows ⟨hproper, hmeasuring⟩
    exact hfollows.run hproper hmeasuring

/-! ### What a healthy component rests on -/

section Healthy

variable {e : EntityId} {c : StateComponent}

/-- Where the component reads healthy, no contributor says anything worse. -/
theorem Settled.health_of_contributes (h : engine.Settled) (hh : engine.health e c = .healthy)
    {s : StateStream} (hs : engine.Contributes e c s) :
    s.state.health = .healthy ∨ s.state.health = .notApplicable := by
  have hworst := h.isWorst_health e c
  rw [hh] at hworst
  have hle := hworst.rank_le ⟨s, hs, rfl⟩
  revert hle
  cases s.state.health <;> decide

/-- Some contributor of a healthy component is healthy. -/
theorem Settled.exists_healthy (h : engine.Settled) (hh : engine.health e c = .healthy) :
    ∃ s, engine.Contributes e c s ∧ s.state.health = .healthy := by
  have hworst := h.isWorst_health e c
  rw [hh] at hworst
  rcases hworst with ⟨hmem, -⟩ | ⟨-, hd⟩
  · exact hmem
  · cases hd

/-- Where the component reads healthy, every probe that votes still has an
observer that reports: an expired stream nobody covers for would count, and it is
unknown. -/
theorem FollowsHistory.exists_unexpired (h : engine.FollowsHistory history)
    (hh : engine.health e c = .healthy) {s : StateStream} (hs : engine.Votes e c s) :
    ∃ other, engine.Votes e c other ∧ other.probe = s.probe ∧ other.expired = false ∧
      (other.state.health = .healthy ∨ other.state.health = .notApplicable) := by
  by_contra hnone
  have hexpired : ∀ other, engine.Votes e c other → other.probe = s.probe →
      other.expired = true := by
    intro other hother hp
    by_contra hexp
    rw [Bool.not_eq_true] at hexp
    refine hnone ⟨other, hother, hp, hexp, ?_⟩
    exact h.settled.health_of_contributes hh ⟨hother, fun hexp' => by rw [hexp] at hexp'; cases hexp'⟩
  have hcontributes : engine.Contributes e c s := ⟨hs, fun _ => hexpired⟩
  obtain ⟨k, hk⟩ := hs.1
  have hunknown := (h.follows k s hk).expired (hexpired s hs rfl)
  rcases h.settled.health_of_contributes hh hcontributes with heq | heq <;>
    rw [hunknown] at heq <;> cases heq

/-- A healthy stream has recovered since its last reset, and the recovery
stands. -/
theorem FollowsHistory.stands (h : engine.FollowsHistory history) {k : StreamKey}
    {s : StateStream} (hs : engine.streams[k]? = some s) (hh : s.state.health = .healthy) :
    (sinceReset (history k)).Stands (fun status => status = .ok)
      s.debouncer.policy.recoveryThreshold.toNat (fun status => status ≠ .ok)
      s.debouncer.policy.warningThreshold.toNat := by
  have hfollows := h.follows k s hs
  obtain ⟨start, hstart, hfed⟩ := hfollows.fed
  have hhealth := hfollows.healthy hh
  rw [hfed, Debouncer.health_feed_eq_healthy _ hfollows.sound
    (by rcases hstart with rfl | rfl <;> decide), List.stands_map] at hhealth
  have hok : (not ∘ isBad) = fun status => decide (status = .ok) := by
    funext status
    cases status <;> rfl
  rwa [hok] at hhealth

end Healthy

/-- **What a healthy component rests on, and that silence is not recovery.**

Where a component reads healthy, every enabled probe that ever had a stream for
it still has an unexpired one, no contributor is unknown, degraded or
unavailable, and some contributor was fed, since its last reset, enough
successes in a row that enough failures in a row have not answered.  And if an
expiry makes a component healthy, each stream it expired is covered for by
another observer of the same probe that is healthy or does not apply. -/
theorem healthy_rests_on_recovery {log : List EngineCall}
    (h : measuringHistory.Run log (engine, history)) :
    (∀ e c, engine.health e c = .healthy →
      (∀ (k : StreamKey) (mapping : ProbeMapping), history k ≠ [] → k.1 = e →
        engine.mappings[k.2.1]? = some mapping → mapping.component = c →
        engine.probeEnabled e k.2.1 = true →
        ∃ (k' : StreamKey) (s' : StateStream), engine.streams[k']? = some s' ∧ s'.entity = e ∧
          s'.component = c ∧ s'.probe = k.2.1 ∧ s'.expired = false) ∧
      (∀ s, engine.Contributes e c s → s.state.health ≠ .unknown ∧ s.state.health ≠ .degraded ∧
        s.state.health ≠ .unavailable) ∧
      ∃ s, engine.Contributes e c s ∧
        (sinceReset (history s.key)).Stands (fun status => status = .ok)
          s.debouncer.policy.recoveryThreshold.toNat (fun status => status ≠ .ok)
          s.debouncer.policy.warningThreshold.toNat) ∧
    ∀ now at_ horizon e c, engine.health e c ≠ .healthy →
      (engine.expire now at_ horizon).1.health e c = .healthy →
      ∀ (k : StreamKey) (s : StateStream), engine.streams[k]? = some s → s.entity = e →
        s.component = c → engine.silent at_ horizon s = true →
        ∃ (k' : StreamKey) (s' : StateStream), k' ≠ k ∧
          (engine.expire now at_ horizon).1.streams[k']? = some s' ∧ s'.entity = e ∧
          s'.component = c ∧ s'.probe = s.probe ∧ s'.expired = false ∧
          (s'.state.health = .healthy ∨ s'.state.health = .notApplicable) := by
  have hfollows : engine.FollowsHistory history := follows_run h
  refine ⟨fun e c hh => ⟨?_, fun s hs => ?_, ?_⟩, ?_⟩
  · rintro k mapping hne rfl hm rfl henabled
    obtain ⟨s, hs⟩ := hfollows.exists_stream k hne
    have hkey := hfollows.settled.keyed k s hs
    have hp : s.probe = k.2.1 := congrArg (fun k => k.2.1) hkey
    obtain ⟨m, hm', hc⟩ := hfollows.settled.registered k s hs
    rw [hp, hm, Option.some.injEq] at hm'
    obtain ⟨other, ⟨⟨k', hk'⟩, he, hc', -⟩, hp', hexp, -⟩ := hfollows.exists_unexpired hh
      ⟨⟨k, hs⟩, congrArg Prod.fst hkey, by rw [← hc, hm'], by rw [hp]; exact henabled⟩
    exact ⟨k', other, hk', he, hc', hp'.trans hp, hexp⟩
  · rcases hfollows.settled.health_of_contributes hh hs with heq | heq <;> rw [heq] <;> decide
  · obtain ⟨s, hs, hhealthy⟩ := hfollows.settled.exists_healthy hh
    obtain ⟨k, hk⟩ := hs.1.1
    have hkey := hfollows.settled.keyed k s hk
    exact ⟨s, hs, hkey ▸ hfollows.stands hk hhealthy⟩
  · intro now at_ horizon e c _ hh k s hs he hc hsilent
    -- the engine after the expiry is again one a run leads to
    have hproper : EngineCall.Proper engine (.expire now at_ horizon) := trivial
    have hafter := hfollows.run hproper trivial
    have hlapsed : (engine.expire now at_ horizon).1.streams[k]? = some s.lapse := by
      rw [expire, recomputeAll_streams, lapseWhere_streams, hs, Option.map_some, if_pos hsilent]
    have henabled : (engine.expire now at_ horizon).1.probeEnabled e s.probe = true := by
      rw [probeEnabled, expire, recomputeAll_disabled]
      simp only [silent, Bool.and_eq_true] at hsilent
      rw [← he]
      exact hsilent.1.1
    obtain ⟨other, ⟨⟨k', hk'⟩, he', hc', -⟩, hp', hexp, hhealth⟩ := hafter.exists_unexpired hh
      (s := s.lapse) ⟨⟨k, hlapsed⟩, he, hc, henabled⟩
    refine ⟨k', other, ?_, hk', he', hc', hp', hexp, hhealth⟩
    rintro rfl
    rw [EngineCall.run, hlapsed, Option.some.injEq] at hk'
    rw [← hk'] at hexp
    cases hexp

/-- Two successes of a default probe. -/
theorem healthy_rests_on_recovery_two_successes :
    let ok (n : ℕ) : Observation :=
      ⟨⟨⟨.ofNat 128 n⟩⟩, ⟨"network.tcp"⟩, ⟨⟨7⟩⟩, none, n, .ok, .null⟩
    let engine := (((StateEngine.new.register ⟨"network.tcp"⟩ (.new .network)).ingest 1
      (ok 1)).1.ingest 2 (ok 2)).1
    engine.health ⟨⟨7⟩⟩ .network = .healthy ∧
    ∀ s, engine.Contributes ⟨⟨7⟩⟩ .network s → s.state.health ≠ .unknown ∧
      s.state.health ≠ .degraded ∧ s.state.health ≠ .unavailable := by
  intro ok engine
  have hrun : ∃ history, measuringHistory.Run _ (engine, history) :=
    Machine.Run.exists_record (M := measuringMachine) _
      (.snoc (i := EngineCall.ingest 2 (ok 2))
        (.snoc (i := EngineCall.ingest 1 (ok 1))
          (.snoc (i := EngineCall.register ⟨"network.tcp"⟩ (.new .network)) (.init rfl)
            ⟨fun k s hs => by simp [StateEngine.new] at hs, DebouncePolicy.sound_default⟩)
          ⟨trivial, trivial⟩)
        ⟨trivial, trivial⟩)
  have hh : engine.health ⟨⟨7⟩⟩ .network = .healthy := by decide +kernel
  obtain ⟨history, hrun⟩ := hrun
  exact ⟨hh, ((healthy_rests_on_recovery hrun).1 _ _ hh).2.1⟩

end StateEngine

end Sentinel
