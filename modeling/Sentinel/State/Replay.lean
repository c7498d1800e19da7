import Sentinel.State.History

/-!
# Lists of observations, stream by stream

Folding a list of observations into an engine works on each stream as if the
observations of the other streams were not there, with one exception: what a new
stream starts from.  This file makes both precise.

## Main definitions

* `StateStream.replay`, `takenAfter`, `takenFresh` — a list of observations folded
  into one stream, and those of them it does not refuse.
* `judgeAll` — what a list of statuses makes of a debouncer and a report.
* `StateEngine.passing` — the observations of one stream that pass the gate.
* `StateEngine.Informs` — a stream of the list informs a component.

## Main results

* `StateStream.replay_judged` — a replayed stream is judged on what it took.
* `StateEngine.ingestAll_streams_of_some`, `StateEngine.ingestAll_streams_of_none`
  — the streams after a list, existing and new.
-/

namespace Sentinel

/-! ### One stream -/

/-- What a list of statuses makes of a debouncer and the health it reports. -/
def judgeAll (judged : Debouncer × Health) (statuses : List ProbeStatus) : Debouncer × Health :=
  statuses.foldl (fun judged status => StateStream.judge judged.1 status) judged

/-- The debouncer and report that statuses lead to from a starting health. -/
def judgedFrom (policy : DebouncePolicy) (start : Health) (statuses : List ProbeStatus) :
    Debouncer × Health :=
  judgeAll (.startingAt policy start, start) statuses

/-- The observations of a list that a stream takes whose last one is known: each
one that is not a repetition of the one taken before it, nor older. -/
def takenAfter (id : ObservationId) (finishedAt : Timestamp) : List Observation → List Observation
  | [] => []
  | o :: rest =>
    if id = o.id || o.finishedAt < finishedAt then takenAfter id finishedAt rest
    else o :: takenAfter o.id o.finishedAt rest

/-- The observations of a list that a new stream takes. -/
def takenFresh : List Observation → List Observation
  | [] => []
  | o :: rest => o :: takenAfter o.id o.finishedAt rest

namespace StateStream

/-- The debouncer of a stream and the health it reports. -/
def judged (s : StateStream) : Debouncer × Health := (s.debouncer, s.state.health)

/-- Fold a list of observations into a stream, oldest first, skipping those it
refuses. -/
def replay (s : StateStream) (observations : List Observation) : StateStream :=
  observations.foldl (fun s o => if s.refuses o then s else s.accept o) s

/-- The observations of a list that the stream does not refuse. -/
def taken (s : StateStream) (observations : List Observation) : List Observation :=
  takenAfter s.lastObservation s.finishedAt observations

@[simp] theorem replay_nil (s : StateStream) : s.replay [] = s := rfl

theorem replay_cons (s : StateStream) (o : Observation) (rest : List Observation) :
    s.replay (o :: rest) = (if s.refuses o then s else s.accept o).replay rest := rfl

@[simp] theorem accept_judged (s : StateStream) (o : Observation) :
    (s.accept o).judged = judge s.debouncer o.status := rfl

/-- **A replayed stream is judged on what it took.** -/
theorem replay_judged (observations : List Observation) :
    ∀ s : StateStream, (s.replay observations).judged =
      judgeAll s.judged ((s.taken observations).map Observation.status) := by
  induction observations with
  | nil => intro s; rfl
  | cons o rest ih =>
    intro s
    have htaken : s.taken (o :: rest) =
        if s.refuses o then s.taken rest else o :: (s.accept o).taken rest := rfl
    rw [replay_cons, htaken]
    split
    · exact ih s
    · rw [ih, accept_judged]; rfl

/-- A new stream is judged on what it takes of its observations. -/
theorem fresh_replay_judged (now : Timestamp) (mapping : ProbeMapping) (start : Health)
    (o : Observation) (rest : List Observation) :
    (((fresh now mapping start o).accept o).replay rest).judged =
      judgedFrom mapping.policy start ((takenFresh (o :: rest)).map Observation.status) := by
  rw [replay_judged]
  rfl

/-- What does not change in a stream. -/
theorem replay_frame (observations : List Observation) :
    ∀ s : StateStream, (s.replay observations).key = s.key ∧
      (s.replay observations).component = s.component := by
  induction observations with
  | nil => intro s; exact ⟨rfl, rfl⟩
  | cons o rest ih =>
    intro s
    rw [replay_cons]
    obtain ⟨hkey, hcomp⟩ := ih (if s.refuses o then s else s.accept o)
    rw [hkey, hcomp]
    split <;> exact ⟨rfl, rfl⟩

theorem replay_expired (observations : List Observation) :
    ∀ s : StateStream, s.expired = false → (s.replay observations).expired = false := by
  induction observations with
  | nil => intro s h; exact h
  | cons o rest ih =>
    intro s h
    rw [replay_cons]
    refine ih _ ?_
    split
    · exact h
    · rfl

end StateStream

/-- Observations in order of time, none of them a repetition, are all taken. -/
theorem takenAfter_eq_self (observations : List Observation) :
    ∀ {id : ObservationId} {finishedAt : Timestamp},
      (∀ o ∈ observations, id ≠ o.id ∧ finishedAt ≤ o.finishedAt) →
      observations.Pairwise (fun a b => a.id ≠ b.id ∧ a.finishedAt ≤ b.finishedAt) →
      takenAfter id finishedAt observations = observations := by
  induction observations with
  | nil => intro id finishedAt _ _; rfl
  | cons o rest ih =>
    intro id finishedAt hfirst hpair
    obtain ⟨hid, hle⟩ := hfirst o List.mem_cons_self
    rw [List.pairwise_cons] at hpair
    rw [takenAfter, if_neg (by simp [hid, hle]), ih hpair.1 hpair.2]

theorem takenFresh_eq_self {observations : List Observation}
    (h : observations.Pairwise (fun a b => a.id ≠ b.id ∧ a.finishedAt ≤ b.finishedAt)) :
    takenFresh observations = observations := by
  cases observations with
  | nil => rfl
  | cons o rest =>
    rw [List.pairwise_cons] at h
    rw [takenFresh, takenAfter_eq_self rest h.1 h.2]

/-! ### What a report rests on -/

section Report

variable {policy : DebouncePolicy} {start : Health} {statuses : List ProbeStatus}

theorem judgedFrom_concat (policy : DebouncePolicy) (start : Health)
    (statuses : List ProbeStatus) (status : ProbeStatus) :
    judgedFrom policy start (statuses ++ [status]) =
      StateStream.judge (judgedFrom policy start statuses).1 status := by
  rw [judgedFrom, judgeAll, List.foldl_append]
  rfl

/-- Conclusive statuses all go through the hysteresis, and the last one caps the
report. -/
theorem judgedFrom_of_conclusive (h : ∀ status ∈ statuses, status.isConclusive = true) :
    judgedFrom policy start statuses =
      ((Debouncer.startingAt policy start).feed (statuses.map isBad),
        statuses.getLast?.elim start
          (cap ((Debouncer.startingAt policy start).feed (statuses.map isBad)).health)) := by
  induction statuses using List.reverseRecOn with
  | nil => rfl
  | append_singleton statuses status ih =>
    have hstatus : status.isConclusive = true := h status (by simp)
    rw [judgedFrom_concat, ih fun st hst => h st (List.mem_append_left _ hst),
      StateStream.judge_of_isConclusive _ hstatus, List.map_append, List.map_singleton,
      Debouncer.feed_concat, List.getLast?_concat, Option.elim_some]

theorem four_le_cap {health : Health} {status : ProbeStatus} :
    4 ≤ (cap health status).severityRank ↔ 4 ≤ health.severityRank := by
  cases status <;> cases health <;> decide

theorem cap_eq_unavailable {health : Health} {status : ProbeStatus} :
    cap health status = .unavailable ↔ health = .unavailable ∧ status ≠ .degraded := by
  cases status <;> cases health <;> decide

/-- **A stream reports degraded or worse** exactly when enough bad results in a
row stand unanswered by a recovery. -/
theorem four_le_report (hp : policy.Sound) (hstart : start.severityRank < 4)
    (h : ∀ status ∈ statuses, status.isConclusive = true) :
    4 ≤ (judgedFrom policy start statuses).2.severityRank ↔
      statuses.Stands isBad policy.warningThreshold.toNat (fun status => !isBad status)
        policy.recoveryThreshold.toNat := by
  have hfeed := Debouncer.health_feed_bad (statuses.map isBad) hp hstart
  rw [List.stands_map] at hfeed
  rw [judgedFrom_of_conclusive h]
  cases hlast : statuses.getLast? with
  | none =>
    rw [List.getLast?_eq_none_iff] at hlast
    subst hlast
    exact iff_of_false (Nat.not_le.mpr hstart) (List.not_stands_nil hp.one_le_warning)
  | some last => exact four_le_cap.trans hfeed

/-- **A stream reports unavailable** exactly when enough bad results in a row for
an outage stand unanswered by a recovery, and the last result is not a degraded
one. -/
theorem report_eq_unavailable (hp : policy.Sound) (hstart : start.severityRank < 4)
    (h : ∀ status ∈ statuses, status.isConclusive = true) :
    (judgedFrom policy start statuses).2 = .unavailable ↔
      statuses.Stands isBad policy.criticalThreshold.toNat (fun status => !isBad status)
        policy.recoveryThreshold.toNat ∧ statuses.getLast? ≠ some .degraded := by
  have hne : start ≠ .unavailable := by rintro rfl; exact absurd hstart (by decide)
  have hfeed := Debouncer.health_feed_eq_unavailable (statuses.map isBad) hp hne
  rw [List.stands_map] at hfeed
  rw [judgedFrom_of_conclusive h]
  cases hlast : statuses.getLast? with
  | none =>
    rw [List.getLast?_eq_none_iff] at hlast
    subst hlast
    exact iff_of_false hne fun hs => List.not_stands_nil hp.one_le_critical hs.1
  | some last =>
    refine cap_eq_unavailable.trans (and_congr hfeed ?_)
    rw [ne_eq, ne_eq, Option.some.injEq]

end Report

/-! ### The engine -/

namespace StateEngine

variable {engine : StateEngine}

/-- The observations of one stream that pass the gate, with their clocks. -/
def passing (engine : StateEngine) (events : List (Timestamp × Observation)) (k : StreamKey) :
    List (Timestamp × Observation) :=
  events.filter fun event => event.2.streamKey = k && (engine.gate event.1 event.2).isSome

/-- The list has a stream that informs the component. -/
def Informs (engine : StateEngine) (events : List (Timestamp × Observation)) (e : EntityId)
    (c : StateComponent) (k : StreamKey) : Prop :=
  k.1 = e ∧ engine.passing events k ≠ [] ∧
    ∃ mapping : ProbeMapping, engine.mappings[k.2.1]? = some mapping ∧ mapping.component = c

/-- The statuses that a new stream takes of its observations. -/
def statusesOf (engine : StateEngine) (events : List (Timestamp × Observation)) (k : StreamKey) :
    List ProbeStatus :=
  (takenFresh ((engine.passing events k).map Prod.snd)).map Observation.status

/-- What a new stream ends with when it starts from a health. -/
def verdict (engine : StateEngine) (events : List (Timestamp × Observation)) (start : Health)
    (k : StreamKey) : Health :=
  match engine.mappings[k.2.1]? with
  | none => .notApplicable
  | some mapping => (judgedFrom mapping.policy start (engine.statusesOf events k)).2

/-- Ingesting writes streams and states and nothing else. -/
theorem ingest_frame (engine : StateEngine) (now : Timestamp) (o : Observation) :
    ∃ streams states, (engine.ingest now o).1 =
      { engine with streams := streams, states := states } := by
  unfold ingest
  split
  · exact ⟨engine.streams, engine.states, rfl⟩
  · exact ⟨_, _, rfl⟩

theorem ingest_gate (engine : StateEngine) (now : Timestamp) (o : Observation) :
    (engine.ingest now o).1.gate = engine.gate := by
  obtain ⟨streams, states, h⟩ := engine.ingest_frame now o
  rw [h]
  rfl

theorem ingestAll_cons (engine : StateEngine) (now : Timestamp) (o : Observation)
    (rest : List (Timestamp × Observation)) :
    (engine.ingestAll ((now, o) :: rest)).1 = ((engine.ingest now o).1.ingestAll rest).1 := rfl

theorem ingestAll_append (xs ys : List (Timestamp × Observation)) :
    ∀ engine : StateEngine,
      (engine.ingestAll (xs ++ ys)).1 = ((engine.ingestAll xs).1.ingestAll ys).1 := by
  induction xs with
  | nil => intro engine; rfl
  | cons x xs ih => intro engine; exact ih _

theorem ingestAll_frame (events : List (Timestamp × Observation)) :
    ∀ engine : StateEngine, ∃ streams states, (engine.ingestAll events).1 =
      { engine with streams := streams, states := states } := by
  induction events with
  | nil => intro engine; exact ⟨engine.streams, engine.states, rfl⟩
  | cons event rest ih =>
    intro engine
    obtain ⟨streams, states, h⟩ := engine.ingest_frame event.1 event.2
    obtain ⟨streams', states', h'⟩ := ih (engine.ingest event.1 event.2).1
    exact ⟨streams', states', h'.trans (by rw [h])⟩

theorem ingestAll_gate (events : List (Timestamp × Observation)) (engine : StateEngine) :
    (engine.ingestAll events).1.gate = engine.gate := by
  obtain ⟨streams, states, h⟩ := ingestAll_frame events engine
  rw [h]
  rfl

theorem Settled.ingestAll (events : List (Timestamp × Observation)) :
    ∀ {engine : StateEngine}, engine.Settled → (engine.ingestAll events).1.Settled := by
  induction events with
  | nil => intro engine h; exact h
  | cons event rest ih => intro engine h; exact ih (h.ingest event.1 event.2)

theorem passing_congr {engine' : StateEngine} (h : engine'.gate = engine.gate)
    (events : List (Timestamp × Observation)) (k : StreamKey) :
    engine'.passing events k = engine.passing events k := by
  unfold passing
  rw [h]

/-- What one call does to the streams: nothing to those of other keys, nothing at
all if the gate is closed. -/
theorem ingest_streams_of_ne {now : Timestamp} {o : Observation} {k : StreamKey}
    (h : o.streamKey ≠ k ∨ engine.gate now o = none) :
    (engine.ingest now o).1.streams[k]? = engine.streams[k]? := by
  cases hm : engine.admits now o with
  | none => rw [ingest, hm]
  | some mapping =>
    rw [ingest_streams_of_admits hm, if_neg]
    rintro rfl
    rcases h with h | h
    · exact h rfl
    · rw [(admits_eq_some.mp hm).1] at h; cases h

/-- An existing stream takes the observation unless it refuses it. -/
theorem ingest_streams_of_some {now : Timestamp} {o : Observation} {s : StateStream}
    (hs : engine.streams[o.streamKey]? = some s) (hgate : (engine.gate now o).isSome) :
    (engine.ingest now o).1.streams[o.streamKey]? =
      some (if s.refuses o then s else s.accept o) := by
  obtain ⟨mapping, hm⟩ := Option.isSome_iff_exists.mp hgate
  cases hr : s.refuses o with
  | true =>
    have hadmits : engine.admits now o = none := by
      rw [admits, hm, hs, Option.any_some, hr]; rfl
    rw [ingest, hadmits, hs]
    rfl
  | false =>
    have hadmits : engine.admits now o = some mapping := by
      rw [admits_eq_some]
      exact ⟨hm, fun t ht => by rw [hs] at ht; cases ht; exact hr⟩
    rw [ingest_streams_of_admits hadmits, if_pos rfl, streamFor, hs]
    rfl

/-- A new stream takes the first observation that passes the gate. -/
theorem ingest_streams_of_none {now : Timestamp} {o : Observation} {mapping : ProbeMapping}
    (hs : engine.streams[o.streamKey]? = none) (hm : engine.gate now o = some mapping) :
    (engine.ingest now o).1.streams[o.streamKey]? =
      some ((StateStream.fresh now mapping
        (engine.starting now o.targetEntity mapping.component) o).accept o) := by
  have hadmits : engine.admits now o = some mapping := by
    rw [admits_eq_some]
    exact ⟨hm, fun t ht => by rw [hs] at ht; cases ht⟩
  rw [ingest_streams_of_admits hadmits, if_pos rfl, streamFor, hs]
  rfl

theorem passing_cons_of_ne {now : Timestamp} {o : Observation} {k : StreamKey}
    (h : o.streamKey ≠ k ∨ engine.gate now o = none) (rest : List (Timestamp × Observation)) :
    engine.passing ((now, o) :: rest) k = engine.passing rest k := by
  refine List.filter_cons_of_neg ?_
  rcases h with h | h
  · simp [h]
  · simp [h]

theorem passing_cons_of_eq {now : Timestamp} {o : Observation}
    (h : (engine.gate now o).isSome) (rest : List (Timestamp × Observation)) :
    engine.passing ((now, o) :: rest) o.streamKey =
      (now, o) :: engine.passing rest o.streamKey := by
  exact List.filter_cons_of_pos (by simp [h])

/-- **An existing stream replays what passes the gate.** -/
theorem ingestAll_streams_of_some (events : List (Timestamp × Observation)) {k : StreamKey} :
    ∀ {engine : StateEngine} {s : StateStream}, engine.streams[k]? = some s →
      (engine.ingestAll events).1.streams[k]? =
        some (s.replay ((engine.passing events k).map Prod.snd)) := by
  induction events with
  | nil => intro engine s hs; exact hs
  | cons event rest ih =>
    obtain ⟨now, o⟩ := event
    intro engine s hs
    rw [ingestAll_cons]
    by_cases hk : o.streamKey = k ∧ (engine.gate now o).isSome
    · obtain ⟨rfl, hgate⟩ := hk
      rw [ih (ingest_streams_of_some hs hgate), passing_congr (ingest_gate engine now o),
        passing_cons_of_eq hgate]
      rfl
    · have hne : o.streamKey ≠ k ∨ engine.gate now o = none := by
        rcases not_and_or.mp hk with h | h
        · exact Or.inl h
        · exact Or.inr (by simpa using h)
      rw [ih ((ingest_streams_of_ne hne).trans hs), passing_congr (ingest_gate engine now o),
        passing_cons_of_ne hne]

/-- A stream without a passing observation does not come to be. -/
theorem ingestAll_streams_of_nil (events : List (Timestamp × Observation)) {k : StreamKey} :
    ∀ {engine : StateEngine}, engine.passing events k = [] →
      (engine.ingestAll events).1.streams[k]? = engine.streams[k]? := by
  induction events with
  | nil => intro engine _; rfl
  | cons event rest ih =>
    obtain ⟨now, o⟩ := event
    intro engine hnil
    have hne : o.streamKey ≠ k ∨ engine.gate now o = none := by
      by_contra h
      rw [not_or, not_not, ← ne_eq, Option.ne_none_iff_isSome] at h
      obtain ⟨rfl, h⟩ := h
      rw [passing_cons_of_eq h] at hnil
      cases hnil
    rw [passing_cons_of_ne hne] at hnil
    rw [ingestAll_cons, ih ((passing_congr (ingest_gate engine now o) rest k).trans hnil),
      ingest_streams_of_ne hne]

/-- **A new stream is created for its first passing observation**, from what the
engine then says it starts from, and replays the others. -/
theorem ingestAll_streams_of_none (events : List (Timestamp × Observation)) {k : StreamKey} :
    ∀ {engine : StateEngine} {now : Timestamp} {o : Observation}
      {rest : List (Timestamp × Observation)}, engine.streams[k]? = none →
      engine.passing events k = (now, o) :: rest →
      ∃ before after mapping, events = before ++ (now, o) :: after ∧
        engine.passing before k = [] ∧ engine.gate now o = some mapping ∧ o.streamKey = k ∧
        (engine.ingestAll events).1.streams[k]? = some (((StateStream.fresh now mapping
          ((engine.ingestAll before).1.starting now o.targetEntity mapping.component)
            o).accept o).replay (rest.map Prod.snd)) := by
  intro engine now o rest hs hpass
  obtain ⟨before, after, rfl, hbefore, hafter⟩ :
      ∃ before after, events = before ++ (now, o) :: after ∧ engine.passing before k = [] ∧
        engine.passing after k = rest := by
    obtain ⟨before, after, hevents, hnone, -, hrest⟩ := List.filter_eq_cons_iff.mp hpass
    exact ⟨before, after, hevents, List.filter_eq_nil_iff.mpr hnone, hrest⟩
  have hmem : (now, o) ∈ engine.passing (before ++ (now, o) :: after) k := by
    rw [hpass]; exact List.mem_cons_self
  obtain ⟨-, hkey⟩ := List.mem_filter.mp hmem
  obtain ⟨hkey, hgate⟩ : o.streamKey = k ∧ (engine.gate now o).isSome := by simpa using hkey
  obtain ⟨mapping, hm⟩ := Option.isSome_iff_exists.mp hgate
  subst hkey
  refine ⟨before, after, mapping, rfl, hbefore, hm, rfl, ?_⟩
  have hgates := ingestAll_gate before engine
  have hgate' : (engine.ingestAll before).1.gate now o = some mapping := by rw [hgates]; exact hm
  have hcreated := ingest_streams_of_none ((ingestAll_streams_of_nil before hbefore).trans hs) hgate'
  rw [ingestAll_append, ingestAll_cons, ingestAll_streams_of_some after hcreated,
    passing_congr ((ingest_gate _ now o).trans hgates), hafter]

/-! ### From registered probes and nothing else -/

/-- An engine that knows what its probes mean and nothing else. -/
def ofMappings (mappings : Std.ExtTreeMap ProbeId ProbeMapping) : StateEngine :=
  { StateEngine.new with mappings := mappings }

theorem settled_ofMappings (mappings : Std.ExtTreeMap ProbeId ProbeMapping) :
    (ofMappings mappings).Settled := by
  refine Settled.of_same_votes settled_new ?_ rfl rfl rfl
  intro k s hs
  simp [new] at hs

@[simp] theorem ofMappings_streams (mappings : Std.ExtTreeMap ProbeId ProbeMapping)
    (k : StreamKey) : (ofMappings mappings).streams[k]? = none := by
  simp [ofMappings, new]

/-- With nothing disabled and no cutoff, results of health probes pass the gate
unless they are from the future. -/
theorem gate_ofMappings {mappings : Std.ExtTreeMap ProbeId ProbeMapping} {now : Timestamp}
    {o : Observation} {mapping : ProbeMapping} (hm : mappings[o.probeId]? = some mapping)
    (hinf : mapping.informational = false) (hpast : o.finishedAt ≤ now + maxFutureSkew) :
    (ofMappings mappings).gate now o = some mapping := by
  have hmapping : (ofMappings mappings).mappings[o.probeId]? = some mapping := hm
  rw [gate, if_neg (by simp [probeEnabled, ofMappings, new]), if_neg (not_lt.mpr hpast), hmapping]
  simp only [hinf, Bool.false_eq_true, if_false]

variable {mappings : Std.ExtTreeMap ProbeId ProbeMapping}
  {events : List (Timestamp × Observation)} {e : EntityId} {c : StateComponent} {k : StreamKey}

theorem key_of_mem_passing {event : Timestamp × Observation}
    (h : event ∈ engine.passing events k) :
    event ∈ events ∧ event.2.streamKey = k ∧ (engine.gate event.1 event.2).isSome := by
  obtain ⟨hmem, hp⟩ := List.mem_filter.mp h
  exact ⟨hmem, by simpa using hp⟩

/-- A list that ends earlier informs less. -/
theorem Informs.append_right (h : engine.Informs events e c k)
    (more : List (Timestamp × Observation)) : engine.Informs (events ++ more) e c k := by
  refine ⟨h.1, fun hnil => h.2.1 ?_, h.2.2⟩
  rw [passing, List.filter_append] at hnil
  exact (List.append_eq_nil_iff.mp hnil).1

/-- **The streams after a list**, from registered probes only: one for each key
with a passing observation, judged on its own statuses, from a start that depends
on what came before its first one. -/
theorem stream_of_informs (h : (ofMappings mappings).Informs events e c k) :
    ∃ (s : StateStream) (start : Health) (before after : List (Timestamp × Observation))
      (event : Timestamp × Observation),
      ((ofMappings mappings).ingestAll events).1.streams[k]? = some s ∧ s.entity = e ∧
      s.component = c ∧ s.expired = false ∧
      s.state.health = (ofMappings mappings).verdict events start k ∧
      start = ((ofMappings mappings).ingestAll before).1.starting event.1 e c ∧
      events = before ++ event :: after ∧ event.2.streamKey = k ∧
      ((ofMappings mappings).gate event.1 event.2).isSome ∧
      (ofMappings mappings).passing before k = [] := by
  obtain ⟨he, hne, mapping, hm, hc⟩ := h
  cases hpass : (ofMappings mappings).passing events k with
  | nil => exact absurd hpass hne
  | cons event rest =>
    obtain ⟨now, o⟩ := event
    obtain ⟨before, after, mapping', hevents, hbefore, hgate, hkey, hs⟩ :=
      ingestAll_streams_of_none events (ofMappings_streams mappings k) hpass
    have hprobe : o.probeId = k.2.1 := congrArg (fun k => k.2.1) hkey
    have htarget : o.targetEntity = e := (congrArg Prod.fst hkey).trans he
    obtain rfl : mapping = mapping' := by
      have hm' := mapping_of_gate hgate
      rw [hprobe, hm, Option.some.injEq] at hm'
      exact hm'
    rw [htarget, hc] at hs
    refine ⟨_, _, before, after, (now, o), hs, ?_, ?_, ?_, ?_, rfl, hevents, hkey, by simp [hgate],
      hbefore⟩
    · exact (congrArg Prod.fst (StateStream.replay_frame _ _).1).trans htarget
    · exact (StateStream.replay_frame _ _).2.trans hc
    · exact StateStream.replay_expired _ _ rfl
    · rw [verdict, hm, statusesOf, hpass]
      exact congrArg Prod.snd (StateStream.fresh_replay_judged now mapping _ o (rest.map Prod.snd))

/-- Every stream after a list informs its component. -/
theorem informs_of_stream {s : StateStream}
    (hs : ((ofMappings mappings).ingestAll events).1.streams[k]? = some s) :
    (ofMappings mappings).Informs events s.entity s.component k := by
  have hsettled := (settled_ofMappings mappings).ingestAll events
  have hkey := hsettled.keyed k s hs
  have hne : (ofMappings mappings).passing events k ≠ [] := by
    intro hnil
    rw [ingestAll_streams_of_nil events hnil, ofMappings_streams] at hs
    cases hs
  obtain ⟨mapping, hm, hc⟩ := hsettled.registered k s hs
  obtain ⟨streams, states, hframe⟩ := ingestAll_frame events (ofMappings mappings)
  rw [hframe, show s.probe = k.2.1 from congrArg (fun k => k.2.1) hkey] at hm
  exact ⟨(congrArg Prod.fst hkey).symm, hne, mapping, hm, hc⟩

/-- What the stream starts from: `notApplicable` if none before it in the list
informs the component, `unknown` if one does. -/
def Starts (engine : StateEngine) (events : List (Timestamp × Observation)) (e : EntityId)
    (c : StateComponent) (k : StreamKey) (start : Health) : Prop :=
  ∃ (before after : List (Timestamp × Observation)) (event : Timestamp × Observation),
    events = before ++ event :: after ∧ event.2.streamKey = k ∧
    (engine.gate event.1 event.2).isSome ∧ engine.passing before k = [] ∧
    ((start = .unknown ∧ ∃ j, engine.Informs before e c j) ∨
      (start = .notApplicable ∧ ∀ j, ¬ engine.Informs before e c j))

theorem starting_ingestAll (before : List (Timestamp × Observation)) (now : Timestamp)
    (e : EntityId) (c : StateComponent) :
    (((ofMappings mappings).ingestAll before).1.starting now e c = .unknown ∧
      ∃ j, (ofMappings mappings).Informs before e c j) ∨
    (((ofMappings mappings).ingestAll before).1.starting now e c = .notApplicable ∧
      ∀ j, ¬ (ofMappings mappings).Informs before e c j) := by
  have hsettled := (settled_ofMappings mappings).ingestAll before
  by_cases hex : ∃ j, (ofMappings mappings).Informs before e c j
  · refine Or.inl ⟨?_, hex⟩
    obtain ⟨j, hj⟩ := hex
    obtain ⟨s, -, -, -, -, hs, he, hc, -⟩ := stream_of_informs hj
    rw [starting, if_pos]
    exact List.any_eq_true.mpr ⟨s, Std.ExtTreeMap.mem_vals.mpr ⟨j, hs⟩, by simp [he, hc]⟩
  · refine Or.inr ⟨?_, not_exists.mp hex⟩
    rw [starting, if_neg, component_stateOrUnknown]
    · by_contra hne
      obtain ⟨r, hr⟩ := recorded_of_health_ne hne
      obtain ⟨j, s, hs, rfl, rfl⟩ := hsettled.stream_of_recorded e c r hr
      exact hex ⟨j, informs_of_stream hs⟩
    · intro hany
      obtain ⟨s, hmem, hs⟩ := List.any_eq_true.mp hany
      obtain ⟨j, hj⟩ := Std.ExtTreeMap.mem_vals.mp hmem
      obtain ⟨rfl, rfl⟩ : s.entity = e ∧ s.component = c := by simpa using hs
      exact hex ⟨j, informs_of_stream hj⟩

/-- From registered probes only, every stream of a list contributes. -/
theorem contributes_ingestAll {s : StateStream} :
    ((ofMappings mappings).ingestAll events).1.Contributes e c s ↔
      ∃ k, ((ofMappings mappings).ingestAll events).1.streams[k]? = some s ∧
        (ofMappings mappings).Informs events e c k := by
  constructor
  · rintro ⟨⟨⟨k, hs⟩, rfl, rfl, -⟩, -⟩
    exact ⟨k, hs, informs_of_stream hs⟩
  · rintro ⟨k, hs, hinf⟩
    obtain ⟨t, -, -, -, -, ht, he, hc, hexp, -⟩ := stream_of_informs hinf
    obtain rfl : s = t := Option.some.inj (hs.symm.trans ht)
    refine ⟨⟨⟨k, hs⟩, he, hc, ?_⟩, fun h => by rw [hexp] at h; cases h⟩
    obtain ⟨streams, states, hframe⟩ := ingestAll_frame events (ofMappings mappings)
    rw [probeEnabled, hframe]
    simp [ofMappings, new]

/-- Every contribution after a list is the verdict of one of its streams. -/
theorem verdict_of_contributed {h : Health}
    (hh : h ∈ ((ofMappings mappings).ingestAll events).1.contributed e c) :
    ∃ k start, (ofMappings mappings).Informs events e c k ∧
      (ofMappings mappings).Starts events e c k start ∧
      h = (ofMappings mappings).verdict events start k := by
  obtain ⟨s, hs, rfl⟩ := hh
  obtain ⟨k, hk, hinf⟩ := contributes_ingestAll.mp hs
  obtain ⟨t, start, before, after, event, ht, -, -, -, hhealth, hstart, hevents, hkey, hgate,
    hnil⟩ := stream_of_informs hinf
  obtain rfl : s = t := Option.some.inj (hk.symm.trans ht)
  refine ⟨k, start, hinf, ⟨before, after, event, hevents, hkey, hgate, hnil, ?_⟩, hhealth⟩
  rw [hstart]
  exact starting_ingestAll before event.1 e c

/-- Every stream of a list contributes its verdict. -/
theorem contributed_of_informs (hinf : (ofMappings mappings).Informs events e c k) :
    ∃ start, (ofMappings mappings).Starts events e c k start ∧
      (ofMappings mappings).verdict events start k ∈
        ((ofMappings mappings).ingestAll events).1.contributed e c := by
  obtain ⟨s, start, before, after, event, hs, -, -, -, hhealth, hstart, hevents, hkey, hgate,
    hnil⟩ := stream_of_informs hinf
  refine ⟨start, ⟨before, after, event, hevents, hkey, hgate, hnil, ?_⟩, s,
    contributes_ingestAll.mpr ⟨k, hs, hinf⟩, hhealth⟩
  rw [hstart]
  exact starting_ingestAll before event.1 e c

end StateEngine

end Sentinel
