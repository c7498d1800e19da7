import Sentinel.Agent.Spool
import Sentinel.Lib.Records
import Sentinel.State.Interleaving

/-!
# Replaying a spool

After an outage of the controller the spool is handed out by priority, failures
first, and by time within a priority.  A stream of the engine takes no observation
older than its newest one, so a success that lies before a failure is passed over:
the failure came first.

This file says what replay amounts to.  Whatever the batches, every stream ends as
if the observations had been ingested live, in order of time, less those that a
later one of their stream with a higher priority overtakes.

## Main definitions

* `Spool.liveKey` — the order of time.
* `Spool.unovertaken` — the observations that no later one overtakes.
* `StateStream.Matches` — two streams that agree, but for the start of an undecided
  one.

## Main results

* `StateStream.replay_eq_foldl_taken` — a replay accepts what the stream takes.
* `records_sortBy_replayKey` — what replay order leaves of a stream's observations.
* `StateEngine.replay_matches_live` — replay, stream by stream.
* `StateEngine.replay_diverges_from_live` — replay and live ingestion of the same
  observations differ.
-/

namespace Sentinel

/-! ### What a stream takes -/

namespace StateStream

/-- A replay accepts what the stream takes, one after the other. -/
theorem replay_eq_foldl_taken (observations : List Observation) :
    ∀ s : StateStream, s.replay observations = (s.taken observations).foldl accept s := by
  induction observations with
  | nil => intro s; rfl
  | cons o rest ih =>
    intro s
    have htaken : s.taken (o :: rest) =
        if s.refuses o then s.taken rest else o :: (s.accept o).taken rest := rfl
    rw [replay_cons, htaken]
    split
    · exact ih s
    · exact ih (s.accept o)

theorem fresh_replay_eq_foldl (now : Timestamp) (mapping : ProbeMapping) (start : Health)
    (o : Observation) (rest : List Observation) :
    ((fresh now mapping start o).accept o).replay rest =
      (takenFresh (o :: rest)).foldl accept (fresh now mapping start o) :=
  replay_eq_foldl_taken rest _

theorem exists_foldl_accept (s : StateStream) {taken : List Observation} (hne : taken ≠ []) :
    ∃ s' : StateStream, taken.foldl accept s = s'.accept (taken.getLast hne) := by
  refine ⟨taken.dropLast.foldl accept s, ?_⟩
  nth_rewrite 1 [← List.dropLast_append_getLast hne]
  rw [List.foldl_append, List.foldl_cons, List.foldl_nil]

theorem foldl_accept_judged (taken : List Observation) :
    ∀ s : StateStream, (taken.foldl accept s).judged =
      judgeAll s.judged (taken.map Observation.status) := by
  induction taken with
  | nil => intro s; rfl
  | cons o rest ih => intro s; exact ih (s.accept o)

theorem foldl_accept_frame (taken : List Observation) :
    ∀ s : StateStream, (taken.foldl accept s).key = s.key ∧
      (taken.foldl accept s).component = s.component := by
  induction taken with
  | nil => intro s; exact ⟨rfl, rfl⟩
  | cons o rest ih => intro s; exact ih (s.accept o)

end StateStream

/-- Observations of distinct identifiers are only kept out by their time. -/
theorem takenAfter_eq_records (observations : List Observation) :
    ∀ {id : ObservationId} {finishedAt : Timestamp}, (∀ o ∈ observations, id ≠ o.id) →
      (observations.map Observation.id).Nodup →
      takenAfter id finishedAt observations =
        observations.records Observation.finishedAt finishedAt := by
  induction observations with
  | nil => intro id finishedAt _ _; rfl
  | cons o rest ih =>
    intro id finishedAt hid hnodup
    rw [List.map_cons, List.nodup_cons] at hnodup
    have hrest : ∀ a ∈ rest, o.id ≠ a.id := fun a ha h =>
      hnodup.1 (h ▸ List.mem_map_of_mem ha)
    rw [takenAfter, List.records]
    simp only [hid o List.mem_cons_self, decide_false, Bool.false_or, decide_eq_true_eq,
      WithBot.coe_lt_coe]
    split
    · exact ih (fun a ha => hid a (List.mem_cons_of_mem _ ha)) hnodup.2
    · rw [ih hrest hnodup.2]

theorem takenFresh_eq_nil {observations : List Observation} :
    takenFresh observations = [] ↔ observations = [] := by
  cases observations <;> simp [takenFresh]

theorem takenFresh_eq_records {observations : List Observation}
    (hnodup : (observations.map Observation.id).Nodup) :
    takenFresh observations = observations.records Observation.finishedAt ⊥ := by
  cases observations with
  | nil => rfl
  | cons o rest =>
    rw [List.map_cons, List.nodup_cons] at hnodup
    rw [takenFresh, List.records, if_neg not_lt_bot, takenAfter_eq_records rest ?_ hnodup.2]
    exact fun a ha h => hnodup.1 (h ▸ List.mem_map_of_mem ha)

/-! ### Replay order and order of time -/

/-- Order of time; of observations that finished together, the one of higher
priority comes first. -/
def Spool.liveKey (o : Observation) : ℤ ×ₗ ℤ ×ₗ ObservationId :=
  toLex (o.finishedAt, toLex (-priorityOf o, o.id))

theorem Spool.id_of_liveKey {a b : Observation} (h : Spool.liveKey a = Spool.liveKey b) :
    a.id = b.id :=
  congrArg (fun k => (ofLex (ofLex k).2).2) h

theorem replayKey_le {a b : Observation} (h : Spool.replayKey a ≤ Spool.replayKey b) :
    priorityOf b < priorityOf a ∨ (priorityOf b = priorityOf a ∧ (a.finishedAt < b.finishedAt ∨
      (a.finishedAt = b.finishedAt ∧ a.id ≤ b.id))) := by
  rw [Spool.replayKey, Spool.replayKey, Prod.Lex.toLex_le_toLex, Prod.Lex.toLex_le_toLex] at h
  simp only at h
  rcases h with h | ⟨h, h'⟩
  · exact Or.inl (by omega)
  · exact Or.inr ⟨by omega, h'⟩

theorem liveKey_le {a b : Observation}
    (h : a.finishedAt < b.finishedAt ∨ (a.finishedAt = b.finishedAt ∧
      (priorityOf b < priorityOf a ∨ (priorityOf b = priorityOf a ∧ a.id ≤ b.id)))) :
    Spool.liveKey a ≤ Spool.liveKey b := by
  rw [Spool.liveKey, Spool.liveKey, Prod.Lex.toLex_le_toLex, Prod.Lex.toLex_le_toLex]
  simp only
  rcases h with h | ⟨h, h' | ⟨h', hid⟩⟩
  · exact Or.inl h
  · exact Or.inr ⟨h, Or.inl (by omega)⟩
  · exact Or.inr ⟨h, Or.inr ⟨by omega, hid⟩⟩

theorem liveKey_time {a b : Observation} (h : Spool.liveKey a ≤ Spool.liveKey b) :
    a.finishedAt ≤ b.finishedAt := by
  rw [Spool.liveKey, Spool.liveKey, Prod.Lex.toLex_le_toLex] at h
  rcases h with h | ⟨h, -⟩
  · exact h.le
  · exact h.le

section Order

variable {observations : List Observation}

/-- Whether no observation of the list overtakes this one. -/
def clear (observations : List Observation) (o : Observation) : Bool :=
  ¬ observations.Overtaken Observation.finishedAt priorityOf o

/-- Without the overtaken ones, replay order is the order of time. -/
theorem filter_clear_sortBy (hnodup : (observations.map Observation.id).Nodup) :
    (observations.sortBy Spool.replayKey).filter (clear observations) =
      (observations.filter (clear observations)).sortBy Spool.liveKey := by
  refine (List.sortBy_eq_of_perm ?_ ((List.perm_sortBy _ _).filter _) ?_).symm
  · intro a ha b hb h
    exact List.inj_on_of_nodup_map hnodup (List.mem_of_mem_filter ha) (List.mem_of_mem_filter hb)
      (Spool.id_of_liveKey h)
  · rw [List.pairwise_filter]
    refine (List.pairwise_sortBy Spool.replayKey observations).imp_of_mem ?_
    intro a b ha _ hab _ hb
    refine liveKey_le ?_
    rcases replayKey_le hab with hprio | ⟨hprio, htime | ⟨htime, hid⟩⟩
    · -- the later one in replay order is not overtaken by the earlier one
      have hnot : ¬ b.finishedAt < a.finishedAt := fun hlt =>
        of_decide_eq_true hb ⟨a, List.mem_sortBy.mp ha, hprio, hlt⟩
      rcases (not_lt.mp hnot).lt_or_eq with hlt | heq
      · exact Or.inl hlt
      · exact Or.inr ⟨heq, Or.inl hprio⟩
    · exact Or.inl htime
    · exact Or.inr ⟨htime, Or.inr ⟨hprio, hid⟩⟩

/-- **What replay order leaves of a stream's observations**: those that are not
overtaken, in order of time. -/
theorem records_sortBy_replayKey (hnodup : (observations.map Observation.id).Nodup)
    (bound : WithBot Timestamp) :
    (observations.sortBy Spool.replayKey).records Observation.finishedAt bound =
      ((observations.filter (clear observations)).sortBy Spool.liveKey).records
        Observation.finishedAt bound := by
  have hsorted : ((observations.filter (clear observations)).sortBy Spool.liveKey).Pairwise
      (fun a b => a.finishedAt ≤ b.finishedAt) :=
    (List.pairwise_sortBy Spool.liveKey _).imp liveKey_time
  have hreplay : (observations.sortBy Spool.replayKey).Pairwise (fun a b =>
      priorityOf b < priorityOf a ∨ (priorityOf b = priorityOf a ∧
        a.finishedAt ≤ b.finishedAt)) := by
    refine (List.pairwise_sortBy Spool.replayKey observations).imp fun {a b} hab => ?_
    rcases replayKey_le hab with h | ⟨h, h' | ⟨h', -⟩⟩
    · exact Or.inl h
    · exact Or.inr ⟨h, h'.le⟩
    · exact Or.inr ⟨h, h'.le⟩
  have hover : ∀ o, (observations.sortBy Spool.replayKey).Overtaken Observation.finishedAt
      priorityOf o ↔ observations.Overtaken Observation.finishedAt priorityOf o := by
    intro o
    simp only [List.Overtaken, List.mem_sortBy]
  rw [List.records_of_sorted _ hsorted, ← filter_clear_sortBy hnodup, List.filter_filter,
    List.records_of_prioritized _ hreplay]
  refine List.filter_congr fun o _ => ?_
  simp only [clear, hover, Bool.decide_and]

end Order

/-! ### What passes the gate -/

/-- The observations that no later one of their stream with a higher priority
overtakes; one dated ahead of the clock it is ingested at overtakes none. -/
def Spool.unovertaken (spool : Spool) (clock : Observation → Timestamp) : List Observation :=
  spool.rows.filter fun o =>
    clear (spool.rows.filter fun other =>
      other.streamKey = o.streamKey && other.finishedAt ≤ clock other + maxFutureSkew) o

namespace StateEngine

variable {engine : StateEngine}

/-- Observations with the clock each is ingested at. -/
def stamped (clock : Observation → Timestamp) (observations : List Observation) :
    List (Timestamp × Observation) :=
  observations.map fun o => (clock o, o)

/-- Whether an observation belongs to a stream and passes the gate at its clock. -/
def counts (engine : StateEngine) (clock : Observation → Timestamp) (k : StreamKey)
    (o : Observation) : Bool :=
  o.streamKey = k && (engine.gate (clock o) o).isSome

theorem passing_stamped (clock : Observation → Timestamp) (observations : List Observation)
    (k : StreamKey) :
    (engine.passing (stamped clock observations) k).map Prod.snd =
      observations.filter (engine.counts clock k) := by
  rw [passing, stamped, List.filter_map, List.map_map]
  exact List.map_id _

/-- What lets an observation pass the gate. -/
theorem gate_isSome_iff {now : Timestamp} {o : Observation} :
    (engine.gate now o).isSome ↔
      engine.probeEnabled o.targetEntity o.probeId = true ∧
      (∀ cutoff, engine.observationCutoff = some cutoff → cutoff ≤ o.finishedAt) ∧
      o.finishedAt ≤ now + maxFutureSkew ∧
      ∃ mapping : ProbeMapping, engine.mappings[o.probeId]? = some mapping ∧
        mapping.informational = false := by
  have hcutoff : engine.observationCutoff.any (fun cutoff => decide (o.finishedAt < cutoff)) = false
      ↔ ∀ cutoff, engine.observationCutoff = some cutoff → cutoff ≤ o.finishedAt := by
    cases engine.observationCutoff <;> simp
  rw [← hcutoff, gate]
  split
  · next h => grind
  split
  · next h => grind
  cases engine.mappings[o.probeId]? with
  | none => simp
  | some mapping => cases hinf : mapping.informational <;> grind

/-- The gate lets a later observation of the same stream pass, unless it is from
the future. -/
theorem gate_isSome_of_later {now now' : Timestamp} {o other : Observation}
    (h : (engine.gate now o).isSome) (hkey : other.streamKey = o.streamKey)
    (hlater : o.finishedAt ≤ other.finishedAt)
    (hpast : other.finishedAt ≤ now' + maxFutureSkew) : (engine.gate now' other).isSome := by
  have htarget : other.targetEntity = o.targetEntity := congrArg Prod.fst hkey
  have hprobe : other.probeId = o.probeId := congrArg (fun k => k.2.1) hkey
  rw [gate_isSome_iff] at h ⊢
  obtain ⟨henabled, hcutoff, -, hmapping⟩ := h
  rw [htarget, hprobe]
  exact ⟨henabled, fun cutoff hc => (hcutoff cutoff hc).trans hlater, hpast, hmapping⟩

section Sides

variable {spool : Spool} {live replay : Observation → Timestamp}

/-- Of a stream's observations, the overtaken ones are those that one of its own
overtakes which passes the gate. -/
theorem filter_unovertaken (k : StreamKey) :
    (spool.unovertaken replay).filter (engine.counts replay k) =
      (spool.rows.filter (engine.counts replay k)).filter
        (clear (spool.rows.filter (engine.counts replay k))) := by
  rw [Spool.unovertaken, List.filter_filter, List.filter_filter]
  refine List.filter_congr fun o _ => ?_
  cases ho : engine.counts replay k o with
  | false => rw [Bool.false_and, Bool.and_false]
  | true =>
    rw [Bool.true_and, Bool.and_true]
    obtain ⟨rfl, hgate⟩ : o.streamKey = k ∧ (engine.gate (replay o) o).isSome := by
      simpa [counts] using ho
    refine decide_eq_decide.mpr (not_congr ?_)
    simp only [List.Overtaken, List.mem_filter, counts, Bool.and_eq_true, decide_eq_true_eq]
    constructor
    · rintro ⟨other, ⟨hmem, hkey, hpast⟩, hprio, hlater⟩
      exact ⟨other, ⟨hmem, hkey, gate_isSome_of_later hgate hkey hlater.le hpast⟩, hprio, hlater⟩
    · rintro ⟨other, ⟨hmem, hkey, hother⟩, hprio, hlater⟩
      exact ⟨other, ⟨hmem, hkey, (gate_isSome_iff.mp hother).2.2.1⟩, hprio, hlater⟩

/-- The observations of a stream, as replay hands them out. -/
theorem passing_replayed {limits : List ℕ} (hdrained : (spool.leftAfter limits).rows = [])
    (k : StreamKey) :
    (engine.passing (stamped replay (spool.handedOut limits)) k).map Prod.snd =
      (spool.rows.filter (engine.counts replay k)).sortBy Spool.replayKey := by
  rw [passing_stamped, Spool.handedOut_eq hdrained, List.filter_sortBy spool.replayKey_injOn]

/-- The observations of a stream that are not overtaken, in order of time. -/
theorem passing_live
    (hclock : ∀ o ∈ spool.rows, o.finishedAt ≤ live o + maxFutureSkew ↔
      o.finishedAt ≤ replay o + maxFutureSkew) (k : StreamKey) :
    (engine.passing (stamped live ((spool.unovertaken replay).sortBy Spool.liveKey)) k).map
        Prod.snd =
      ((spool.rows.filter (engine.counts replay k)).filter
        (clear (spool.rows.filter (engine.counts replay k)))).sortBy Spool.liveKey := by
  have hmem : ∀ o ∈ spool.unovertaken replay, o ∈ spool.rows := fun o ho =>
    List.mem_of_mem_filter ho
  rw [passing_stamped, List.filter_sortBy, ← filter_unovertaken]
  · refine congrArg (List.sortBy Spool.liveKey) (List.filter_congr fun o ho => ?_)
    have hgate : (engine.gate (live o) o).isSome = (engine.gate (replay o) o).isSome := by
      rw [Bool.eq_iff_iff, gate_isSome_iff, gate_isSome_iff, hclock o (hmem o ho)]
    rw [counts, counts, hgate]
  · exact fun a ha b hb h => Spool.eq_of_id_eq (hmem a ha) (hmem b hb) (Spool.id_of_liveKey h)

end Sides

end StateEngine

/-! ### Replay and live ingestion -/

/-- Two streams of one source that stand at the same observation with the same
counters, and report the same unless they are undecided. -/
structure StateStream.Matches (undecided : Prop) (s t : StateStream) : Prop where
  key : s.key = t.key
  component : s.component = t.component
  lastObservation : s.lastObservation = t.lastObservation
  finishedAt : s.finishedAt = t.finishedAt
  expired : s.expired = t.expired
  failures : s.state.consecutiveFailures = t.state.consecutiveFailures
  successes : s.state.consecutiveSuccesses = t.state.consecutiveSuccesses
  judged : ¬ undecided → s.judged = t.judged

theorem StateStream.Matches.refl (undecided : Prop) (s : StateStream) : s.Matches undecided s :=
  ⟨rfl, rfl, rfl, rfl, rfl, rfl, rfl, fun _ => rfl⟩

theorem StateStream.Matches.mono {undecided undecided' : Prop} {s t : StateStream}
    (h : s.Matches undecided t) (himp : undecided → undecided') : s.Matches undecided' t :=
  { h with judged := fun hdec => h.judged fun hund => hdec (himp hund) }

/-- Whatever two new streams start from, the same statuses leave them with the same
counters, and with the same verdict unless they are undecided. -/
theorem judgedFrom_counters (policy : DebouncePolicy) {statuses : List ProbeStatus}
    {start start' : Health} (hne : statuses ≠ [])
    (hstart : start = .unknown ∨ start = .notApplicable)
    (hstart' : start' = .unknown ∨ start' = .notApplicable) :
    (judgedFrom policy start statuses).1.consecutiveFailures =
        (judgedFrom policy start' statuses).1.consecutiveFailures ∧
      (judgedFrom policy start statuses).1.consecutiveSuccesses =
        (judgedFrom policy start' statuses).1.consecutiveSuccesses ∧
      (¬ policy.Undecided statuses →
        judgedFrom policy start statuses = judgedFrom policy start' statuses) := by
  rcases judgedFrom_undecided_or_eq policy statuses hne with ⟨hund, hna, hunknown⟩ | ⟨-, heq⟩
  · have hheld : ∀ health, health = .unknown ∨ health = .notApplicable →
        (judgedFrom policy health statuses).1 =
          (Debouncer.startingAt policy health).feed (statuses.map isBad) := by
      rintro health (rfl | rfl)
      · exact congrArg Prod.fst hunknown.1
      · exact congrArg Prod.fst hna.1
    rw [hheld start hstart, hheld start' hstart']
    refine ⟨UInt32.toNat_inj.mp ?_, UInt32.toNat_inj.mp ?_, fun h => absurd hund h⟩
    · rw [Debouncer.feed_consecutiveFailures, Debouncer.feed_consecutiveFailures]
    · rw [Debouncer.feed_consecutiveSuccesses, Debouncer.feed_consecutiveSuccesses]
  · have hsame : judgedFrom policy start statuses = judgedFrom policy start' statuses := by
      rcases hstart with rfl | rfl <;> rcases hstart' with rfl | rfl
      · rfl
      · exact heq.symm
      · exact heq
      · rfl
    exact ⟨by rw [hsame], by rw [hsame], fun _ => hsame⟩

/-- Two new streams that take the same observations match. -/
theorem StateStream.matches_of_taken {now now' : Timestamp} {mapping : ProbeMapping}
    {start start' : Health} {o o' : Observation} {taken : List Observation}
    (hne : taken ≠ []) (hkey : o.streamKey = o'.streamKey)
    (hstart : start = .unknown ∨ start = .notApplicable)
    (hstart' : start' = .unknown ∨ start' = .notApplicable) :
    (taken.foldl accept (fresh now mapping start o)).Matches
      (mapping.policy.Undecided (taken.map Observation.status))
      (taken.foldl accept (fresh now' mapping start' o')) := by
  have hstatuses : taken.map Observation.status ≠ [] := by simpa using hne
  obtain ⟨hfail, hsucc, hsame⟩ := judgedFrom_counters mapping.policy hstatuses hstart hstart'
  have hj : (taken.foldl accept (fresh now mapping start o)).judged =
      judgedFrom mapping.policy start (taken.map Observation.status) := foldl_accept_judged _ _
  have hj' : (taken.foldl accept (fresh now' mapping start' o')).judged =
      judgedFrom mapping.policy start' (taken.map Observation.status) := foldl_accept_judged _ _
  obtain ⟨hk, hc⟩ := foldl_accept_frame taken (fresh now mapping start o)
  obtain ⟨hk', hc'⟩ := foldl_accept_frame taken (fresh now' mapping start' o')
  rw [← hj, ← hj'] at hfail hsucc hsame
  -- the rest is what the last observation taken leaves behind
  obtain ⟨s, hs⟩ := exists_foldl_accept (fresh now mapping start o) hne
  obtain ⟨t, ht⟩ := exists_foldl_accept (fresh now' mapping start' o') hne
  rw [hs, ht] at hfail hsucc hsame ⊢
  rw [hs] at hk hc
  rw [ht] at hk' hc'
  exact ⟨hk.trans (hkey.trans hk'.symm), hc.trans hc'.symm, rfl, rfl, rfl, hfail, hsucc, hsame⟩

namespace StateEngine

variable {engine : StateEngine} {spool : Spool} {limits : List ℕ}
  {live replay : Observation → Timestamp} {k : StreamKey}

theorem nodup_rows_filter (spool : Spool) (p : Observation → Bool) :
    ((spool.rows.filter p).map Observation.id).Nodup :=
  spool.nodup.sublist (List.filter_sublist.map _)

/-- A stream takes the same observations of the replay as of the live ingestion
without the overtaken ones. -/
theorem taken_replayed (engine : StateEngine) (k : StreamKey)
    (hdrained : (spool.leftAfter limits).rows = [])
    (hclock : ∀ o ∈ spool.rows, o.finishedAt ≤ live o + maxFutureSkew ↔
      o.finishedAt ≤ replay o + maxFutureSkew) :
    let replayed :=
      (engine.passing (stamped replay (spool.handedOut limits)) k).map Prod.snd
    let lived := (engine.passing
      (stamped live ((spool.unovertaken replay).sortBy Spool.liveKey)) k).map Prod.snd
    takenFresh replayed = takenFresh lived ∧
      ∀ {id : ObservationId} {finishedAt : Timestamp}, (∀ o ∈ spool.rows, id ≠ o.id) →
        takenAfter id finishedAt replayed = takenAfter id finishedAt lived := by
  intro replayed lived
  have hreplayed : replayed = _ := passing_replayed hdrained k
  have hlived : lived = _ := passing_live hclock k
  have hnodup := nodup_rows_filter spool (engine.counts replay k)
  rw [hreplayed, hlived]
  generalize hcounted : spool.rows.filter (engine.counts replay k) = counted at hnodup ⊢
  have hnodup_replay : ((counted.sortBy Spool.replayKey).map Observation.id).Nodup :=
    ((List.perm_sortBy _ _).map _).nodup_iff.mpr hnodup
  have hnodup_live :
      (((counted.filter (clear counted)).sortBy Spool.liveKey).map Observation.id).Nodup :=
    ((List.perm_sortBy _ _).map _).nodup_iff.mpr (hnodup.sublist (List.filter_sublist.map _))
  constructor
  · rw [takenFresh_eq_records hnodup_replay, takenFresh_eq_records hnodup_live,
      records_sortBy_replayKey hnodup]
  · intro id finishedAt hid
    have hid : ∀ o ∈ counted, id ≠ o.id := fun o ho =>
      hid o (List.mem_of_mem_filter (hcounted ▸ ho))
    rw [takenAfter_eq_records _ (fun o ho => hid o (List.mem_sortBy.mp ho)) hnodup_replay,
      takenAfter_eq_records _ (fun o ho => hid o
        (List.mem_of_mem_filter (List.mem_sortBy.mp ho))) hnodup_live,
      records_sortBy_replayKey hnodup]

/-- A stream new to the engine, after a list of which it takes some: what it took,
from an unknown or inapplicable start. -/
theorem Settled.new_stream (h : engine.Settled) {events : List (Timestamp × Observation)}
    (hs : engine.streams[k]? = none) (hne : engine.passing events k ≠ []) :
    ∃ now mapping start o, (start = .unknown ∨ start = .notApplicable) ∧ o.streamKey = k ∧
      engine.mappings[k.2.1]? = some mapping ∧
      (engine.ingestAll events).1.streams[k]? =
        some ((takenFresh ((engine.passing events k).map Prod.snd)).foldl StateStream.accept
          (.fresh now mapping start o)) := by
  cases hpass : engine.passing events k with
  | nil => exact absurd hpass hne
  | cons event rest =>
    obtain ⟨now, o⟩ := event
    obtain ⟨before, after, mapping, -, -, hgate, rfl, hstream⟩ :=
      ingestAll_streams_of_none events hs hpass
    rw [StateStream.fresh_replay_eq_foldl] at hstream
    exact ⟨now, mapping, _, o, (h.ingestAll before).starting now _ _, rfl, mapping_of_gate hgate,
      hstream⟩

/-- **Replay, stream by stream.**  Whatever the engine and however the spool is
drained, replay leaves each stream as live ingestion does of the observations that
no later one overtakes: a stream the engine had, exactly so; a new one up to what
it started from, if its results are undecided. -/
theorem replay_matches_live {log : List EngineCall} (hrun : engineMachine.Run log engine)
    (hdrained : (spool.leftAfter limits).rows = [])
    (hclock : ∀ o ∈ spool.rows, o.finishedAt ≤ live o + maxFutureSkew ↔
      o.finishedAt ≤ replay o + maxFutureSkew)
    (hnew : ∀ (k : StreamKey) (s : StateStream), engine.streams[k]? = some s →
      ∀ o ∈ spool.rows, s.lastObservation ≠ o.id) (k : StreamKey) :
    let replayed := (engine.ingestAll (stamped replay (spool.handedOut limits))).1
    let events := stamped live ((spool.unovertaken replay).sortBy Spool.liveKey)
    let lived := (engine.ingestAll events).1
    (engine.streams[k]?.isSome → replayed.streams[k]? = lived.streams[k]?) ∧
      Option.Rel (StateStream.Matches (engine.Undecided events k)) replayed.streams[k]?
        lived.streams[k]? := by
  intro replayed events lived
  obtain ⟨hfresh, hafter⟩ := taken_replayed engine k hdrained hclock
  cases hs : engine.streams[k]? with
  | some s =>
    have heq : replayed.streams[k]? = lived.streams[k]? := by
      rw [ingestAll_streams_of_some _ hs, ingestAll_streams_of_some _ hs,
        StateStream.replay_eq_foldl_taken, StateStream.replay_eq_foldl_taken, StateStream.taken,
        StateStream.taken, hafter (hnew k s hs)]
    have hsome : lived.streams[k]? = some _ := ingestAll_streams_of_some events hs
    refine ⟨fun _ => heq, ?_⟩
    rw [heq, hsome]
    exact .some (.refl _ _)
  | none =>
    refine ⟨fun h => absurd h (by decide), ?_⟩
    have hiff : engine.passing (stamped replay (spool.handedOut limits)) k = [] ↔
        engine.passing events k = [] := by
      rw [← List.map_eq_nil_iff (f := Prod.snd), ← takenFresh_eq_nil, hfresh, takenFresh_eq_nil,
        List.map_eq_nil_iff]
    by_cases hnil : engine.passing events k = []
    · rw [ingestAll_streams_of_nil _ (hiff.mpr hnil), ingestAll_streams_of_nil _ hnil, hs]
      exact .none
    · have hsettled := settled_run hrun
      obtain ⟨now, mapping, start, o, hstart, hkey, hmapping, hstream⟩ :=
        hsettled.new_stream hs (hiff.not.mpr hnil)
      obtain ⟨now', mapping', start', o', hstart', hkey', hmapping', hstream'⟩ :=
        hsettled.new_stream hs hnil
      obtain rfl : mapping = mapping' := Option.some.inj (hmapping.symm.trans hmapping')
      have hne : takenFresh ((engine.passing events k).map Prod.snd) ≠ [] := by
        rw [ne_eq, takenFresh_eq_nil, List.map_eq_nil_iff]
        exact hnil
      rw [hstream, hstream', hfresh]
      exact .some ((StateStream.matches_of_taken hne (hkey.trans hkey'.symm) hstart hstart').mono
        fun hund => ⟨mapping, hmapping, hund⟩)

/-- A failure, a success and a failure, handed out in two batches: the failures come
first and the success between them is passed over. -/
theorem replay_matches_live_two_batches :
    let result (n : ℕ) (status : ProbeStatus) : Observation :=
      ⟨⟨⟨.ofNat 128 n⟩⟩, probeNetwork, ⟨⟨7⟩⟩, none, n, status, .null⟩
    let spool := Spool.empty.insertAll [result 1 .failed, result 2 .ok, result 3 .failed]
    let engine := StateEngine.new.register probeNetwork (.new .network)
    let events := stamped (fun o => o.finishedAt)
      ((spool.unovertaken fun _ => 9).sortBy Spool.liveKey)
    (spool.unovertaken fun _ => 9).map Observation.id = [⟨⟨1⟩⟩, ⟨⟨3⟩⟩] ∧
    Option.Rel (StateStream.Matches (engine.Undecided events (⟨⟨7⟩⟩, probeNetwork, none)))
      (engine.ingestAll (stamped (fun _ => 9)
        (spool.handedOut [2, 2]))).1.streams[((⟨⟨7⟩⟩, probeNetwork, none) : StreamKey)]?
      (engine.ingestAll events).1.streams[((⟨⟨7⟩⟩, probeNetwork, none) : StreamKey)]? := by
  intro result spool engine events
  have hrun : engineMachine.Run [.register probeNetwork (.new .network)] engine :=
    .snoc (s := StateEngine.new) (.init rfl) fun k s hs => by simp [StateEngine.new] at hs
  have hdrained : (spool.leftAfter [2, 2]).rows = [] :=
    List.eq_nil_of_length_eq_zero (by decide +kernel)
  have hclock : ∀ o ∈ spool.rows, o.finishedAt ≤ o.finishedAt + maxFutureSkew ↔
      o.finishedAt ≤ 9 + maxFutureSkew := by decide +kernel
  refine ⟨by decide +kernel, ?_⟩
  exact (replay_matches_live hrun hdrained hclock
    (fun k s hs => by simp [engine, StateEngine.register, StateEngine.new] at hs) _).2

/-- **Replay is not live ingestion.**  With a success between two failures, live
ingestion counts one failure in a row and reaches no verdict; replay counts two and
the stream is degraded. -/
theorem replay_diverges_from_live :
    let result (n : ℕ) (status : ProbeStatus) : Observation :=
      ⟨⟨⟨.ofNat 128 n⟩⟩, probeNetwork, ⟨⟨7⟩⟩, none, n, status, .null⟩
    let recorded := [result 1 .failed, result 2 .ok, result 3 .failed]
    let spool := Spool.empty.insertAll recorded
    let engine := StateEngine.new.register probeNetwork (.new .network)
    let outcome (observations : List Observation) : Option (Health × UInt32) :=
      (engine.ingestAll (stamped (fun _ => 9)
        observations)).1.streams[((⟨⟨7⟩⟩, probeNetwork, none) : StreamKey)]?.map fun s =>
          (s.state.health, s.state.consecutiveFailures)
    (spool.leftAfter [500]).rows.length = 0 ∧
      outcome recorded = some (.notApplicable, 1) ∧
      outcome (spool.handedOut [500]) = some (.degraded, 2) := by
  decide +kernel

end StateEngine

end Sentinel
