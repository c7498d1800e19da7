import Sentinel.State.Replay

/-!
# The order of arrival across streams

Each probe and observer has a stream of its own, so what another one reports, and
when, should not matter to it.  It does in one place: the first stream of a
component starts from `notApplicable`, every later one from `unknown`.  A stream
whose results never add up to a verdict keeps what it started from, and then the
component reads one thing or another according to which stream came first.

This file shows that this is the only leak: whatever the registered probes and
their thresholds, all interleavings of the same streams agree exactly when no
component has an undecided stream beside others that all end less severe than
unknown.

## Main definitions

* `Interleaves` — the same streams in another order of arrival.
* `DebouncePolicy.Undecided` — no run of the statuses reaches a threshold.
* `StateEngine.Ambiguous` — an undecided stream beside harmless others.

## Main results

* `judgedFrom_undecided_or_eq` — an undecided stream keeps its start, a decided one
  forgets it.
* `StateEngine.interleavings_agree_iff` — when all interleavings agree.
* `StateEngine.interleavings_disagree` — two that do not.
-/

namespace Sentinel

/-! ### Undecided statuses -/

/-- No run of the statuses is long enough for any threshold, and none of them sets
a health directly. -/
structure DebouncePolicy.Undecided (policy : DebouncePolicy) (statuses : List ProbeStatus) :
    Prop where
  conclusive : ∀ status ∈ statuses, status.isConclusive = true
  no_recovery : ¬ statuses.HasRun (fun status => !isBad status) policy.recoveryThreshold.toNat
  no_warning : ¬ statuses.HasRun isBad policy.warningThreshold.toNat
  no_outage : ¬ statuses.HasRun isBad policy.criticalThreshold.toNat

/-- What an undecided start looks like after some statuses: the debouncer was fed
them all and, like the report, still holds the start. -/
def HoldsStart (policy : DebouncePolicy) (statuses : List ProbeStatus) (start : Health) : Prop :=
  judgedFrom policy start statuses =
    ((Debouncer.startingAt policy start).feed (statuses.map isBad), start) ∧
  ((Debouncer.startingAt policy start).feed (statuses.map isBad)).health = start

theorem cap_of_rank_lt {health : Health} (h : health.severityRank < 4) (status : ProbeStatus) :
    cap health status = health := by
  revert h
  cases status <;> cases health <;> decide

section Step

variable {policy : DebouncePolicy} {statuses : List ProbeStatus} {status : ProbeStatus}

/-- The verdict on one more status, with the counters read off the statuses. -/
theorem health_feed_status (policy : DebouncePolicy) (start : Health)
    (statuses : List ProbeStatus) (status : ProbeStatus) :
    ((Debouncer.startingAt policy start).feed ((statuses ++ [status]).map isBad)).health =
      if policy.criticalThreshold.toNat ≤ (statuses ++ [status]).trailing isBad then .unavailable
      else if policy.warningThreshold.toNat ≤ (statuses ++ [status]).trailing isBad then
        if ((Debouncer.startingAt policy start).feed (statuses.map isBad)).health = .unavailable
        then .unavailable else .degraded
      else if policy.recoveryThreshold.toNat ≤
          (statuses ++ [status]).trailing (fun status => !isBad status) then .healthy
      else ((Debouncer.startingAt policy start).feed (statuses.map isBad)).health := by
  have hbad := List.trailing_map isBad id (statuses ++ [status])
  have hok := List.trailing_map isBad not (statuses ++ [status])
  rw [List.map_append, List.map_singleton] at hbad hok ⊢
  rw [Debouncer.health_feed_concat, hbad, hok]
  rfl

/-- One more status reaches a threshold. -/
def Reaches (policy : DebouncePolicy) (statuses : List ProbeStatus) : Prop :=
  policy.criticalThreshold.toNat ≤ statuses.trailing isBad ∨
  policy.warningThreshold.toNat ≤ statuses.trailing isBad ∨
  policy.recoveryThreshold.toNat ≤ statuses.trailing (fun status => !isBad status)

/-- A conclusive status that reaches no threshold leaves the start in place. -/
theorem HoldsStart.concat {start : Health} (hstart : start.severityRank < 4)
    (h : HoldsStart policy statuses start) (hc : status.isConclusive = true)
    (hreach : ¬ Reaches policy (statuses ++ [status])) :
    HoldsStart policy (statuses ++ [status]) start := by
  have hfeed : ((Debouncer.startingAt policy start).feed
      ((statuses ++ [status]).map isBad)).health = start := by
    rw [Reaches, not_or, not_or] at hreach
    rw [health_feed_status, if_neg hreach.1, if_neg hreach.2.1, if_neg hreach.2.2, h.2]
  refine ⟨?_, hfeed⟩
  rw [judgedFrom_concat, h.1, StateStream.judge_of_isConclusive _ hc]
  rw [List.map_append, List.map_singleton, Debouncer.feed_concat] at hfeed ⊢
  rw [hfeed, cap_of_rank_lt hstart]

/-- A status that sets a health or reaches a threshold makes the two starts
alike. -/
theorem judgedFrom_eq_of_decides
    (hna : HoldsStart policy statuses .notApplicable)
    (hunknown : HoldsStart policy statuses .unknown)
    (hdecides : status.isConclusive = false ∨ Reaches policy (statuses ++ [status])) :
    judgedFrom policy .notApplicable (statuses ++ [status]) =
      judgedFrom policy .unknown (statuses ++ [status]) := by
  rw [judgedFrom_concat, judgedFrom_concat, hna.1, hunknown.1]
  cases hc : status.isConclusive with
  | false =>
    cases status with
    | unsupported =>
      simp only [StateStream.judge, Debouncer.force_fst, Debouncer.feed_policy]
      rfl
    | notApplicable =>
      simp only [StateStream.judge, Debouncer.force_fst, Debouncer.feed_policy]
      rfl
    | _ => cases hc
  | true =>
    have hreach := hdecides.resolve_left (by rw [hc]; decide)
    -- a threshold that is reached overrides what either debouncer held
    have heq : ((Debouncer.startingAt policy .notApplicable).feed
          ((statuses ++ [status]).map isBad)).health =
        ((Debouncer.startingAt policy .unknown).feed ((statuses ++ [status]).map isBad)).health := by
      rw [health_feed_status, health_feed_status, hna.2, hunknown.2]
      split
      · rfl
      split
      · rfl
      split
      · rfl
      · next h1 h2 h3 => exact absurd hreach (by rw [Reaches, not_or, not_or]; exact ⟨h1, h2, h3⟩)
    have hfeed := Debouncer.feed_eq_of_health_eq policy .notApplicable _ heq
    rw [List.map_append, List.map_singleton, Debouncer.feed_concat, Debouncer.feed_concat] at hfeed
    rw [StateStream.judge_of_isConclusive _ hc, StateStream.judge_of_isConclusive _ hc, hfeed]

/-- Statuses stay undecided as long as each new one is conclusive and reaches no
threshold. -/
theorem undecided_concat :
    policy.Undecided (statuses ++ [status]) ↔
      (statuses = [] ∨ policy.Undecided statuses) ∧ status.isConclusive = true ∧
        ¬ Reaches policy (statuses ++ [status]) := by
  constructor
  · intro h
    refine ⟨Or.inr ⟨fun st hst => h.conclusive st (List.mem_append_left _ hst), fun hr => ?_,
      fun hr => ?_, fun hr => ?_⟩, h.conclusive status (by simp), ?_⟩
    · exact h.no_recovery (List.hasRun_concat.mpr (Or.inl hr))
    · exact h.no_warning (List.hasRun_concat.mpr (Or.inl hr))
    · exact h.no_outage (List.hasRun_concat.mpr (Or.inl hr))
    · rintro (hr | hr | hr)
      · exact h.no_outage (List.hasRun_concat.mpr (Or.inr hr))
      · exact h.no_warning (List.hasRun_concat.mpr (Or.inr hr))
      · exact h.no_recovery (List.hasRun_concat.mpr (Or.inr hr))
  · rintro ⟨hprev, hc, hreach⟩
    rw [Reaches, not_or, not_or] at hreach
    obtain ⟨hcritical, hwarning, hrecovery⟩ := hreach
    refine ⟨fun st hst => ?_, fun hr => ?_, fun hr => ?_, fun hr => ?_⟩
    · rcases List.mem_append.mp hst with hst | hst
      · rcases hprev with rfl | hprev
        · cases hst
        · exact hprev.conclusive st hst
      · rw [List.mem_singleton.mp hst, hc]
    all_goals
      rcases List.hasRun_concat.mp hr with hr | hr
      · rcases hprev with rfl | hprev
        · rw [List.hasRun_nil] at hr
          omega
        · first
          | exact hprev.no_recovery hr
          | exact hprev.no_warning hr
          | exact hprev.no_outage hr
      · omega

/-- **An undecided stream keeps its start, a decided one forgets it.** -/
theorem judgedFrom_undecided_or_eq (policy : DebouncePolicy) (statuses : List ProbeStatus)
    (hne : statuses ≠ []) :
    (policy.Undecided statuses ∧ HoldsStart policy statuses .notApplicable ∧
      HoldsStart policy statuses .unknown) ∨
    (¬ policy.Undecided statuses ∧
      judgedFrom policy .notApplicable statuses = judgedFrom policy .unknown statuses) := by
  induction statuses using List.reverseRecOn with
  | nil => exact absurd rfl hne
  | append_singleton statuses status ih =>
    have hbefore : ((statuses = [] ∨ policy.Undecided statuses) ∧
          HoldsStart policy statuses .notApplicable ∧ HoldsStart policy statuses .unknown) ∨
        (¬ (statuses = [] ∨ policy.Undecided statuses) ∧
          judgedFrom policy .notApplicable statuses = judgedFrom policy .unknown statuses) := by
      by_cases hnil : statuses = []
      · subst hnil
        exact Or.inl ⟨Or.inl rfl, ⟨rfl, rfl⟩, ⟨rfl, rfl⟩⟩
      · rcases ih hnil with ⟨hund, hheld⟩ | ⟨hdec, heq⟩
        · exact Or.inl ⟨Or.inr hund, hheld⟩
        · exact Or.inr ⟨not_or.mpr ⟨hnil, hdec⟩, heq⟩
    rw [undecided_concat]
    rcases hbefore with ⟨hund, hna, hunknown⟩ | ⟨hdec, heq⟩
    · by_cases hdecides : status.isConclusive = true ∧ ¬ Reaches policy (statuses ++ [status])
      · exact Or.inl ⟨⟨hund, hdecides⟩, hna.concat (by decide) hdecides.1 hdecides.2,
          hunknown.concat (by decide) hdecides.1 hdecides.2⟩
      · refine Or.inr ⟨fun h => hdecides h.2, judgedFrom_eq_of_decides hna hunknown ?_⟩
        rcases not_and_or.mp hdecides with hc | hr
        · exact Or.inl (by simpa using hc)
        · exact Or.inr (not_not.mp hr)
    · refine Or.inr ⟨fun h => hdec h.1, ?_⟩
      rw [judgedFrom_concat, judgedFrom_concat, heq]

end Step

/-! ### Interleavings -/

/-- The same observations of every stream in the same order, the order across
streams free. -/
def Interleaves (events events' : List (Timestamp × Observation)) : Prop :=
  ∀ k : StreamKey, (events'.filter fun event => event.2.streamKey = k) =
    events.filter fun event => event.2.streamKey = k

namespace StateEngine

variable {engine : StateEngine} {mappings : Std.ExtTreeMap ProbeId ProbeMapping}
  {events events' : List (Timestamp × Observation)} {e : EntityId} {c : StateComponent}
  {j k : StreamKey}

theorem passing_of_interleaves (h : Interleaves events events') (k : StreamKey) :
    engine.passing events' k = engine.passing events k := by
  have hsplit : ∀ xs : List (Timestamp × Observation), engine.passing xs k =
      (xs.filter fun event => event.2.streamKey = k).filter
        fun event => (engine.gate event.1 event.2).isSome := by
    intro xs
    rw [List.filter_filter, passing]
    simp only [Bool.and_comm]
  rw [hsplit, hsplit, h k]

theorem informs_of_interleaves (h : Interleaves events events') :
    engine.Informs events' e c k ↔ engine.Informs events e c k := by
  rw [Informs, Informs, passing_of_interleaves h]

theorem verdict_of_interleaves (h : Interleaves events events') (start : Health)
    (k : StreamKey) : engine.verdict events' start k = engine.verdict events start k := by
  rw [verdict, verdict, statusesOf, statusesOf, passing_of_interleaves h]

/-! ### Undecided streams of a list -/

/-- The statuses the stream takes reach none of its probe's thresholds. -/
def Undecided (engine : StateEngine) (events : List (Timestamp × Observation)) (k : StreamKey) :
    Prop :=
  ∃ mapping : ProbeMapping, engine.mappings[k.2.1]? = some mapping ∧
    mapping.policy.Undecided (engine.statusesOf events k)

/-- An undecided stream informs the component, others do too, and all of those
end less severe than unknown. -/
def Ambiguous (engine : StateEngine) (events : List (Timestamp × Observation)) (e : EntityId)
    (c : StateComponent) : Prop :=
  ∃ k, engine.Informs events e c k ∧ engine.Undecided events k ∧
    (∃ j, j ≠ k ∧ engine.Informs events e c j) ∧
    ∀ j, j ≠ k → engine.Informs events e c j →
      (engine.verdict events .unknown j).severityRank < Health.unknown.severityRank

theorem statusesOf_ne_nil (h : engine.Informs events e c k) : engine.statusesOf events k ≠ [] := by
  rw [statusesOf]
  cases hpass : engine.passing events k with
  | nil => exact absurd hpass h.2.1
  | cons event rest => simp [takenFresh]

/-- An undecided stream ends with what it started from. -/
theorem verdict_of_undecided (hinf : engine.Informs events e c k)
    (hund : engine.Undecided events k) :
    engine.verdict events .notApplicable k = .notApplicable ∧
      engine.verdict events .unknown k = .unknown := by
  obtain ⟨mapping, hm, hund⟩ := hund
  rcases judgedFrom_undecided_or_eq mapping.policy _ (statusesOf_ne_nil hinf) with
    ⟨-, hna, hunknown⟩ | ⟨hdec, -⟩
  · simp only [verdict, hm, hna.1, hunknown.1, and_self]
  · exact absurd hund hdec

/-- A decided stream ends with the same, wherever it started. -/
theorem verdict_of_not_undecided (hinf : engine.Informs events e c k)
    (hdec : ¬ engine.Undecided events k) :
    engine.verdict events .notApplicable k = engine.verdict events .unknown k := by
  obtain ⟨mapping, hm, -⟩ := hinf.2.2
  rcases judgedFrom_undecided_or_eq mapping.policy _ (statusesOf_ne_nil hinf) with
    ⟨hund, -⟩ | ⟨-, heq⟩
  · exact absurd ⟨mapping, hm, hund⟩ hdec
  · simp only [verdict, hm, heq]

/-! ### Which stream comes first -/

theorem Starts.eq_or {start : Health} (h : engine.Starts events e c k start) :
    start = .unknown ∨ start = .notApplicable := by
  obtain ⟨-, -, -, -, -, -, -, ⟨rfl, -⟩ | ⟨rfl, -⟩⟩ := h
  · exact Or.inl rfl
  · exact Or.inr rfl

/-- An event of a stream that informs the component makes the list inform it. -/
theorem informs_of_mem {before : List (Timestamp × Observation)}
    {event : Timestamp × Observation} (hinf : engine.Informs events e c k)
    (hmem : event ∈ before) (hkey : event.2.streamKey = k)
    (hgate : (engine.gate event.1 event.2).isSome) : engine.Informs before e c k := by
  refine ⟨hinf.1, List.ne_nil_of_mem (a := event) ?_, hinf.2.2⟩
  exact List.mem_filter.mpr ⟨hmem, by simp [hkey, hgate]⟩

/-- Only one stream of a component comes first. -/
theorem Starts.unique (hj : engine.Informs events e c j) (hk : engine.Informs events e c k)
    (hsj : engine.Starts events e c j .notApplicable)
    (hsk : engine.Starts events e c k .notApplicable) : j = k := by
  obtain ⟨b, a, ev, hevents, hkey, hgate, -, ⟨h, -⟩ | ⟨-, hnone⟩⟩ := hsj
  · cases h
  obtain ⟨b', a', ev', hevents', hkey', hgate', -, ⟨h, -⟩ | ⟨-, hnone'⟩⟩ := hsk
  · cases h
  rcases List.append_eq_append_iff.mp (hevents.symm.trans hevents') with
    ⟨t, hb', ht⟩ | ⟨t, hb, ht⟩
  · cases t with
    | nil =>
      obtain ⟨rfl, -⟩ := List.cons.inj ht
      exact hkey.symm.trans hkey'
    | cons x t =>
      obtain ⟨rfl, -⟩ := List.cons.inj ht
      exact absurd (informs_of_mem hj (by rw [hb']; simp) hkey hgate) (hnone' j)
  · cases t with
    | nil =>
      obtain ⟨rfl, -⟩ := List.cons.inj ht
      exact hkey.symm.trans hkey'
    | cons x t =>
      obtain ⟨rfl, -⟩ := List.cons.inj ht
      exact absurd (informs_of_mem hk (by rw [hb]; simp) hkey' hgate') (hnone k)

/-! ### Unambiguous lists -/

/-- The verdicts of the streams of a component, each started from unknown. -/
def verdicts (engine : StateEngine) (events : List (Timestamp × Observation)) (e : EntityId)
    (c : StateComponent) : Set Health :=
  { h | ∃ k, engine.Informs events e c k ∧ h = engine.verdict events .unknown k }

/-- Beside the stream that comes first, an unambiguous component has one that is
no less severe than unknown, if the first is undecided. -/
theorem exists_severe (hamb : ¬ (ofMappings mappings).Ambiguous events e c)
    (htwo : ∃ j, j ≠ k ∧ (ofMappings mappings).Informs events e c j)
    (hinf : (ofMappings mappings).Informs events e c k)
    (hstart : (ofMappings mappings).Starts events e c k .notApplicable)
    (hund : (ofMappings mappings).Undecided events k) :
    ∃ h ∈ ((ofMappings mappings).ingestAll events).1.contributed e c,
      Health.unknown.severityRank ≤ h.severityRank := by
  obtain ⟨j, hjk, hj, hsevere⟩ : ∃ j, j ≠ k ∧ (ofMappings mappings).Informs events e c j ∧
      Health.unknown.severityRank ≤
        ((ofMappings mappings).verdict events .unknown j).severityRank := by
    by_contra hnone
    refine hamb ⟨k, hinf, hund, htwo, fun j hjk hj => ?_⟩
    by_contra hge
    exact hnone ⟨j, hjk, hj, not_lt.mp hge⟩
  obtain ⟨start, hs, hmem⟩ := contributed_of_informs hj
  rcases hs.eq_or with rfl | rfl
  · exact ⟨_, hmem, hsevere⟩
  · exact absurd (Starts.unique hj hinf hs hstart) hjk

/-- **Where nothing is ambiguous and several streams inform a component, it reads
the worst of their verdicts from unknown**, in whatever order they arrived. -/
theorem isWorst_verdicts (hamb : ¬ (ofMappings mappings).Ambiguous events e c)
    (htwo : ∀ k, ∃ j, j ≠ k ∧ (ofMappings mappings).Informs events e c j) :
    IsWorst Health.severityRank .notApplicable ((ofMappings mappings).verdicts events e c)
      (((ofMappings mappings).ingestAll events).1.health e c) := by
  have hworst := ((settled_ofMappings mappings).ingestAll events).isWorst_health e c
  generalize ((ofMappings mappings).ingestAll events).1.health e c = w at hworst ⊢
  refine Or.inl ⟨?_, ?_⟩
  · rcases hworst with ⟨hmem, hle⟩ | ⟨hempty, -⟩
    · obtain ⟨k, start, hinf, hstart, rfl⟩ := verdict_of_contributed hmem
      rcases hstart.eq_or with rfl | rfl
      · exact ⟨k, hinf, rfl⟩
      · by_cases hund : (ofMappings mappings).Undecided events k
        · -- the first stream cannot be the worst: another one is at least unknown
          obtain ⟨h, hh, hsevere⟩ := exists_severe hamb (htwo k) hinf hstart hund
          have := hle h hh
          rw [(verdict_of_undecided hinf hund).1] at this
          exact absurd (hsevere.trans this) (by decide)
        · exact ⟨k, hinf, verdict_of_not_undecided hinf hund⟩
    · obtain ⟨j, -, hj⟩ := htwo (e, ⟨""⟩, none)
      obtain ⟨start, -, hmem⟩ := contributed_of_informs hj
      rw [hempty] at hmem
      exact absurd hmem (Set.notMem_empty _)
  · rintro x ⟨k, hinf, rfl⟩
    obtain ⟨start, hstart, hmem⟩ := contributed_of_informs hinf
    rcases hstart.eq_or with rfl | rfl
    · exact hworst.rank_le hmem
    · by_cases hund : (ofMappings mappings).Undecided events k
      · obtain ⟨h, hh, hsevere⟩ := exists_severe hamb (htwo k) hinf hstart hund
        rw [(verdict_of_undecided hinf hund).2]
        exact hsevere.trans (hworst.rank_le hh)
      · rw [← verdict_of_not_undecided hinf hund]
        exact hworst.rank_le hmem

/-- A component with one stream reads that stream's verdict. -/
theorem health_of_single (hinf : (ofMappings mappings).Informs events e c k)
    (hsingle : ∀ j, (ofMappings mappings).Informs events e c j → j = k) :
    ((ofMappings mappings).ingestAll events).1.health e c =
      (ofMappings mappings).verdict events .notApplicable k := by
  have hstarts : ∀ {start}, (ofMappings mappings).Starts events e c k start →
      start = .notApplicable := by
    rintro start ⟨before, after, event, hevents, -, -, hnil, ⟨-, j, hj⟩ | ⟨rfl, -⟩⟩
    · obtain rfl := hsingle j (hevents ▸ hj.append_right (event :: after))
      exact absurd hnil hj.2.1
    · rfl
  rcases ((settled_ofMappings mappings).ingestAll events).isWorst_health e c with
    ⟨hmem, -⟩ | ⟨hempty, -⟩
  · obtain ⟨j, start, hj, hstart, heq⟩ := verdict_of_contributed hmem
    obtain rfl := hsingle j hj
    rw [heq, hstarts hstart]
  · obtain ⟨start, -, hmem⟩ := contributed_of_informs hinf
    rw [hempty] at hmem
    exact absurd hmem (Set.notMem_empty _)

theorem health_of_no_stream (hnone : ∀ k, ¬ (ofMappings mappings).Informs events e c k) :
    ((ofMappings mappings).ingestAll events).1.health e c = .notApplicable := by
  rcases ((settled_ofMappings mappings).ingestAll events).isWorst_health e c with
    ⟨hmem, -⟩ | ⟨-, heq⟩
  · obtain ⟨k, -, hinf, -⟩ := verdict_of_contributed hmem
    exact absurd hinf (hnone k)
  · exact heq

/-- Two interleavings of an unambiguous list agree. -/
theorem health_eq_of_not_ambiguous (h : Interleaves events events')
    (hamb : ¬ (ofMappings mappings).Ambiguous events e c) :
    ((ofMappings mappings).ingestAll events').1.health e c =
      ((ofMappings mappings).ingestAll events).1.health e c := by
  have hinf : ∀ k, (ofMappings mappings).Informs events' e c k ↔
      (ofMappings mappings).Informs events e c k := fun k => informs_of_interleaves h
  by_cases htwo : ∀ k, ∃ j, j ≠ k ∧ (ofMappings mappings).Informs events e c j
  · have hamb' : ¬ (ofMappings mappings).Ambiguous events' e c := by
      simpa only [Ambiguous, Undecided, statusesOf, passing_of_interleaves h, hinf,
        verdict_of_interleaves h] using hamb
    have hworst' := isWorst_verdicts hamb' (by simpa only [hinf] using htwo)
    have hset : (ofMappings mappings).verdicts events' e c =
        (ofMappings mappings).verdicts events e c := by
      simp only [verdicts, hinf, verdict_of_interleaves h]
    rw [hset] at hworst'
    exact hworst'.unique Health.severityRank_injective (isWorst_verdicts hamb htwo)
  · rw [not_forall] at htwo
    obtain ⟨k, hk⟩ := htwo
    have hsingle : ∀ j, (ofMappings mappings).Informs events e c j → j = k := by
      intro j hj
      by_contra hjk
      exact hk ⟨j, hjk, hj⟩
    by_cases hkinf : (ofMappings mappings).Informs events e c k
    · rw [health_of_single hkinf hsingle,
        health_of_single ((hinf k).mpr hkinf) fun j hj => hsingle j ((hinf j).mp hj),
        verdict_of_interleaves h]
    · have hnone : ∀ j, ¬ (ofMappings mappings).Informs events e c j := by
        intro j hj
        obtain rfl := hsingle j hj
        exact hkinf hj
      rw [health_of_no_stream hnone, health_of_no_stream fun j hj => hnone j ((hinf j).mp hj)]

/-! ### Ambiguous lists -/

section Ambiguous

/-- The observations of one stream. -/
def own (events : List (Timestamp × Observation)) (k : StreamKey) :
    List (Timestamp × Observation) :=
  events.filter fun event => event.2.streamKey = k

/-- The observations of all other streams. -/
def others (events : List (Timestamp × Observation)) (k : StreamKey) :
    List (Timestamp × Observation) :=
  events.filter fun event => event.2.streamKey ≠ k

theorem key_of_mem_own {event : Timestamp × Observation} (h : event ∈ own events k) :
    event.2.streamKey = k := by
  simpa using (List.mem_filter.mp h).2

theorem key_of_mem_others {event : Timestamp × Observation} (h : event ∈ others events k) :
    event.2.streamKey ≠ k := by
  simpa using (List.mem_filter.mp h).2

theorem filter_own_append_others (events : List (Timestamp × Observation)) (j k : StreamKey) :
    (own events k).filter (fun event => event.2.streamKey = j) ++
        (others events k).filter (fun event => event.2.streamKey = j) =
      events.filter (fun event => event.2.streamKey = j) ∧
    (others events k).filter (fun event => event.2.streamKey = j) ++
        (own events k).filter (fun event => event.2.streamKey = j) =
      events.filter (fun event => event.2.streamKey = j) := by
  by_cases hjk : j = k
  · subst hjk
    have hothers : (others events j).filter (fun event => event.2.streamKey = j) = [] :=
      List.filter_eq_nil_iff.mpr fun event hmem => by simpa using key_of_mem_others hmem
    rw [hothers, own, List.filter_filter]
    simp
  · have hown : (own events k).filter (fun event => event.2.streamKey = j) = [] :=
      List.filter_eq_nil_iff.mpr fun event hmem => by
        simpa [key_of_mem_own hmem] using Ne.symm hjk
    have hothers : (others events k).filter (fun event => event.2.streamKey = j) =
        events.filter (fun event => event.2.streamKey = j) := by
      rw [others, List.filter_filter]
      refine List.filter_congr fun event _ => ?_
      by_cases hkey : event.2.streamKey = j
      · simp [hkey, hjk]
      · simp [hkey]
    rw [hown, hothers]
    simp

theorem interleaves_own_first (events : List (Timestamp × Observation)) (k : StreamKey) :
    Interleaves events (own events k ++ others events k) := by
  intro j
  rw [List.filter_append]
  exact (filter_own_append_others events j k).1

theorem interleaves_own_last (events : List (Timestamp × Observation)) (k : StreamKey) :
    Interleaves events (others events k ++ own events k) := by
  intro j
  rw [List.filter_append]
  exact (filter_own_append_others events j k).2

theorem informs_own (h : engine.Informs events e c k) : engine.Informs (own events k) e c k := by
  obtain ⟨event, hmem⟩ := List.exists_mem_of_ne_nil _ h.2.1
  obtain ⟨hmem, hkey, hgate⟩ := key_of_mem_passing hmem
  exact informs_of_mem h (List.mem_filter.mpr ⟨hmem, by simp [hkey]⟩) hkey hgate

theorem informs_others (h : engine.Informs events e c j) (hjk : j ≠ k) :
    engine.Informs (others events k) e c j := by
  obtain ⟨event, hmem⟩ := List.exists_mem_of_ne_nil _ h.2.1
  obtain ⟨hmem, hkey, hgate⟩ := key_of_mem_passing hmem
  exact informs_of_mem h (List.mem_filter.mpr ⟨hmem, by simp [hkey, hjk]⟩) hkey hgate

/-- A stream whose observations all come first starts from `notApplicable`. -/
theorem start_of_own_first {start : Health}
    (h : engine.Starts (own events k ++ others events k) e c k start) :
    start = .notApplicable := by
  obtain ⟨before, after, event, hevents, hkey, -, hnil, ⟨-, j, hj⟩ | ⟨rfl, -⟩⟩ := h
  · exfalso
    obtain ⟨x, hx⟩ := List.exists_mem_of_ne_nil _ hj.2.1
    obtain ⟨hx, hxkey, -⟩ := key_of_mem_passing hx
    have hjk : j ≠ k := by rintro rfl; exact hj.2.1 hnil
    rcases List.append_eq_append_iff.mp hevents with ⟨t, hb, ht⟩ | ⟨t, hb, ht⟩
    · have hmem : event ∈ others events k := by rw [ht]; simp
      exact key_of_mem_others hmem hkey
    · have hmem : x ∈ own events k := by rw [hb]; exact List.mem_append_left _ hx
      exact hjk (hxkey.symm.trans (key_of_mem_own hmem))
  · rfl

/-- Every other stream then starts from unknown. -/
theorem start_of_own_first_of_ne {start : Health} (hk : engine.Informs events e c k)
    (hjk : j ≠ k) (h : engine.Starts (own events k ++ others events k) e c j start) :
    start = .unknown := by
  obtain ⟨before, after, event, hevents, hkey, -, -, ⟨rfl, -⟩ | ⟨-, hnone⟩⟩ := h
  · rfl
  · exfalso
    rcases List.append_eq_append_iff.mp hevents with ⟨t, hb, -⟩ | ⟨t, hb, ht⟩
    · exact hnone k (hb ▸ (informs_own hk).append_right t)
    · cases t with
      | nil => exact hnone k (by rw [List.append_nil] at hb; exact hb ▸ informs_own hk)
      | cons x t =>
        obtain ⟨rfl, -⟩ := List.cons.inj ht
        have hmem : event ∈ own events k := by rw [hb]; simp
        exact hjk (hkey.symm.trans (key_of_mem_own hmem))

/-- A stream whose observations all come after another one's starts from
unknown. -/
theorem start_of_own_last {start : Health} (hj : engine.Informs events e c j) (hjk : j ≠ k)
    (h : engine.Starts (others events k ++ own events k) e c k start) : start = .unknown := by
  obtain ⟨before, after, event, hevents, hkey, -, -, ⟨rfl, -⟩ | ⟨-, hnone⟩⟩ := h
  · rfl
  · exfalso
    rcases List.append_eq_append_iff.mp hevents with ⟨t, hb, -⟩ | ⟨t, hb, ht⟩
    · exact hnone j (hb ▸ (informs_others hj hjk).append_right t)
    · cases t with
      | nil => exact hnone j (by rw [List.append_nil] at hb; exact hb ▸ informs_others hj hjk)
      | cons x t =>
        obtain ⟨rfl, -⟩ := List.cons.inj ht
        have hmem : event ∈ others events k := by rw [hb]; simp
        exact key_of_mem_others hmem hkey

/-- With the undecided stream first, the component reads less severe than
unknown. -/
theorem health_own_first (hk : (ofMappings mappings).Informs events e c k)
    (hund : (ofMappings mappings).Undecided events k)
    (hmild : ∀ j, j ≠ k → (ofMappings mappings).Informs events e c j →
      ((ofMappings mappings).verdict events .unknown j).severityRank <
        Health.unknown.severityRank) :
    (((ofMappings mappings).ingestAll (own events k ++ others events k)).1.health e
      c).severityRank < Health.unknown.severityRank := by
  have hinter := interleaves_own_first events k
  rcases ((settled_ofMappings mappings).ingestAll (own events k ++ others events k)).isWorst_health
    e c with ⟨hmem, -⟩ | ⟨-, heq⟩
  · obtain ⟨j, start, hj, hstart, heq⟩ := verdict_of_contributed hmem
    rw [heq, verdict_of_interleaves hinter]
    rw [informs_of_interleaves hinter] at hj
    by_cases hjk : j = k
    · subst hjk
      rw [start_of_own_first hstart, (verdict_of_undecided hk hund).1]
      decide
    · rw [start_of_own_first_of_ne hk hjk hstart]
      exact hmild j hjk hj
  · rw [heq]
    decide

/-- With the undecided stream last, it reads at least unknown. -/
theorem health_own_last (hk : (ofMappings mappings).Informs events e c k)
    (hund : (ofMappings mappings).Undecided events k)
    (hj : (ofMappings mappings).Informs events e c j) (hjk : j ≠ k) :
    Health.unknown.severityRank ≤
      (((ofMappings mappings).ingestAll (others events k ++ own events k)).1.health e
        c).severityRank := by
  have hinter := interleaves_own_last events k
  obtain ⟨start, hstart, hmem⟩ :=
    contributed_of_informs ((informs_of_interleaves hinter).mpr hk)
  rw [verdict_of_interleaves hinter, start_of_own_last hj hjk hstart,
    (verdict_of_undecided hk hund).2] at hmem
  exact (((settled_ofMappings mappings).ingestAll _).isWorst_health e c).rank_le hmem

end Ambiguous

/-- **All interleavings agree exactly when no component is ambiguous.** -/
theorem interleavings_agree_iff (mappings : Std.ExtTreeMap ProbeId ProbeMapping)
    (events : List (Timestamp × Observation)) :
    (∀ events', Interleaves events events' → ∀ e c,
      ((ofMappings mappings).ingestAll events').1.health e c =
        ((ofMappings mappings).ingestAll events).1.health e c) ↔
    ∀ e c, ¬ (ofMappings mappings).Ambiguous events e c := by
  constructor
  · rintro hagree e c ⟨k, hk, hund, ⟨j, hjk, hj⟩, hmild⟩
    have hfirst := health_own_first hk hund hmild
    have hlast := health_own_last hk hund hj hjk
    rw [hagree _ (interleaves_own_first events k)] at hfirst
    rw [hagree _ (interleaves_own_last events k)] at hlast
    exact absurd hfirst (not_lt.mpr hlast)
  · intro hamb events' hinter e c
    exact health_eq_of_not_ambiguous hinter (hamb e c)

/-- **Two observers of one host, and it matters which came first**: one reports two
successes, the other a single one. -/
theorem interleavings_disagree :
    let report (n : ℕ) (observer : ℕ) : Timestamp × Observation :=
      (n, ⟨⟨⟨.ofNat 128 n⟩⟩, ⟨"network.tcp"⟩, ⟨⟨7⟩⟩, some ⟨⟨.ofNat 128 observer⟩⟩, n, .ok, .null⟩)
    let engine := ofMappings (Std.ExtTreeMap.empty.insert ⟨"network.tcp"⟩ (.new .network))
    Interleaves [report 1 1, report 2 1, report 3 2] [report 3 2, report 1 1, report 2 1] ∧
    (engine.ingestAll [report 1 1, report 2 1, report 3 2]).1.health ⟨⟨7⟩⟩ .network = .unknown ∧
    (engine.ingestAll [report 3 2, report 1 1, report 2 1]).1.health ⟨⟨7⟩⟩ .network =
      .healthy := by
  intro report engine
  exact ⟨interleaves_own_last [report 1 1, report 2 1, report 3 2] (report 1 1).2.streamKey,
    by decide +kernel, by decide +kernel⟩

end StateEngine

end Sentinel
