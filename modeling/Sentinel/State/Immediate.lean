import Sentinel.State.Resume

/-!
# Probes that react at once

A probe with the immediate policy reports after every observation what that one says,
whatever came before it.  Of several observations of one of its streams only the last one
counts, and with it the order in which they were made.

## Main definitions

* `ProbeStatus.health` — what a status says on its own.
* `StateEngine.Serves` — an engine whose probes mean what they were registered for.
* `StateEngine.report` — what a stream contributes to its component.
* `registeredMachine` — an engine that starts with its probes registered.

## Main results

* `StateStream.judge_immediate` — at once, a status is reported as it is.
* `StateEngine.serves_run` — every run keeps to what the probes were registered for.
* `StateEngine.report_ingestAll` — **a stream reports the last of its observations.**
* `StateEngine.Settled.health_eq_of_report` — what is reported decides what is read.
-/

namespace Sentinel

/-! ### One stream -/

/-- The health a status says on its own. -/
def ProbeStatus.health : ProbeStatus → Health
  | .ok => .healthy
  | .degraded => .degraded
  | .failed | .timeout | .stuck => .unavailable
  | .unsupported => .unknown
  | .notApplicable => .notApplicable

theorem one_le_saturatingAdd (n : UInt32) : 1 ≤ n.saturatingAdd 1 := by
  rw [UInt32.le_iff_toNat_le, UInt32.toNat_saturatingAdd]
  change 1 ≤ min (n.toNat + 1) _
  omega

/-- At once, one outcome is enough for a verdict. -/
theorem Debouncer.next_count_of_immediate {d : Debouncer} (h : d.policy = .immediate) (bad : Bool) :
    (d.count bad).next = if bad then .unavailable else .healthy := by
  unfold next
  rw [count_policy, h]
  cases bad with
  | true => exact if_pos (one_le_saturatingAdd d.consecutiveFailures)
  | false =>
    have hfailures : ¬ (1 : UInt32) ≤ (d.count false).consecutiveFailures := by
      change ¬ (1 : UInt32) ≤ 0
      decide
    exact (if_neg hfailures).trans
      ((if_neg hfailures).trans (if_pos (one_le_saturatingAdd d.consecutiveSuccesses)))

/-- **At once, a status is reported as it is.** -/
theorem StateStream.judge_immediate {d : Debouncer} (h : d.policy = .immediate) (status : ProbeStatus) :
    (judge d status).2 = status.health := by
  cases hconclusive : status.isConclusive with
  | true =>
    rw [judge_of_isConclusive d hconclusive, Debouncer.observe_health, Debouncer.next_count_of_immediate h]
    cases status <;> first | rfl | cases hconclusive
  | false =>
    cases status <;> first | rfl | cases hconclusive

theorem judgeAll_policy (statuses : List ProbeStatus) :
    ∀ judged : Debouncer × Health, (judgeAll judged statuses).1.policy = judged.1.policy := by
  induction statuses with
  | nil => intro judged; rfl
  | cons status statuses ih =>
    intro judged
    exact (ih _).trans (StateStream.judge_policy judged.1 status)

/-- At once, the last of several statuses is reported. -/
theorem judgeAll_immediate {judged : Debouncer × Health} (h : judged.1.policy = .immediate)
    (statuses : List ProbeStatus) :
    (judgeAll judged statuses).2 = (statuses.getLast?.map ProbeStatus.health).getD judged.2 := by
  induction statuses using List.reverseRecOn with
  | nil => rfl
  | append_singleton statuses status ih =>
    rw [List.getLast?_concat, judgeAll, List.foldl_append]
    exact StateStream.judge_immediate ((judgeAll_policy statuses judged).trans h) status

/-! ### Thresholds -/

/-- What a caller of an engine with its probes registered keeps to: it registers no more of
them, and the streams it puts back are streams of registered probes. -/
def EngineCall.Registered (engine : StateEngine) : EngineCall → Prop
  | register _ _ => False
  | seedStreams _ streams => ∀ s ∈ streams, ∃ mapping : ProbeMapping,
      engine.mappings[s.probe]? = some mapping ∧ mapping.component = s.component ∧
        s.debouncer.policy = mapping.policy
  | _ => True

theorem EngineCall.Registered.proper {engine : StateEngine} {call : EngineCall}
    (h : call.Registered engine) : call.Proper engine := by
  cases call with
  | register probe mapping => exact h.elim
  | seedStreams now streams =>
    intro s hs
    obtain ⟨mapping, hm, hc, -⟩ := h s hs
    exact ⟨mapping, hm, hc⟩
  | _ => trivial

/-- An engine that starts with its probes registered. -/
def registeredMachine (mappings : Std.ExtTreeMap ProbeId ProbeMapping) : Machine StateEngine EngineCall where
  Init := fun engine => engine = .ofMappings mappings
  step := fun engine call => (call.run engine).1
  Allowed := EngineCall.Registered

namespace StateEngine

variable {engine engine' : StateEngine} {mappings : Std.ExtTreeMap ProbeId ProbeMapping}
  {k : StreamKey} {e : EntityId} {c : StateComponent}

/-- Without a registration probes keep their meaning. -/
theorem run_mappings_eq {call : EngineCall} (h : call.Registered engine) :
    (call.run engine).1.mappings = engine.mappings := by
  cases call with
  | register probe mapping => exact h.elim
  | setObservationCutoff cutoff => rfl
  | ingest now o =>
    obtain ⟨streams, states, hframe⟩ := engine.ingest_frame now o
    rw [EngineCall.run, hframe]
  | expire now at_ horizon =>
    obtain ⟨streams, states, hframe⟩ := engine.expire_frame now at_ horizon
    rw [EngineCall.run, hframe]
  | setProbeEnabled now entity probe enabled =>
    obtain ⟨streams, states, disabled, hframe⟩ := engine.setProbeEnabled_frame now entity probe enabled
    rw [EngineCall.run, hframe]
  | seedStreams now streams => exact (seedStreams_frame streams now engine).2.1

/-- An engine whose probes mean what they were registered for: it is settled, and every
stream has the thresholds of its probe. -/
structure Serves (engine : StateEngine) (mappings : Std.ExtTreeMap ProbeId ProbeMapping) : Prop where
  settled : engine.Settled
  mappings_eq : engine.mappings = mappings
  thresholds : ∀ (k : StreamKey) (s : StateStream), engine.streams[k]? = some s →
    ∃ mapping : ProbeMapping, mappings[s.probe]? = some mapping ∧ s.debouncer.policy = mapping.policy

theorem serves_ofMappings (mappings : Std.ExtTreeMap ProbeId ProbeMapping) :
    (ofMappings mappings).Serves mappings where
  settled := settled_ofMappings mappings
  mappings_eq := rfl
  thresholds := fun k s hs => by rw [ofMappings_streams] at hs; cases hs

/-- Every call keeps to what the probes were registered for. -/
theorem Serves.run (h : engine.Serves mappings) {call : EngineCall} (hcall : call.Registered engine) :
    (call.run engine).1.Serves mappings where
  settled := h.settled.run hcall.proper
  mappings_eq := (run_mappings_eq hcall).trans h.mappings_eq
  thresholds := by
    intro k s hs
    rcases call.streams_run engine k with ⟨-, heq⟩ | ⟨now, o, mapping, rfl, rfl, hm, -, heq⟩ |
        ⟨t, -, -, -, ht, heq⟩ | ⟨now, streams, t, -, rfl, hmem, -, -, heq⟩
    · exact h.thresholds k s (heq ▸ hs)
    · obtain rfl := Option.some.inj (heq.symm.trans hs)
      have hmapping : mappings[o.probeId]? = some mapping :=
        h.mappings_eq ▸ mapping_of_gate (admits_eq_some.mp hm).1
      rw [StateStream.accept_probe, StateStream.accept_debouncer, StateStream.judge_policy, streamFor]
      cases ht : engine.streams[o.streamKey]? with
      | none => exact ⟨mapping, hmapping, rfl⟩
      | some t => exact h.thresholds _ t ht
    · obtain rfl := Option.some.inj (heq.symm.trans hs)
      obtain ⟨mapping, hm, hp⟩ := h.thresholds k t ht
      exact ⟨mapping, hm, by rw [StateStream.lapse_debouncer]; exact hp⟩
    · obtain rfl := Option.some.inj (heq.symm.trans hs)
      obtain ⟨mapping, hm, -, hp⟩ := hcall t hmem
      exact ⟨mapping, h.mappings_eq ▸ hm, hp⟩

/-- **Every run keeps to what the probes were registered for.** -/
theorem serves_run {log : List EngineCall} (h : (registeredMachine mappings).Run log engine) :
    engine.Serves mappings :=
  h.invariant (P := fun _ engine => engine.Serves mappings) (fun _ hinit => hinit ▸ serves_ofMappings mappings)
    fun _ _ _ _ hserves hcall => hserves.run hcall

/-! ### What a stream reports -/

/-- What a stream contributes to its component. -/
def report (engine : StateEngine) (k : StreamKey) : Option (StateComponent × Bool × Health) :=
  engine.streams[k]?.map fun s => (s.component, s.expired, s.state.health)

/-- Where the streams report the same, a stream that votes has a counterpart. -/
theorem Settled.exists_votes (h : engine.Settled) (h' : engine'.Settled)
    (hdisabled : engine'.disabled = engine.disabled) (hreport : ∀ k, engine'.report k = engine.report k)
    {s : StateStream} (hs : engine.Votes e c s) :
    ∃ s', engine'.Votes e c s' ∧ s'.probe = s.probe ∧ s'.expired = s.expired ∧
      s'.state.health = s.state.health := by
  obtain ⟨⟨k, hk⟩, he, hc, henabled⟩ := hs
  have hsame := hreport k
  rw [report, report, hk, Option.map_some, Option.map_eq_some_iff] at hsame
  obtain ⟨s', hk', heq⟩ := hsame
  simp only [Prod.mk.injEq] at heq
  have hkey : s'.key = s.key := (h'.keyed k s' hk').trans (h.keyed k s hk).symm
  have hprobe : s'.probe = s.probe := congrArg (fun k => k.2.1) hkey
  refine ⟨s', ⟨⟨k, hk'⟩, (congrArg Prod.fst hkey).trans he, heq.1.trans hc, ?_⟩, hprobe, heq.2⟩
  rw [hprobe, probeEnabled, hdisabled]
  exact henabled

theorem Settled.contributed_subset (h : engine.Settled) (h' : engine'.Settled)
    (hdisabled : engine'.disabled = engine.disabled) (hreport : ∀ k, engine'.report k = engine.report k) :
    engine.contributed e c ⊆ engine'.contributed e c := by
  rintro health ⟨s, ⟨hvotes, hexpired⟩, rfl⟩
  obtain ⟨s', hvotes', hprobe, hexpired', hhealth⟩ := h.exists_votes h' hdisabled hreport hvotes
  refine ⟨s', ⟨hvotes', fun hs' other' hother' hprobe' => ?_⟩, hhealth⟩
  obtain ⟨other, hother, hsame, hsame', -⟩ :=
    h'.exists_votes h hdisabled.symm (fun k => (hreport k).symm) hother'
  rw [← hsame']
  exact hexpired (hexpired' ▸ hs') other hother (hsame.trans (hprobe'.trans hprobe))

/-- **What is reported decides what is read.** -/
theorem Settled.health_eq_of_report (h : engine.Settled) (h' : engine'.Settled)
    (hdisabled : engine'.disabled = engine.disabled) (hreport : ∀ k, engine'.report k = engine.report k)
    (e : EntityId) (c : StateComponent) : engine'.health e c = engine.health e c := by
  have hcontributed : engine'.contributed e c = engine.contributed e c :=
    Set.Subset.antisymm (h'.contributed_subset h hdisabled.symm fun k => (hreport k).symm)
      (h.contributed_subset h' hdisabled hreport)
  have hworst := h'.isWorst_health e c
  rw [hcontributed] at hworst
  exact hworst.unique Health.severityRank_injective (h.isWorst_health e c)

/-- **A component that one stream alone reports reads what that one reports.** -/
theorem Settled.health_of_report (h : engine.Settled) {health : Health}
    (hk : engine.report k = some (c, false, health)) (henabled : engine.probeEnabled k.1 k.2.1 = true)
    (honly : ∀ k', k'.1 = k.1 → ∀ r, engine.report k' = some r → r.1 = c → k' = k) :
    engine.health k.1 c = health := by
  rw [report, Option.map_eq_some_iff] at hk
  obtain ⟨s, hs, heq⟩ := hk
  simp only [Prod.mk.injEq] at heq
  obtain ⟨hc, hexpired, hhealth⟩ := heq
  have hkey := h.keyed k s hs
  have hvotes : engine.Votes k.1 c s :=
    ⟨⟨k, hs⟩, congrArg Prod.fst hkey, hc, by rw [show s.probe = k.2.1 from congrArg (fun k => k.2.1) hkey]; exact henabled⟩
  have hcontributed : engine.contributed k.1 c = {health} := by
    refine Set.eq_singleton_iff_unique_mem.mpr ⟨⟨s, ⟨hvotes, fun htrue => ?_⟩, hhealth⟩, ?_⟩
    · rw [hexpired] at htrue
      cases htrue
    · rintro other ⟨s', ⟨⟨⟨k', hs'⟩, he', hc', -⟩, -⟩, rfl⟩
      have hkey' := h.keyed k' s' hs'
      obtain rfl := honly k' ((congrArg Prod.fst hkey').symm.trans he') _ (by rw [report, hs']; rfl) hc'
      rw [← hhealth, Option.some.inj (hs.symm.trans hs')]
  have hworst := h.isWorst_health k.1 c
  rw [hcontributed] at hworst
  rcases hworst with ⟨hmem, -⟩ | ⟨hempty, -⟩
  · exact hmem
  · exact absurd hempty (Set.singleton_ne_empty health)

/-! ### The last observation -/

/-- Observations as a stream takes them: no identifier comes twice, and none is older than
one before it. -/
def InTurn (os : List Observation) : Prop := os.Pairwise fun a b => a.id ≠ b.id ∧ a.finishedAt ≤ b.finishedAt

/-- **A stream reports the last of its observations**, if its probe reacts at once and none
of them is a repetition or late. -/
theorem Serves.report_ingestAll (h : engine.Serves mappings) (hm : mappings[k.2.1]? = some (.immediate c))
    {events : List (Timestamp × Observation)} (hturn : InTurn ((engine.passing events k).map Prod.snd))
    (hnew : ∀ s, engine.streams[k]? = some s → ∀ event ∈ engine.passing events k,
      s.lastObservation ≠ event.2.id ∧ s.finishedAt ≤ event.2.finishedAt) :
    (engine.ingestAll events).1.report k =
      ((engine.passing events k).getLast?.map fun event => (c, false, event.2.status.health)).or
        (engine.report k) := by
  cases hpass : engine.passing events k with
  | nil => rw [report, ingestAll_streams_of_nil events hpass]; rfl
  | cons first rest =>
    obtain ⟨now, o⟩ := first
    rw [hpass] at hturn hnew
    rw [List.map_cons] at hturn
    have hlast : ∀ judged : Debouncer × Health, judged.1.policy = .immediate →
        (judgeAll judged (((o :: rest.map Prod.snd)).map Observation.status)).2 =
          (((now, o) :: rest).getLast (List.cons_ne_nil _ _)).2.status.health := by
      intro judged hjudged
      rw [judgeAll_immediate hjudged, ← List.map_cons (f := Prod.snd) (a := (now, o)), List.map_map,
        List.getLast?_map, List.getLast?_eq_some_getLast (List.cons_ne_nil _ _)]
      rfl
    rw [List.getLast?_eq_some_getLast (List.cons_ne_nil _ _), Option.map_some, Option.some_or]
    cases hs : engine.streams[k]? with
    | some s =>
      have hprobe : s.probe = k.2.1 := congrArg (fun k => k.2.1) (h.settled.keyed k s hs)
      obtain ⟨mapping, hmapping, hpolicy⟩ := h.thresholds k s hs
      obtain ⟨mapping', hmapping', hcomponent⟩ := h.settled.registered k s hs
      rw [hprobe, hm, Option.some.injEq] at hmapping
      rw [hprobe, h.mappings_eq, hm, Option.some.injEq] at hmapping'
      subst hmapping hmapping'
      have hlater : ∀ o' ∈ o :: rest.map Prod.snd, s.lastObservation ≠ o'.id ∧ s.finishedAt ≤ o'.finishedAt := by
        rw [← List.map_cons (f := Prod.snd) (a := (now, o)), List.forall_mem_map]
        exact hnew s hs
      have htaken : s.taken (o :: rest.map Prod.snd) = o :: rest.map Prod.snd :=
        takenAfter_eq_self _ hlater hturn
      have hfirst := hlater o List.mem_cons_self
      have hrefuses : s.refuses o = false := by simp [StateStream.refuses, hfirst.1, hfirst.2]
      rw [report, ingestAll_streams_of_some events hs, hpass, Option.map_some, List.map_cons,
        (StateStream.replay_frame _ s).2, ← hcomponent]
      have hexpired : (s.replay (o :: rest.map Prod.snd)).expired = false := by
        rw [StateStream.replay_cons, hrefuses]
        exact StateStream.replay_expired _ _ rfl
      have hhealth := congrArg Prod.snd (StateStream.replay_judged (o :: rest.map Prod.snd) s)
      rw [htaken, hlast s.judged hpolicy] at hhealth
      rw [hexpired]
      exact congrArg (fun health => some (c, false, health)) hhealth
    | none =>
      obtain ⟨before, after, mapping, -, -, hgate, hkey, hstream⟩ := ingestAll_streams_of_none events hs hpass
      have hmapping := mapping_of_gate hgate
      rw [show o.probeId = k.2.1 from congrArg (fun k => k.2.1) hkey, h.mappings_eq, hm,
        Option.some.injEq] at hmapping
      subst hmapping
      rw [report, hstream, Option.map_some, (StateStream.replay_frame _ _).2,
        StateStream.replay_expired _ _ rfl]
      have hhealth := congrArg Prod.snd (StateStream.fresh_replay_judged now (.immediate c)
        ((engine.ingestAll before).1.starting now o.targetEntity c) o (rest.map Prod.snd))
      rw [takenFresh_eq_self hturn, judgedFrom, hlast _ rfl] at hhealth
      exact congrArg (fun health => some (c, false, health)) hhealth

/-! ### Which entities have a state -/

/-- An observation gives its target a state, if it is folded in. -/
theorem isSome_states_ingest {now : Timestamp} {o : Observation} :
    (engine.ingest now o).1.states[e]?.isSome = true ↔
      engine.states[e]?.isSome = true ∨ o.targetEntity = e ∧ (engine.admits now o).isSome = true := by
  cases hm : engine.admits now o with
  | none => rw [ingest, hm]; simp
  | some mapping =>
    obtain ⟨since, hstates⟩ :=
      (engine.absorb now mapping o).recompute_states now o.targetEntity mapping.component e
    have htouch : (engine.absorb now mapping o).states[e]? =
        if o.targetEntity = e then some (engine.stateOrUnknown now o.targetEntity) else engine.states[e]? :=
      Std.ExtTreeMap.getElem?_insert_eq
    rw [ingest, hm]
    change ((engine.absorb now mapping o).recompute now o.targetEntity mapping.component).1.states[e]?.isSome = true ↔ _
    rw [hstates, htouch]
    by_cases he : o.targetEntity = e <;> simp [he]

/-- A state that comes to be is the target's of something that passed the gate. -/
theorem exists_passing_of_isSome_states (events : List (Timestamp × Observation)) :
    ∀ {engine : StateEngine}, (engine.ingestAll events).1.states[e]?.isSome = true →
      engine.states[e]?.isSome = true ∨ ∃ k : StreamKey, k.1 = e ∧ engine.passing events k ≠ [] := by
  induction events with
  | nil => intro engine h; exact Or.inl h
  | cons event rest ih =>
    obtain ⟨now, o⟩ := event
    intro engine h
    rw [ingestAll_cons] at h
    by_cases hgate : (engine.gate now o).isSome = true ∧ o.targetEntity = e
    · refine Or.inr ⟨o.streamKey, hgate.2, ?_⟩
      rw [passing_cons_of_eq hgate.1]
      exact List.cons_ne_nil _ _
    · rcases ih h with hstate | ⟨k, hk, hpass⟩
      · rcases isSome_states_ingest.mp hstate with hbefore | ⟨htarget, hadmits⟩
        · exact Or.inl hbefore
        · obtain ⟨mapping, hm⟩ := Option.isSome_iff_exists.mp hadmits
          exact absurd ⟨by rw [(admits_eq_some.mp hm).1]; rfl, htarget⟩ hgate
      · refine Or.inr ⟨k, hk, fun hnil => hpass ?_⟩
        rw [passing_congr (ingest_gate engine now o)]
        have hsuffix : (engine.passing rest k).length ≤ (engine.passing ((now, o) :: rest) k).length :=
          ((List.sublist_cons_self _ _).filter _).length_le
        rw [hnil] at hsuffix
        exact List.length_eq_zero_iff.mp (Nat.le_zero.mp hsuffix)

theorem isSome_states_ingestAll_of (events : List (Timestamp × Observation)) :
    ∀ {engine : StateEngine}, engine.states[e]?.isSome = true →
      (engine.ingestAll events).1.states[e]?.isSome = true := by
  induction events with
  | nil => intro engine h; exact h
  | cons event rest ih => intro engine h; exact ih (isSome_states_ingest.mpr (Or.inl h))

/-- **Which entities have a state**: those that had one, and those something was folded in
about. -/
theorem Settled.isSome_states_ingestAll (h : engine.Settled) (events : List (Timestamp × Observation)) :
    (engine.ingestAll events).1.states[e]?.isSome = true ↔
      engine.states[e]?.isSome = true ∨ ∃ k : StreamKey, k.1 = e ∧ engine.passing events k ≠ [] := by
  refine ⟨exists_passing_of_isSome_states events, ?_⟩
  rintro (hbefore | ⟨k, rfl, hne⟩)
  · exact isSome_states_ingestAll_of events hbefore
  · have hsettled := h.ingestAll events
    obtain ⟨s, hs⟩ : ∃ s, (engine.ingestAll events).1.streams[k]? = some s := by
      cases hstream : engine.streams[k]? with
      | some s => exact ⟨_, ingestAll_streams_of_some events hstream⟩
      | none =>
        obtain ⟨⟨now, o⟩, rest, hpass⟩ := List.exists_cons_of_ne_nil hne
        obtain ⟨before, after, mapping, -, -, -, -, hs⟩ := ingestAll_streams_of_none events hstream hpass
        exact ⟨_, hs⟩
    have hentity : s.entity = k.1 := congrArg Prod.fst (hsettled.keyed k s hs)
    obtain ⟨r, hr⟩ := hsettled.recorded_of_stream s.entity s.component ⟨k, s, hs, rfl, rfl⟩ (Set.notMem_empty _)
    obtain ⟨state, hstate, -⟩ := Option.bind_eq_some_iff.mp hr
    rw [← hentity, hstate]
    rfl

end StateEngine

end Sentinel
