import Sentinel.State.History

/-!
# Successes and the severity of a stream

A degraded result justifies at most a degraded health, and the engine caps what
the debouncer says accordingly.  The cap is applied to the report only: the
debouncer itself counts a degraded result like any other bad one, and may hold an
outage that the stream never reported.  The next success reports the debouncer's
verdict without a cap, and the stream turns from degraded to unavailable on good
news.

This file shows the escalation, and that it is the only one: as long as every
success either completes a recovery or finds a debouncer that holds nothing worse
than the stream reports, no success makes a stream more severe, and a stream that
was fed nothing worse than degraded results is never unavailable.

## Main definitions

* `StateStream.Candid` — a success would bring nothing worse to light.
* `resumedMachine` — the engine after a start, under calls whose successes are
  candid.

## Main results

* `StateStream.accept_ok_severity` — what a success does to one stream.
* `StateEngine.degraded_then_ok_reads_unavailable` — the escalation.
* `StateEngine.success_keeps_severity_of_candid` — none of it along candid runs.
-/

namespace Sentinel

/-! ### One success -/

/-- The success at hand completes the recovery. -/
def StateStream.Recovers (s : StateStream) : Prop :=
  s.debouncer.policy.recoveryThreshold ≤ s.debouncer.consecutiveSuccesses.saturatingAdd 1

/-- The thresholds ask for failures before they report one, and a success either
completes the recovery or finds the debouncer holding nothing worse than the
stream reports. -/
def StateStream.Candid (s : StateStream) : Prop :=
  1 ≤ s.debouncer.policy.warningThreshold ∧ 1 ≤ s.debouncer.policy.criticalThreshold ∧
    (s.Recovers ∨
      s.debouncer.health.severityRank ≤
        max s.state.health.severityRank Health.healthy.severityRank)

/-- After a success the debouncer is healthy if that completes the recovery, and
holds its verdict if not. -/
theorem Debouncer.next_count_false {d : Debouncer} (hw : 1 ≤ d.policy.warningThreshold)
    (hc : 1 ≤ d.policy.criticalThreshold) :
    (d.count false).next =
      if d.policy.recoveryThreshold ≤ d.consecutiveSuccesses.saturatingAdd 1 then .healthy
      else d.health := by
  have hw : ¬ d.policy.warningThreshold ≤ 0 := by grind
  have hc : ¬ d.policy.criticalThreshold ≤ 0 := by grind
  simp only [next, count, Bool.false_eq_true, if_false, if_neg hw, if_neg hc]

namespace StateStream

variable {s : StateStream} {o : Observation}

/-- What a stream reports after a success. -/
theorem health_accept_ok (ho : o.status = .ok) (hw : 1 ≤ s.debouncer.policy.warningThreshold)
    (hc : 1 ≤ s.debouncer.policy.criticalThreshold) :
    (s.Recovers ∧ (s.accept o).state.health = .healthy) ∨
      (¬ s.Recovers ∧ (s.accept o).state.health = s.debouncer.health) := by
  have hhealth : (s.accept o).state.health = (s.debouncer.count false).next := by
    rw [accept_health, ho]
    exact Debouncer.observe_health _ _
  rw [hhealth, Debouncer.next_count_false hw hc]
  by_cases hr : s.Recovers
  · exact Or.inl ⟨hr, if_pos hr⟩
  · exact Or.inr ⟨hr, if_neg hr⟩

/-- **A success raises no severity exactly when it finds the stream candid**, but
for a stream that leaves `notApplicable` or `unknown` for healthy. -/
theorem accept_ok_severity (ho : o.status = .ok)
    (hw : 1 ≤ s.debouncer.policy.warningThreshold)
    (hc : 1 ≤ s.debouncer.policy.criticalThreshold) :
    (s.accept o).state.health.severityRank ≤ s.state.health.severityRank ∨
        ((s.state.health = .notApplicable ∨ s.state.health = .unknown) ∧
          (s.accept o).state.health = .healthy) ↔
      s.Candid := by
  unfold Candid
  rw [and_iff_right hw, and_iff_right hc]
  rcases health_accept_ok ho hw hc with ⟨hr, hh⟩ | ⟨hr, hh⟩
  · refine iff_of_true ?_ (Or.inl hr)
    rw [hh]
    cases s.state.health <;> decide
  · rw [or_iff_right hr, hh]
    cases s.state.health <;> cases s.debouncer.health <;> decide

end StateStream

/-! ### Candid runs -/

/-- A success is candid if the stream it reaches is, and a new stream it opens
does not take over a recorded outage it cannot recover from at once. -/
def EngineCall.Candid (engine : StateEngine) : EngineCall → Prop
  | ingest now o => o.status = .ok → ∀ mapping, engine.admits now o = some mapping →
      (engine.streamFor now mapping o).Candid ∧
      (engine.streams[o.streamKey]? = none →
        (engine.streamFor now mapping o).Recovers ∨
          engine.health o.targetEntity mapping.component ≠ .unavailable)
  | _ => True

/-- The engine after a start: whatever is registered and recorded, no stream yet;
then any calls whose successes are candid. -/
def resumedMachine : Machine StateEngine EngineCall where
  Init := fun engine => ∀ k : StreamKey, engine.streams[k]? = none
  step := fun engine call => (call.run engine).1
  Allowed := fun engine call => call.Candid engine

/-- The resumed engine with the history of every stream. -/
def resumedHistory : Machine (StateEngine × (StreamKey → List StreamEvent)) EngineCall :=
  resumedMachine.record fun engine call k => call.events engine k

/-- An event that feeds a stream nothing worse than a degraded result, or puts
one back that is not unavailable. -/
def StreamEvent.Mild : StreamEvent → Prop
  | result o => o.status = .ok ∨ o.status = .degraded
  | seeded s => s.state.health ≠ .unavailable
  | _ => True

namespace StateEngine

variable {engine : StateEngine} {history : StreamKey → List StreamEvent}

theorem cap_degraded_ne_unavailable (health : Health) : cap health .degraded ≠ .unavailable := by
  cases health <;> decide

/-- A new stream starts unavailable only where the component reads so. -/
theorem starting_eq_unavailable {now : Timestamp} {e : EntityId} {c : StateComponent}
    (h : engine.starting now e c = .unavailable) : engine.health e c = .unavailable := by
  unfold starting at h
  split at h
  · cases h
  · rw [← component_stateOrUnknown engine now]; exact h

/-- One more mild result does not make a stream unavailable. -/
theorem accept_ne_unavailable {now : Timestamp} {o : Observation} {mapping : ProbeMapping}
    (hm : engine.admits now o = some mapping) (hcandid : (EngineCall.ingest now o).Candid engine)
    (hmild : (StreamEvent.result o).Mild)
    (hold : ∀ s : StateStream, engine.streams[o.streamKey]? = some s →
      s.state.health ≠ .unavailable) :
    ((engine.streamFor now mapping o).accept o).state.health ≠ .unavailable := by
  rcases hmild with ho | ho
  · obtain ⟨⟨hw, hc, hheld⟩, hnew⟩ := hcandid ho mapping hm
    rcases StateStream.health_accept_ok ho hw hc with ⟨-, hh⟩ | ⟨hr, hh⟩
    · rw [hh]; decide
    · have hheld := hheld.resolve_left hr
      have hreported : (engine.streamFor now mapping o).state.health ≠ .unavailable := by
        cases hs : engine.streams[o.streamKey]? with
        | some s => rw [streamFor, hs]; exact hold s hs
        | none =>
          have hne := (hnew hs).resolve_left hr
          intro hbad
          rw [streamFor, hs] at hbad
          exact hne (starting_eq_unavailable hbad)
      rw [hh]
      intro hbad
      rw [hbad] at hheld
      revert hheld hreported
      cases (engine.streamFor now mapping o).state.health <;> decide
  · rw [StateStream.accept_health, ho]
    exact cap_degraded_ne_unavailable _

/-- **No escalation along candid runs.**  A success makes its stream no more
severe, but for leaving `notApplicable` or `unknown` for healthy, and a stream fed
nothing worse than degraded results is not unavailable. -/
theorem success_keeps_severity_of_candid {log : List EngineCall}
    (h : resumedHistory.Run log (engine, history)) :
    (∀ now o, o.status = .ok → (EngineCall.ingest now o).Candid engine →
      ∀ s s' : StateStream, engine.streams[o.streamKey]? = some s →
        (engine.ingest now o).1.streams[o.streamKey]? = some s' →
        s'.state.health.severityRank ≤ s.state.health.severityRank ∨
          ((s.state.health = .notApplicable ∨ s.state.health = .unknown) ∧
            s'.state.health = .healthy)) ∧
    ∀ (k : StreamKey) (s : StateStream), engine.streams[k]? = some s →
      (∀ event ∈ history k, event.Mild) → s.state.health ≠ .unavailable := by
  refine ⟨fun now o ho hcandid s s' hs hs' => ?_, ?_⟩
  · cases hm : engine.admits now o with
    | none =>
      rw [ingest, hm, hs, Option.some.injEq] at hs'
      exact Or.inl (hs' ▸ le_refl _)
    | some mapping =>
      rw [ingest_streams_of_admits hm, if_pos rfl, Option.some.injEq] at hs'
      obtain ⟨hstream, -⟩ := hcandid ho mapping hm
      have hfor : engine.streamFor now mapping o = s := by rw [streamFor, hs]; rfl
      rw [hfor] at hs' hstream
      rw [← hs']
      exact (StateStream.accept_ok_severity ho hstream.1 hstream.2.1).mpr hstream
  · refine h.invariant (P := fun _ state => ∀ (k : StreamKey) (s : StateStream),
      state.1.streams[k]? = some s → (∀ event ∈ state.2 k, event.Mild) →
        s.state.health ≠ .unavailable) ?_ ?_
    · rintro ⟨engine, history⟩ ⟨hinit, -⟩ k s hs
      rw [hinit k] at hs
      cases hs
    · rintro log ⟨engine, history⟩ call - ih hcandid k s hs hmild
      have hpast : ∀ event ∈ history k, event.Mild :=
        fun event he => hmild event (List.mem_append_left _ he)
      have hnow : ∀ event ∈ call.events engine k, event.Mild :=
        fun event he => hmild event (List.mem_append_right _ he)
      rcases call.streams_run engine k with ⟨-, hsame⟩ |
          ⟨now, o, mapping, rfl, rfl, hm, hev, hnew⟩ | ⟨t, event, -, -, -, hnew⟩ |
          ⟨now, streams, t, earlier, rfl, -, -, hev, hnew⟩
      · exact ih k s (hsame ▸ hs) hpast
      · cases hnew.symm.trans hs
        exact accept_ne_unavailable hm hcandid (hnow _ (by rw [hev]; exact List.mem_singleton_self _))
          fun t ht => ih _ t ht hpast
      · cases hnew.symm.trans hs
        exact fun hbad => by cases hbad
      · cases hnew.symm.trans hs
        exact hnow (.seeded s) (by rw [hev]; simp)

/-- A degraded result and a success after it, which finds the stream candid. -/
theorem success_keeps_severity_of_candid_two_results :
    let report (n : ℕ) (status : ProbeStatus) : Observation :=
      ⟨⟨⟨.ofNat 128 n⟩⟩, ⟨"nfs.client.io"⟩, ⟨⟨7⟩⟩, none, n, status, .null⟩
    let start := StateEngine.new.register ⟨"nfs.client.io"⟩ (.new .storage)
    let engine := ((start.ingest 1 (report 1 .degraded)).1.ingest 2 (report 2 .ok)).1
    ∃ history, resumedHistory.Run
        [.ingest 1 (report 1 .degraded), .ingest 2 (report 2 .ok)] (engine, history) ∧
      ∀ (k : StreamKey) (s : StateStream), engine.streams[k]? = some s →
        (∀ event ∈ history k, event.Mild) → s.state.health ≠ .unavailable := by
  intro report start engine
  have hinit : resumedMachine.Init start := fun k => by simp [start, register, new]
  have hfirst : resumedMachine.Run ([] ++ [.ingest 1 (report 1 .degraded)])
      (start.ingest 1 (report 1 .degraded)).1 :=
    (Machine.Run.init hinit).snoc (i := EngineCall.ingest 1 (report 1 .degraded))
      fun ho => by cases ho
  have hsecond : resumedMachine.Run
      ([] ++ [.ingest 1 (report 1 .degraded)] ++ [.ingest 2 (report 2 .ok)]) engine := by
    refine hfirst.snoc (i := EngineCall.ingest 2 (report 2 .ok)) fun _ mapping hm => ?_
    have hmapping : (start.ingest 1 (report 1 .degraded)).1.admits 2 (report 2 .ok) =
        some (.new .storage) := by decide +kernel
    cases hmapping.symm.trans hm
    refine ⟨⟨by decide +kernel, by decide +kernel, Or.inr (by decide +kernel)⟩, fun hnone => ?_⟩
    exact absurd hnone (by decide +kernel)
  obtain ⟨history, hrun⟩ := Machine.Run.exists_record
    (fun engine (call : EngineCall) k => call.events engine k) hsecond
  exact ⟨history, hrun, (success_keeps_severity_of_candid hrun).2⟩

/-- **A success can turn a degraded stream unavailable**: three degraded results
under the default thresholds, and one success. -/
theorem degraded_then_ok_reads_unavailable :
    let report (n : ℕ) (status : ProbeStatus) : Observation :=
      ⟨⟨⟨.ofNat 128 n⟩⟩, ⟨"nfs.client.io"⟩, ⟨⟨7⟩⟩, none, n, status, .null⟩
    let start := StateEngine.new.register ⟨"nfs.client.io"⟩ (.new .storage)
    let before := (start.ingestAll
      [(1, report 1 .degraded), (2, report 2 .degraded), (3, report 3 .degraded)]).1
    let after := (before.ingest 4 (report 4 .ok)).1
    (before.streams[(report 4 .ok).streamKey]?.map fun s => s.state.health) = some .degraded ∧
    (after.streams[(report 4 .ok).streamKey]?.map fun s => s.state.health) = some .unavailable := by
  decide +kernel

end StateEngine

end Sentinel
