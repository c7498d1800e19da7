import Sentinel.Incident.Engine
import Sentinel.Lib.Machine

/-!
# The lifecycle of incidents

An engine resumed from stored incidents is driven by reconciliations with any
diagnoses, graphs and recovery verdicts.  This file follows its incidents: status
and end stay consistent, an incident's severity and timeline only grow, and every
reconciliation reports what it leaves active and what it resolves exactly once.

## Main definitions

* `Incident.Resumable` — an incident as it is loaded after a restart.
* `incidentMachine` — an engine seeded with such incidents, under reconciliations.
* `IncidentEngine.Consistent` — the invariant.

## Main results

* `Incident.diagnosed_active`, `Incident.diagnosed_continues` — the first pass leaves
  an active incident, which continues the one held unless it is a new one.
* `Incident.undiagnosed_resumable`, `Incident.undiagnosed_continues` — the second.
* `IncidentEngine.Consistent.reconcile` — a reconciliation keeps the invariant.
* `IncidentEngine.lifecycle` — **the lifecycle over every run**.
-/

namespace Sentinel

namespace Incident

variable {now : Timestamp} {id : Uuid} {f : String} {severity : Severity} {graph : DependencyGraph}
  {ds : List Diagnosis} {i : Incident}

/-- An incident as it is loaded after a restart: active or resolved, and ended
exactly if it is resolved. -/
structure Resumable (i : Incident) : Prop where
  status : i.status = .opened ∨ i.status = .acknowledged ∨ i.status = .recovering ∨
    i.status = .resolved
  ended : i.endedAt.isSome ↔ i.status = .resolved

/-- An incident that demands attention, and has not ended. -/
structure Ongoing (i : Incident) : Prop where
  status : i.status = .opened ∨ i.status = .acknowledged ∨ i.status = .recovering
  ended : i.endedAt = none

theorem Ongoing.isActive (h : i.Ongoing) : i.status.isActive = true := by
  rcases h.status with hs | hs | hs <;> rw [hs] <;> rfl

theorem Ongoing.resumable (h : i.Ongoing) : i.Resumable := by
  refine ⟨?_, ?_⟩
  · rcases h.status with hs | hs | hs <;> simp [hs]
  · rw [h.ended]
    rcases h.status with hs | hs | hs <;> simp [hs]

theorem Resumable.ongoing (h : i.Resumable) (hactive : i.status.isActive = true) :
    i.Ongoing := by
  have hne : i.status ≠ .resolved := by
    intro hs
    rw [hs] at hactive
    cases hactive
  refine ⟨?_, ?_⟩
  · rcases h.status with hs | hs | hs | hs
    · exact Or.inl hs
    · exact Or.inr (Or.inl hs)
    · exact Or.inr (Or.inr hs)
    · exact absurd hs hne
  · rw [← Option.not_isSome_iff_eq_none, h.ended]
    exact hne

/-! ### The first pass -/

theorem addDiagnosis_frame (now : Timestamp) (ds : List Diagnosis) :
    ∀ i : Incident,
      let added := ds.foldl (addDiagnosis now) i
      added.id = i.id ∧ added.fingerprint = i.fingerprint ∧ added.status = i.status ∧
        added.endedAt = i.endedAt := by
  induction ds with
  | nil => intro i; exact ⟨rfl, rfl, rfl, rfl⟩
  | cons d ds ih => intro i; exact ih (addDiagnosis now i d)

/-- A new incident is open under its fingerprint and identifier. -/
theorem openFrom_spec (now : Timestamp) (id : Uuid) (f : String) (severity : Severity)
    (ds : List Diagnosis) :
    (openFrom now id f severity ds).id = id ∧ (openFrom now id f severity ds).fingerprint = f ∧
      (openFrom now id f severity ds).Ongoing := by
  obtain ⟨hid, hf, hstatus, hended⟩ := addDiagnosis_frame now ds
    ((Incident.new now id f severity).record now "opened" ("severity " ++ severity.asStr))
  exact ⟨hid, hf, Or.inl hstatus, hended⟩

theorem continues_returned (now : Timestamp) (i : Incident) : i.Continues (i.returned now) := by
  unfold returned
  split
  · exact ⟨rfl, rfl, rfl, le_rfl, List.prefix_append _ _⟩
  split
  · exact ⟨rfl, rfl, rfl, le_rfl, List.prefix_append _ _⟩
  · rfl

/-- A fault that returns leaves its incident open, or acknowledged as it was. -/
theorem Resumable.returned (h : i.Resumable) (now : Timestamp) : (i.returned now).Ongoing := by
  unfold Incident.returned
  split
  · next hs => exact ⟨Or.inl rfl, (h.ongoing (by rw [hs]; rfl)).ended⟩
  split
  · exact ⟨Or.inl rfl, rfl⟩
  · next hrecovering hresolved =>
    refine h.ongoing ?_
    rcases h.status with hs | hs | hs | hs
    · rw [hs]; rfl
    · rw [hs]; rfl
    · exact absurd hs hrecovering
    · exact absurd hs hresolved

theorem continues_refresh (now : Timestamp) (i : Incident) (ds : List Diagnosis) :
    i.Continues (i.refresh now ds) ∧ (i.refresh now ds).status = i.status ∧
      (i.refresh now ds).endedAt = i.endedAt := by
  unfold refresh
  dsimp only
  split
  · obtain ⟨hid, hf, hstarted, hstatus, hended, hseverity, htimeline⟩ :=
      mergeDiagnosis_frame ds { (i.record now "diagnosis_changed"
        (joined (typeNames i.diagnoses) ++ " -> " ++ joined (typeNames ds))) with diagnoses := [] }
    refine ⟨⟨hid, hf, hstarted, hseverity.ge, ?_⟩, hstatus, hended⟩
    rw [htimeline]
    exact List.prefix_append _ _
  · obtain ⟨hid, hf, hstarted, hstatus, hended, hseverity, htimeline⟩ :=
      mergeDiagnosis_frame ds { i with diagnoses := [] }
    exact ⟨⟨hid, hf, hstarted, hseverity.ge, by rw [htimeline]⟩, hstatus, hended⟩

/-- With the types of the diagnoses unchanged, a refresh is not news. -/
theorem refresh_timeline (h : typeNames i.diagnoses = typeNames ds) (now : Timestamp) :
    (i.refresh now ds).timeline = i.timeline := by
  unfold refresh
  rw [if_neg (not_not.mpr h)]
  exact (mergeDiagnosis_frame ds { i with diagnoses := [] }).2.2.2.2.2.2

/-- **The first pass leaves an ongoing incident of the fingerprint.** -/
theorem diagnosed_ongoing {existing : Option Incident}
    (hf : ∀ i ∈ existing, i.fingerprint = f) (hres : ∀ i ∈ existing, i.Resumable) :
    (diagnosed now id graph f ds existing).1.Ongoing ∧
      (diagnosed now id graph f ds existing).1.fingerprint = f := by
  cases existing with
  | none => exact ⟨(openFrom_spec ..).2.2, (openFrom_spec ..).2.1⟩
  | some i =>
    rw [diagnosed]
    split
    · exact ⟨(openFrom_spec ..).2.2, (openFrom_spec ..).2.1⟩
    · have hreturned := (hres i rfl).returned now
      obtain ⟨hescalated, hended⟩ := escalate_status now (i.returned now) (groupSeverity graph ds)
      obtain ⟨hcont, hstatus, hended'⟩ :=
        continues_refresh now ((i.returned now).escalate now (groupSeverity graph ds)) ds
      refine ⟨⟨?_, hended'.trans (hended.trans hreturned.ended)⟩, ?_⟩
      · rw [hstatus, hescalated]
        exact hreturned.status
      · rw [((continues_returned now i).trans ((continues_escalate ..).trans hcont)).fingerprint]
        exact hf i rfl

/-- **The first pass continues the incident held**, unless it opens one under the
identifier allocated for it. -/
theorem diagnosed_continues (now : Timestamp) (id : Uuid) (graph : DependencyGraph) (f : String)
    (ds : List Diagnosis) (i : Incident) :
    i.Continues (diagnosed now id graph f ds (some i)).1 ∨
      (diagnosed now id graph f ds (some i)).1.id = id := by
  rw [diagnosed]
  split
  · exact Or.inr (openFrom_spec ..).1
  · refine Or.inl ((continues_returned now i).trans ?_)
    exact (continues_escalate now _ (groupSeverity graph ds)).trans (continues_refresh now _ ds).1

/-- An open or acknowledged incident diagnosed again, with the same types and no
higher severity, records nothing. -/
theorem diagnosed_timeline (hstatus : i.status = .opened ∨ i.status = .acknowledged)
    (htypes : typeNames i.diagnoses = typeNames ds) (hseverity : groupSeverity graph ds ≤ i.severity) :
    (diagnosed now id graph f ds (some i)).1.timeline = i.timeline := by
  have hreturned : i.returned now = i := by
    unfold returned
    rcases hstatus with hs | hs <;> simp [hs]
  have hresolved : ¬ (i.status = .resolved ∧ i.withinReopenWindow now = false) := by
    rcases hstatus with hs | hs <;> simp [hs]
  rw [diagnosed, if_neg hresolved, hreturned, escalate_of_le hseverity]
  exact refresh_timeline htypes now

/-! ### The second pass -/

theorem undiagnosed_continues (now : Timestamp) (root full : Bool) (i : Incident) :
    i.Continues (i.undiagnosed now root full).1 := by
  unfold undiagnosed
  split
  · exact continues_resolve now i
  split
  · exact ⟨rfl, rfl, rfl, le_rfl, List.prefix_append _ _⟩
  split
  · exact ⟨rfl, rfl, rfl, le_rfl, List.prefix_append _ _⟩
  · rfl

/-- The second pass leaves an incident it resolves ended, and any other ongoing. -/
theorem Ongoing.undiagnosed (h : i.Ongoing) (now : Timestamp) (root full : Bool) :
    (i.undiagnosed now root full).1.Resumable := by
  unfold Incident.undiagnosed
  split
  · exact ⟨Or.inr (Or.inr (Or.inr rfl)), by simp [resolve, record]⟩
  split
  · exact Ongoing.resumable ⟨Or.inr (Or.inr rfl), h.ended⟩
  split
  · exact Ongoing.resumable ⟨Or.inl rfl, h.ended⟩
  · exact h.resumable

end Incident

/-! ### Runs -/

/-- An engine seeded with the incidents a restart loads, under reconciliations; an
identifier allocated for an incident is not the one it replaces. -/
def incidentMachine : Machine IncidentEngine IncidentEngine.Reconciliation where
  Init := fun engine => ∃ incidents : List Incident,
    (∀ i ∈ incidents, i.Resumable) ∧ engine = IncidentEngine.new.seed incidents
  step := fun engine call => (engine.reconcileVerified call).1
  Allowed := fun engine call => ∀ (f : String) (i : Incident),
    engine.incidents[f]? = some i → call.newId f ≠ i.id

namespace IncidentEngine

variable {engine : IncidentEngine} {call : Reconciliation}

/-- Every incident is held under its own fingerprint, as one a restart could load. -/
structure Consistent (engine : IncidentEngine) : Prop where
  keyed : ∀ (f : String) (i : Incident), engine.incidents[f]? = some i → i.fingerprint = f
  resumable : ∀ (f : String) (i : Incident), engine.incidents[f]? = some i → i.Resumable

theorem Consistent.seedOne (h : engine.Consistent) {i : Incident} (hi : i.Resumable) :
    (engine.seedOne i).Consistent := by
  unfold IncidentEngine.seedOne
  split
  · exact h
  · have hone : ∀ (f : String) (j : Incident),
        (engine.incidents.insert i.fingerprint i)[f]? = some j →
          j.fingerprint = f ∧ j.Resumable := by
      intro f j hj
      rw [Std.ExtTreeMap.getElem?_insert_eq] at hj
      split at hj
      · next hf => rw [← Option.some.inj hj]; exact ⟨hf, hi⟩
      · exact ⟨h.keyed f j hj, h.resumable f j hj⟩
    exact ⟨fun f j hj => (hone f j hj).1, fun f j hj => (hone f j hj).2⟩

theorem Consistent.seed (incidents : List Incident) (hres : ∀ i ∈ incidents, i.Resumable) :
    ∀ {engine : IncidentEngine}, engine.Consistent → (engine.seed incidents).Consistent := by
  induction incidents with
  | nil => intro engine h; exact h
  | cons i incidents ih =>
    intro engine h
    exact ih (fun j hj => hres j (List.mem_cons_of_mem _ hj))
      (h.seedOne (hres i List.mem_cons_self))

theorem Consistent.diagnosed (h : engine.Consistent) (call : Reconciliation) (f : String)
    (ds : List Diagnosis) :
    (Incident.diagnosed call.now (call.newId f) call.graph f ds engine.incidents[f]?).1.Ongoing ∧
      (Incident.diagnosed call.now (call.newId f) call.graph f ds
        engine.incidents[f]?).1.fingerprint = f :=
  Incident.diagnosed_ongoing (fun i hi => h.keyed f i hi) (fun i hi => h.resumable f i hi)

/-- **A reconciliation keeps the invariant.** -/
theorem Consistent.reconcile (h : engine.Consistent) (call : Reconciliation) :
    (engine.reconcileVerified call).1.Consistent := by
  have hone : ∀ (f : String) (i : Incident),
      (engine.reconcileVerified call).1.incidents[f]? = some i →
        i.fingerprint = f ∧ i.Resumable := by
    intro f i hi
    cases hg : (grouped call.diagnoses)[f]? with
    | some ds =>
      rw [reconcile_getElem?_of_some _ _ hg, Option.some.injEq] at hi
      obtain ⟨hongoing, hf⟩ := h.diagnosed call f ds
      rw [hi] at hongoing hf
      exact ⟨hf, hongoing.resumable⟩
    | none =>
      rw [reconcile_getElem?_of_none _ _ hg] at hi
      obtain ⟨j, hj, hij⟩ := Option.map_eq_some_iff.mp hi
      have hkeyed := h.keyed f j hj
      have hres := h.resumable f j hj
      split at hij
      · next hactive =>
        rw [← hij]
        exact ⟨(Incident.undiagnosed_continues ..).fingerprint.trans hkeyed,
          (hres.ongoing hactive).undiagnosed ..⟩
      · rw [← hij]; exact ⟨hkeyed, hres⟩
  exact ⟨fun f i hi => (hone f i hi).1, fun f i hi => (hone f i hi).2⟩

theorem consistent_run {log : List Reconciliation} (h : incidentMachine.Run log engine) :
    engine.Consistent := by
  refine h.invariant (P := fun _ engine => engine.Consistent) ?_ ?_
  · rintro engine ⟨incidents, hres, rfl⟩
    refine Consistent.seed incidents hres ⟨fun f i hi => ?_, fun f i hi => ?_⟩
    all_goals simp [new] at hi
  · intro _ engine call _ hengine _
    exact hengine.reconcile call

theorem Consistent.nodup_fingerprints (h : engine.Consistent) :
    (engine.incidents.vals.map Incident.fingerprint).Nodup := by
  have hkeys : engine.incidents.vals.map Incident.fingerprint =
      engine.incidents.toList.map Prod.fst := by
    rw [Std.ExtTreeMap.vals, List.map_map]
    refine List.map_congr_left fun entry hentry => ?_
    exact h.keyed entry.1 entry.2 (Std.ExtTreeMap.mem_toList_iff_getElem?_eq_some.mp hentry)
  rw [hkeys]
  exact Std.ExtTreeMap.nodup_keys_toList _

/-! ### What is reported -/

/-- No fingerprint is reported twice. -/
theorem Consistent.nodup_log (h : engine.Consistent) (call : Reconciliation) :
    (((engine.diagnose call).2 ++ (recover call (engine.diagnose call).1).2).map
      fun entry => entry.2.fingerprint).Nodup := by
  have hfirst : (engine.diagnose call).2.map (fun entry => entry.2.fingerprint) =
      (grouped call.diagnoses).toList.map Prod.fst := by
    rw [diagnose_log, List.map_map]
    exact List.map_congr_left fun group _ => (h.diagnosed call group.1 group.2).2
  have hsecond : (recover call (engine.diagnose call).1).2.map (fun entry => entry.2.fingerprint) =
      (pending call (engine.diagnose call).1).map Prod.fst := by
    rw [recover_log, List.map_map]
    refine List.map_congr_left fun entry hentry => ?_
    exact (Incident.undiagnosed_continues ..).fingerprint.trans
      (h.keyed _ _ (mem_pending.mp hentry).2.1)
  rw [List.map_append, hfirst, hsecond]
  refine List.nodup_append.mpr ⟨Std.ExtTreeMap.nodup_keys_toList _,
    (Std.ExtTreeMap.nodup_keys_toList _).sublist (List.filter_sublist.map _), ?_⟩
  -- the first pass reports what is diagnosed, the second what is not
  rintro f hf _ hf' rfl
  obtain ⟨⟨f, i⟩, hpending, rfl⟩ := List.mem_map.mp hf'
  rw [Std.ExtTreeMap.mem_keys_toList, (mem_pending.mp hpending).1] at hf
  cases hf

/-- No list of the update holds an incident twice. -/
theorem Consistent.nodup_listed (h : engine.Consistent) (call : Reconciliation)
    (slot : Incident.Slot) : ((engine.reconcileVerified call).2.listed slot).Nodup := by
  have hsub := ((List.filter_sublist (p := fun entry : Incident.Slot × Incident =>
    decide (entry.1 = slot))).map fun entry => entry.2.fingerprint).nodup (h.nodup_log call)
  refine List.Nodup.of_map Incident.fingerprint ?_
  rw [reconcile_update, IncidentUpdate.listed_ofLog, List.map_map]
  exact hsub

/-- An incident is reported in one list only. -/
theorem Consistent.slot_unique (h : engine.Consistent) {slot slot' : Incident.Slot} {i : Incident}
    (hi : i ∈ (engine.reconcileVerified call).2.listed slot)
    (hi' : i ∈ (engine.reconcileVerified call).2.listed slot') : slot = slot' := by
  have hmem := IncidentUpdate.mem_listed_ofLog.mp hi
  have hmem' := IncidentUpdate.mem_listed_ofLog.mp hi'
  exact (Prod.mk.inj (List.inj_on_of_nodup_map (h.nodup_log call) hmem hmem' rfl)).1

/-- An incident left active, or resolved by this reconciliation, is reported. -/
theorem exists_listed {f : String} {i : Incident}
    (hi : (engine.reconcileVerified call).1.incidents[f]? = some i)
    (hnews : i.status.isActive = true ∨
      (i.status = .resolved ∧ ∃ j, engine.incidents[f]? = some j ∧ j.status.isActive = true)) :
    ∃ slot, i ∈ (engine.reconcileVerified call).2.listed slot := by
  cases hg : (grouped call.diagnoses)[f]? with
  | some ds =>
    rw [reconcile_getElem?_of_some _ _ hg, Option.some.injEq] at hi
    exact ⟨_, mem_listed_reconcile.mpr (Or.inl ⟨f, ds, hg, Prod.ext hi rfl⟩)⟩
  | none =>
    rw [reconcile_getElem?_of_none _ _ hg] at hi
    obtain ⟨j, hj, hij⟩ := Option.map_eq_some_iff.mp hi
    split at hij
    · next hactive =>
      exact ⟨_, mem_listed_reconcile.mpr (Or.inr ⟨f, j, hg, hj, hactive, Prod.ext hij rfl⟩)⟩
    · next hinactive =>
      -- an inactive incident that is not diagnosed is no news
      exfalso
      rcases hnews with hactive | ⟨-, j', hj', hactive⟩
      · exact hinactive (hij ▸ hactive)
      · rw [hj, Option.some.injEq] at hj'
        exact hinactive (hj' ▸ hactive)

/-- An incident of the same identifier continues the one held before. -/
theorem continues_of_id_eq (hallowed : incidentMachine.Allowed engine call) {f : String}
    {i j : Incident} (hi : engine.incidents[f]? = some i)
    (hj : (engine.reconcileVerified call).1.incidents[f]? = some j) (hid : j.id = i.id) :
    i.Continues j := by
  cases hg : (grouped call.diagnoses)[f]? with
  | some ds =>
    rw [reconcile_getElem?_of_some _ _ hg, Option.some.injEq, hi] at hj
    rcases Incident.diagnosed_continues call.now (call.newId f) call.graph f ds i with h | h
    · rw [hj] at h
      exact h
    · rw [hj] at h
      exact absurd (h.symm.trans hid) (hallowed f i hi)
  | none =>
    rw [reconcile_getElem?_of_none _ _ hg, hi, Option.map_some, Option.some.injEq] at hj
    rw [← hj]
    split
    · exact Incident.undiagnosed_continues ..
    · rfl

/-- **The lifecycle over every run.**  Whatever incidents the engine resumed and
whatever reconciliations drove it: there is one incident for each fingerprint, ended
exactly if it is resolved; and the next reconciliation leaves every diagnosed
fingerprint an active incident, lowers no severity and only extends timelines while
an incident's identifier stays, reports what is active and what it resolved in
exactly one list, once, and records nothing about an open or acknowledged incident
that is diagnosed again with the same types and no higher severity. -/
theorem lifecycle {log : List Reconciliation} (hrun : incidentMachine.Run log engine) :
    (engine.incidents.vals.map Incident.fingerprint).Nodup ∧
    (∀ i ∈ engine.incidents.vals, i.endedAt.isSome ↔ i.status = .resolved) ∧
    ∀ call, incidentMachine.Allowed engine call →
      let after := (engine.reconcileVerified call).1
      let update := (engine.reconcileVerified call).2
      (∀ d ∈ call.diagnoses, ∃ i, after.incidents[fingerprint d]? = some i ∧
        i.status.isActive = true) ∧
      (∀ (f : String) (i j : Incident), engine.incidents[f]? = some i →
        after.incidents[f]? = some j → j.id = i.id →
          i.severity ≤ j.severity ∧ i.timeline <+: j.timeline) ∧
      (∀ slot, (update.listed slot).Nodup) ∧
      (∀ (f : String) (i : Incident), after.incidents[f]? = some i →
        (i.status.isActive = true ∨
          (i.status = .resolved ∧
            ∃ j, engine.incidents[f]? = some j ∧ j.status.isActive = true)) →
        ∃! slot, i ∈ update.listed slot) ∧
      (∀ (f : String) (i j : Incident), engine.incidents[f]? = some i →
        after.incidents[f]? = some j → (i.status = .opened ∨ i.status = .acknowledged) →
        (∃ d ∈ call.diagnoses, fingerprint d = f) →
        Incident.typeNames i.diagnoses = Incident.typeNames (ofFingerprint call.diagnoses f) →
        groupSeverity call.graph (ofFingerprint call.diagnoses f) ≤ i.severity →
          j.timeline = i.timeline) := by
  have hengine := consistent_run hrun
  refine ⟨hengine.nodup_fingerprints, ?_, ?_⟩
  · intro i hi
    obtain ⟨f, hf⟩ := Std.ExtTreeMap.mem_vals.mp hi
    exact (hengine.resumable f i hf).ended
  intro call hallowed after update
  refine ⟨?_, ?_, hengine.nodup_listed call, ?_, ?_⟩
  · intro d hd
    obtain ⟨ds, hds⟩ := Option.isSome_iff_exists.mp (grouped_isSome_iff.mpr ⟨d, hd, rfl⟩)
    exact ⟨_, reconcile_getElem?_of_some _ _ hds, (hengine.diagnosed call _ ds).1.isActive⟩
  · intro f i j hi hj hid
    have hcont := continues_of_id_eq hallowed hi hj hid
    exact ⟨hcont.severity, hcont.timeline⟩
  · intro f i hi hnews
    obtain ⟨slot, hslot⟩ := exists_listed hi hnews
    exact ⟨slot, hslot, fun slot' hslot' => hengine.slot_unique hslot' hslot⟩
  · intro f i j hi hj hstatus hdiagnosed htypes hseverity
    have hgroup : (grouped call.diagnoses)[f]? = some (ofFingerprint call.diagnoses f) := by
      have hsome := grouped_isSome_iff.mpr hdiagnosed
      rw [grouped_getElem?] at hsome ⊢
      split at hsome
      · cases hsome
      · next hne => rw [if_neg hne]
    have hafter : after.incidents[f]? = some _ := reconcile_getElem?_of_some _ _ hgroup
    rw [hj, hi, Option.some.injEq] at hafter
    rw [hafter]
    exact Incident.diagnosed_timeline hstatus htypes hseverity

/-- An acknowledged incident whose only diagnosis is made again. -/
theorem lifecycle_diagnosed_again :
    let d : Diagnosis := ⟨Kind.hostUnreachable, [⟨⟨7⟩⟩], [⟨⟨7⟩⟩], .high, [⟨⟨1⟩⟩], ⟨"reachability"⟩, "", []⟩
    let i : Incident :=
      ⟨⟨1⟩, fingerprint d, .acknowledged, .critical, 0, none, [⟨⟨7⟩⟩], [⟨⟨7⟩⟩], [d], [⟨⟨1⟩⟩],
        [⟨0, "opened", "severity critical"⟩]⟩
    let call : Reconciliation := ⟨9, fun _ => ⟨2⟩, [d], .empty, fun _ => (true, true)⟩
    ∃ j, ((new.seed [i]).reconcileVerified call).1.incidents[fingerprint d]? = some j ∧
      j.status.isActive = true ∧ i.severity ≤ j.severity ∧ j.timeline = i.timeline := by
  intro d i call
  have hrun : incidentMachine.Run [] (new.seed [i]) := by
    refine .init ⟨[i], fun j hj => ?_, rfl⟩
    rw [List.mem_singleton.mp hj]
    exact ⟨Or.inr (Or.inl rfl), by decide⟩
  have hheld : (new.seed [i]).incidents[fingerprint d]? = some i := by decide +kernel
  have hallowed : incidentMachine.Allowed (new.seed [i]) call := by
    intro f j hj
    have hfi : f = fingerprint d := by
      by_contra hne
      have hnone : (new.seed [i]).incidents[f]? = none := by
        change ((∅ : Std.ExtTreeMap String Incident).insert (fingerprint d) i)[f]? = none
        rw [Std.ExtTreeMap.getElem?_insert_eq, if_neg (Ne.symm hne)]
        simp
      rw [hnone] at hj
      cases hj
    rw [hfi, hheld, Option.some.injEq] at hj
    rw [← hj]
    exact (by decide : (⟨2⟩ : Uuid) ≠ ⟨1⟩)
  obtain ⟨hdiagnosed, hgrows, -, -, hquiet⟩ := (lifecycle hrun).2.2 call hallowed
  obtain ⟨j, hj, hactive⟩ := hdiagnosed d (by decide)
  refine ⟨j, hj, hactive, ?_, ?_⟩
  · exact (hgrows _ i j hheld hj (by
      have hid : ((new.seed [i]).reconcileVerified call).1.incidents[fingerprint d]?.map Incident.id =
        some i.id := by decide +kernel
      rw [hj] at hid
      exact Option.some.inj hid)).1
  · exact hquiet _ i j hheld hj (Or.inr rfl) ⟨d, by decide, rfl⟩ (by decide +kernel) (by decide +kernel)

end IncidentEngine

end Sentinel
