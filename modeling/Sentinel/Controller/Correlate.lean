import Sentinel.Persistence.Hydrate

/-!
# Correlating over restarts

A controller correlates what is diagnosed, saves every incident that a reconciliation
touched, and goes on with the new engine if the save is committed; else it stays with the
one it had.  A controller that starts reads back the incidents it goes on with, saves the
active ones of them again, and seeds its engine with all of them.

## Main definitions

* `Correlator`, `correlator` — the engine, the tables and the clock, in every run.
* `Correlator.Sound` — the tables hold what the engine holds, and beside it only what could
  not be reopened any more.

## Main results

* `Correlator.Sound.reconcile`, `Correlator.Sound.restart` — what happens keeps them sound.
* `Correlator.Sound.resumed` — an engine that is seeded from sound tables is together with
  the one that is replaced.
* `restart_agrees` — **a restart is not seen in what is reported later**.
-/

namespace Sentinel

open IncidentEngine

/-! ### What a reconciliation reports and holds -/

theorem IncidentUpdate.mem_all {update : IncidentUpdate} {i : Incident} :
    i ∈ update.all ↔ ∃ slot, i ∈ update.listed slot := by
  simp only [IncidentUpdate.all, List.mem_append, or_assoc]
  constructor
  · rintro (h | h | h | h)
    · exact ⟨.opened, h⟩
    · exact ⟨.updated, h⟩
    · exact ⟨.recovering, h⟩
    · exact ⟨.resolved, h⟩
  · rintro ⟨slot, h⟩
    cases slot with
    | opened => exact Or.inl h
    | updated => exact Or.inr (Or.inl h)
    | recovering => exact Or.inr (Or.inr (Or.inl h))
    | resolved => exact Or.inr (Or.inr (Or.inr h))

namespace IncidentEngine

variable {engine : IncidentEngine} {call : Reconciliation} {f : String} {i : Incident}

/-- What is reported is held. -/
theorem Consistent.held_of_reported (h : engine.Consistent) (hi : i ∈ (engine.reconcileVerified call).2.all) :
    (engine.reconcileVerified call).1.incidents[i.fingerprint]? = some i := by
  have hheld : ∃ f : String, (engine.reconcileVerified call).1.incidents[f]? = some i := by
    obtain ⟨slot, hslot⟩ := IncidentUpdate.mem_all.mp hi
    rcases mem_listed_reconcile.mp hslot with ⟨f, ds, hg, hout⟩ | ⟨f, j, hg, hj, hactive, hout⟩
    · exact ⟨f, (reconcile_getElem?_of_some engine call hg).trans (congrArg some (congrArg Prod.fst hout))⟩
    · refine ⟨f, (reconcile_getElem?_of_none engine call hg).trans ?_⟩
      rw [hj, Option.map_some, if_pos hactive, hout]
  obtain ⟨f, hf⟩ := hheld
  rwa [(h.reconcile call).keyed f i hf]

/-- What is held without being reported was held before. -/
theorem held_of_unreported (hi : (engine.reconcileVerified call).1.incidents[f]? = some i)
    (hnone : i ∉ (engine.reconcileVerified call).2.all) : engine.incidents[f]? = some i := by
  cases hg : (grouped call.diagnoses)[f]? with
  | some ds =>
    rw [reconcile_getElem?_of_some _ _ hg, Option.some.injEq] at hi
    exact absurd (IncidentUpdate.mem_all.mpr ⟨_, mem_listed_reconcile.mpr (Or.inl ⟨f, ds, hg, Prod.ext hi rfl⟩)⟩) hnone
  | none =>
    rw [reconcile_getElem?_of_none _ _ hg] at hi
    obtain ⟨j, hj, hij⟩ := Option.map_eq_some_iff.mp hi
    split at hij
    · next hactive =>
      have hreported := mem_listed_reconcile.mpr (Or.inr ⟨f, j, hg, hj, hactive, Prod.ext hij rfl⟩)
      exact absurd (IncidentUpdate.mem_all.mpr ⟨_, hreported⟩) hnone
    · rw [hj, hij]

/-- What was held is held, or what goes on with it or replaces it. -/
theorem held_reconcile (call : Reconciliation) (hi : engine.incidents[f]? = some i) :
    ∃ j, (engine.reconcileVerified call).1.incidents[f]? = some j := by
  cases hg : (grouped call.diagnoses)[f]? with
  | some ds => exact ⟨_, reconcile_getElem?_of_some engine call hg⟩
  | none =>
    have hafter := reconcile_getElem?_of_none engine call hg
    rw [hi, Option.map_some] at hafter
    exact ⟨_, hafter⟩

/-- Nothing is reported twice. -/
theorem Consistent.nodup_all (h : engine.Consistent) (call : Reconciliation) :
    (engine.reconcileVerified call).2.all.Nodup := by
  have hdisjoint : ∀ slot slot' : Incident.Slot, slot ≠ slot' →
      ((engine.reconcileVerified call).2.listed slot).Disjoint ((engine.reconcileVerified call).2.listed slot') :=
    fun slot slot' hne i hi hi' => hne (h.slot_unique hi hi')
  have hlisted := h.nodup_listed call
  refine List.Nodup.append (List.Nodup.append (List.Nodup.append (hlisted .opened) (hlisted .updated) ?_)
    (hlisted .recovering) ?_) (hlisted .resolved) ?_
  · exact hdisjoint .opened .updated (by decide)
  · refine List.disjoint_append_left.mpr ⟨?_, ?_⟩
    · exact hdisjoint .opened .recovering (by decide)
    · exact hdisjoint .updated .recovering (by decide)
  · refine List.disjoint_append_left.mpr ⟨List.disjoint_append_left.mpr ⟨?_, ?_⟩, ?_⟩
    · exact hdisjoint .opened .resolved (by decide)
    · exact hdisjoint .updated .resolved (by decide)
    · exact hdisjoint .recovering .resolved (by decide)

end IncidentEngine

/-! ### The correlator -/

/-- A controller that correlates. -/
structure Correlator where
  /-- The incidents it holds. -/
  engine : IncidentEngine
  /-- The tables. -/
  tables : MonitoringTables
  /-- When it did something last. -/
  clock : Timestamp

/-- What may happen to it. -/
inductive CorrelatorInput
  /-- A reconciliation, and the statements of its save that fail. -/
  | reconcile (call : Reconciliation) (fault : ℕ → Bool)
  /-- The controller starts again, and the statements of its save that fail. -/
  | restart (now : Timestamp) (fault : ℕ → Bool)

section Correlating

variable (environment : String) (newV5 : Uuid → String → Uuid) (toRfc3339 : Timestamp → String)

namespace Correlator

/-- Correlate, and save what was touched; the new engine stays if that is committed.  The
end of the source's `diagnose_and_correlate`. -/
def reconcile (c : Correlator) (call : Reconciliation) (fault : ℕ → Bool) : Correlator :=
  let (candidate, update) := c.engine.reconcileVerified call
  let (incidents, committed) := c.tables.incidents.saveIncidents environment newV5 toRfc3339 fault update.all
  ⟨if committed then candidate else c.engine, { c.tables with incidents := incidents }, call.now⟩

/-- What a controller that starts saves again. -/
def resumesActive (c : Correlator) (now : Timestamp) : List Incident :=
  (c.tables.resumableIncidents environment now).filter fun i => i.status.isActive

/-- Start again: the part of the source's `Controller::new` that is about incidents. -/
def restart (c : Correlator) (now : Timestamp) (fault : ℕ → Bool) : Correlator :=
  let (incidents, _) := c.tables.incidents.saveIncidents environment newV5 toRfc3339 fault
    (c.resumesActive environment now)
  ⟨IncidentEngine.new.seed (c.tables.resumableIncidents environment now),
    { c.tables with incidents := incidents }, now⟩

end Correlator

/-- The identifiers allocated for incidents are new: there is no row under one of them, and
two faults get different ones. -/
structure IncidentEngine.Reconciliation.Fresh (t : IncidentTables) (call : Reconciliation) : Prop where
  unstored : call.Allocates fun id => t.incidents[id]? = none
  apart : ∀ d ∈ call.diagnoses, ∀ d' ∈ call.diagnoses,
    call.newId (fingerprint d) = call.newId (fingerprint d') → fingerprint d = fingerprint d'

/-- A controller that begins with no incidents of its environment, on a clock that does not
go back.  It starts only if it can save. -/
def correlator : Machine Correlator CorrelatorInput where
  Init := fun c => c.engine = .new ∧ c.tables.incidents.Bare ∧
    (∀ (id : Uuid) (row : StoredIncident), c.tables.incidents.incidents[id]? = some row →
      row.environment ≠ environment) ∧
    ∀ resetAt ∈ c.tables.resets[environment]?, resetAt ≤ c.clock
  step := fun c input =>
    match input with
    | .reconcile call fault => c.reconcile environment newV5 toRfc3339 call fault
    | .restart now fault => c.restart environment newV5 toRfc3339 now fault
  Allowed := fun c input =>
    match input with
    | .reconcile call _ => c.clock ≤ call.now ∧ call.Fresh c.tables.incidents
    | .restart now fault => c.clock ≤ now ∧ (c.tables.incidents.saveIncidents environment newV5 toRfc3339 fault
        (c.resumesActive environment now)).2 = true

end Correlating

/-! ### Sound tables -/

namespace Correlator

variable {environment : String} {newV5 : Uuid → String → Uuid} {toRfc3339 : Timestamp → String}
  {c : Correlator} {call : Reconciliation} {now : Timestamp} {f g : String} {i j : Incident}

/-- An incident that is over: it was resolved too long before what is held of its fault
began, or before now. -/
structure Past (c : Correlator) (row : StoredIncident) (endedAt : Timestamp) : Prop where
  status : row.status = .resolved
  ended : row.endedAt = some endedAt
  started : row.startedAt ≤ endedAt
  held : ∀ i, c.engine.incidents[row.fingerprint]? = some i → endedAt + Incident.reopenWindow ≤ i.startedAt
  unheld : c.engine.incidents[row.fingerprint]? = none → endedAt + Incident.reopenWindow < c.clock

/-- The tables hold what the engine holds, and beside it only what is over. -/
structure Sound (environment : String) (c : Correlator) : Prop where
  consistent : c.engine.Consistent
  bare : c.tables.incidents.Bare
  reset : ∀ resetAt ∈ c.tables.resets[environment]?, resetAt ≤ c.clock
  tidy : ∀ (f : String) (i : Incident), c.engine.incidents[f]? = some i → i.Tidy c.clock
  records : ∀ (f : String) (i : Incident), c.engine.incidents[f]? = some i →
    c.tables.incidents.Records environment i
  begun : ∀ (id : Uuid) (row : StoredIncident), c.tables.incidents.incidents[id]? = some row →
    row.environment = environment → ∀ resetAt ∈ c.tables.resets[environment]?, resetAt ≤ row.startedAt
  rows : ∀ (id : Uuid) (row : StoredIncident), c.tables.incidents.incidents[id]? = some row →
    row.environment = environment →
    (∃ i, c.engine.incidents[row.fingerprint]? = some i ∧ i.id = id) ∨ ∃ endedAt, c.Past row endedAt

theorem sound_init (h : (correlator environment newV5 toRfc3339).Init c) : c.Sound environment := by
  obtain ⟨hnew, hbare, hnone, hreset⟩ := h
  have hheld : ∀ (f : String) (i : Incident), c.engine.incidents[f]? ≠ some i := by
    intro f i
    rw [hnew]
    simp [IncidentEngine.new]
  refine ⟨⟨fun f i hi => ?_, fun f i hi => ?_⟩, hbare, hreset, fun f i hi => ?_, fun f i hi => ?_,
    fun id row hrow henvironment => ?_, fun id row hrow henvironment => ?_⟩
  · exact absurd hi (hheld f i)
  · exact absurd hi (hheld f i)
  · exact absurd hi (hheld f i)
  · exact absurd hi (hheld f i)
  · exact absurd henvironment (hnone id row hrow)
  · exact absurd henvironment (hnone id row hrow)

/-- An identifier is held once. -/
theorem Sound.eq_of_id (h : c.Sound environment) (hi : c.engine.incidents[f]? = some i)
    (hj : c.engine.incidents[g]? = some j) (hid : i.id = j.id) : f = g := by
  have hrow := (h.records f i hi).row
  rw [hid, (h.records g j hj).row, Option.some.injEq] at hrow
  rw [← h.consistent.keyed f i hi, ← h.consistent.keyed g j hj]
  exact (congrArg StoredIncident.fingerprint hrow).symm

/-- Time passes. -/
theorem Sound.mono (h : c.Sound environment) (hnow : c.clock ≤ now) : { c with clock := now }.Sound environment where
  consistent := h.consistent
  bare := h.bare
  reset := fun resetAt hresetAt => (h.reset resetAt hresetAt).trans hnow
  tidy := fun f i hi => (h.tidy f i hi).mono hnow
  records := h.records
  begun := h.begun
  rows := fun id row hrow henvironment => (h.rows id row hrow henvironment).imp_right fun ⟨endedAt, hpast⟩ =>
    ⟨endedAt, { hpast with unheld := fun hnone => (hpast.unheld hnone).trans_le hnow }⟩

/-! ### A reconciliation -/

/-- After a reconciliation an identifier is held once. -/
theorem Sound.eq_of_id_reconcile (h : c.Sound environment) (hnow : c.clock ≤ call.now)
    (hfresh : call.Fresh c.tables.incidents)
    (hi : (c.engine.reconcileVerified call).1.incidents[f]? = some i)
    (hj : (c.engine.reconcileVerified call).1.incidents[g]? = some j) (hid : i.id = j.id) : f = g := by
  have hstored : ∀ {f : String} {i : Incident}, c.engine.incidents[f]? = some i →
      c.tables.incidents.incidents[i.id]? ≠ none := by
    intro f i hi
    rw [(h.records f i hi).row]
    exact Option.some_ne_none _
  obtain ⟨-, ⟨i₀, hi₀, hcontinues, -⟩ | hi⟩ := grown_reconcile h.tidy hnow hi
  · obtain ⟨-, ⟨j₀, hj₀, hcontinues', -⟩ | hj⟩ := grown_reconcile h.tidy hnow hj
    · exact h.eq_of_id hi₀ hj₀ (by rw [← hcontinues.id, ← hcontinues'.id, hid])
    · obtain ⟨d, hd, rfl⟩ := hj.diagnosed
      refine absurd (hfresh.unstored d hd) ?_
      rw [← hj.id, ← hid, hcontinues.id]
      exact hstored hi₀
  · obtain ⟨d, hd, rfl⟩ := hi.diagnosed
    obtain ⟨-, ⟨j₀, hj₀, hcontinues', -⟩ | hj⟩ := grown_reconcile h.tidy hnow hj
    · refine absurd (hfresh.unstored d hd) ?_
      rw [← hi.id, hid, hcontinues'.id]
      exact hstored hj₀
    · obtain ⟨d', hd', rfl⟩ := hj.diagnosed
      exact hfresh.apart d hd d' hd' (by rw [← hi.id, ← hj.id, hid])

/-- What is held after a reconciliation began no earlier than what was held. -/
theorem Sound.startedAt_reconcile (h : c.Sound environment) (hnow : c.clock ≤ call.now)
    (hi : (c.engine.reconcileVerified call).1.incidents[f]? = some i) (hj : c.engine.incidents[f]? = some j) :
    j.startedAt ≤ i.startedAt := by
  obtain ⟨-, ⟨before, hbefore, hcontinues, -⟩ | hreplaces⟩ := grown_reconcile h.tidy hnow hi
  · rw [hj, Option.some.injEq] at hbefore
    rw [hcontinues.startedAt, hbefore]
  · rw [hreplaces.startedAt]
    exact (h.tidy f j hj).started.trans hnow

/-- An incident that is over stays over. -/
theorem Sound.past_reconcile (h : c.Sound environment) (hnow : c.clock ≤ call.now) {row : StoredIncident}
    {endedAt : Timestamp} (hpast : c.Past row endedAt) (tables : MonitoringTables) :
    (⟨(c.engine.reconcileVerified call).1, tables, call.now⟩ : Correlator).Past row endedAt := by
  refine ⟨hpast.status, hpast.ended, hpast.started, fun i hi => ?_, fun hnone => ?_⟩
  · cases hj : c.engine.incidents[row.fingerprint]? with
    | some j => exact (hpast.held j hj).trans (h.startedAt_reconcile hnow hi hj)
    | none =>
      obtain ⟨-, ⟨before, hbefore, -⟩ | hreplaces⟩ := grown_reconcile h.tidy hnow hi
      · rw [hj] at hbefore
        cases hbefore
      · rw [hreplaces.startedAt]
        exact (hpast.unheld hj).le.trans hnow
  · cases hj : c.engine.incidents[row.fingerprint]? with
    | some j =>
      obtain ⟨i, hi⟩ := held_reconcile call hj
      exact absurd hnone (by rw [hi]; exact Option.some_ne_none i)
    | none => exact (hpast.unheld hj).trans_le hnow

/-- What is held of a fault is over once it is replaced. -/
theorem Sound.past_of_replaces (h : c.Sound environment) (hi : (c.engine.reconcileVerified call).1.incidents[f]? = some i)
    (hreplaces : c.engine.Replaces call f i) (hj : c.engine.incidents[f]? = some j) (tables : MonitoringTables) :
    ∃ endedAt, (⟨(c.engine.reconcileVerified call).1, tables, call.now⟩ : Correlator).Past
      ⟨environment, j.fingerprint, j.status, j.severity, j.startedAt, j.endedAt⟩ endedAt := by
  obtain ⟨hresolved, hwindow⟩ := hreplaces.before j hj
  obtain ⟨endedAt, hended, hlate⟩ := Incident.withinReopenWindow_eq_false.mp hwindow
  refine ⟨endedAt, hresolved, hended, ((h.tidy f j hj).ended endedAt hended).1, fun i' hi' => ?_, fun hnone => ?_⟩
  · rw [h.consistent.keyed f j hj, hi, Option.some.injEq] at hi'
    rw [← hi', hreplaces.startedAt]
    exact hlate
  · rw [h.consistent.keyed f j hj, hi] at hnone
    cases hnone

/-- What a reconciliation reports can be saved: under its identifier there is nothing, or
what it goes on with. -/
theorem Sound.precedes (h : c.Sound environment) (hnow : c.clock ≤ call.now)
    (hfresh : call.Fresh c.tables.incidents) (hi : i ∈ (c.engine.reconcileVerified call).2.all) :
    c.tables.incidents.Precedes environment i := by
  obtain ⟨-, ⟨before, hbefore, hcontinues, hevidence⟩ | hreplaces⟩ :=
    grown_reconcile h.tidy hnow (h.consistent.held_of_reported hi)
  · exact Or.inr ⟨before, h.records _ before hbefore, hcontinues, hevidence⟩
  · obtain ⟨d, hd, hf⟩ := hreplaces.diagnosed
    refine Or.inl ?_
    rw [hreplaces.id, ← hf]
    exact hfresh.unstored d hd

/-- A reconciliation that is saved keeps the tables sound. -/
theorem Sound.reconcile_saved (h : c.Sound environment) (hnow : c.clock ≤ call.now)
    (hfresh : call.Fresh c.tables.incidents) :
    (⟨(c.engine.reconcileVerified call).1, { c.tables with
      incidents := c.tables.incidents.savedAll environment newV5 toRfc3339
        (c.engine.reconcileVerified call).2.all }, call.now⟩ : Correlator).Sound environment := by
  set update := (c.engine.reconcileVerified call).2 with hupdate
  have hheld : ∀ {i : Incident}, i ∈ update.all →
      (c.engine.reconcileVerified call).1.incidents[i.fingerprint]? = some i :=
    fun hi => h.consistent.held_of_reported hi
  have hunique : ∀ {f : String} {i j : Incident}, i ∈ update.all →
      (c.engine.reconcileVerified call).1.incidents[f]? = some j → i.id = j.id → i = j := by
    intro f i j hi hj hid
    have hf := h.eq_of_id_reconcile hnow hfresh (hheld hi) hj hid
    have hboth := hheld hi
    rw [hf, hj, Option.some.injEq] at hboth
    exact hboth.symm
  have hids : (update.all.map Incident.id).Nodup :=
    (h.consistent.nodup_all call).map_on fun i hi j hj hid => hunique hi (hheld hj) hid
  obtain ⟨hbare, hsaved, hsame⟩ := @IncidentTables.records_savedAll environment newV5 toRfc3339
    update.all _ hids h.bare fun i hi => h.precedes hnow hfresh hi
  set after := c.tables.incidents.savedAll environment newV5 toRfc3339 update.all
  have hrecords : ∀ (f : String) (i : Incident), (c.engine.reconcileVerified call).1.incidents[f]? = some i →
      after.Records environment i := by
    intro f i hi
    by_cases hreported : i ∈ update.all
    · exact hsaved i hreported
    · refine (h.records f i (held_of_unreported hi hreported)).of_sameAt (hsame i.id fun hid => hreported ?_)
      obtain ⟨j, hj, hid⟩ := List.mem_map.mp hid
      exact hunique hj hi hid ▸ hj
  have hgrown := fun {f : String} {i : Incident}
    (hi : (c.engine.reconcileVerified call).1.incidents[f]? = some i) => grown_reconcile h.tidy hnow hi
  -- a row is that of an incident that is reported, or as it was
  have hrow : ∀ (id : Uuid) (row : StoredIncident), after.incidents[id]? = some row →
      (∃ i ∈ update.all, i.id = id ∧
        row = ⟨environment, i.fingerprint, i.status, i.severity, i.startedAt, i.endedAt⟩) ∨
      c.tables.incidents.incidents[id]? = some row := by
    intro id row hrow
    by_cases hid : id ∈ update.all.map Incident.id
    · obtain ⟨i, hi, rfl⟩ := List.mem_map.mp hid
      rw [(hsaved i hi).row, Option.some.injEq] at hrow
      exact Or.inl ⟨i, hi, rfl, hrow.symm⟩
    · exact Or.inr ((hsame id hid).row ▸ hrow)
  refine ⟨h.consistent.reconcile call, hbare, fun resetAt hreset => (h.reset resetAt hreset).trans hnow,
    fun f i hi => (hgrown hi).1, hrecords, ?_, ?_⟩
  · intro id row hget henvironment resetAt hreset
    rcases hrow id row hget with ⟨i, hi, -, rfl⟩ | hbefore
    · obtain ⟨-, ⟨before, hbefore, hcontinues, -⟩ | hreplaces⟩ := hgrown (hheld hi)
      · show resetAt ≤ i.startedAt
        rw [hcontinues.startedAt]
        exact h.begun before.id _ (h.records _ before hbefore).row rfl resetAt hreset
      · show resetAt ≤ i.startedAt
        rw [hreplaces.startedAt]
        exact (h.reset resetAt hreset).trans hnow
    · exact h.begun id row hbefore henvironment resetAt hreset
  · intro id row hget henvironment
    rcases hrow id row hget with ⟨i, hi, hid, rfl⟩ | hbefore
    · exact Or.inl ⟨i, hheld hi, hid⟩
    rcases h.rows id row hbefore henvironment with ⟨j, hj, hid⟩ | ⟨endedAt, hpast⟩
    · obtain ⟨i, hi⟩ := held_reconcile call hj
      obtain ⟨-, ⟨before, hbefore', hcontinues, -⟩ | hreplaces⟩ := hgrown hi
      · rw [hj, Option.some.injEq] at hbefore'
        exact Or.inl ⟨i, hi, by rw [hcontinues.id, ← hbefore', hid]⟩
      · have hrecorded := (h.records _ j hj).row
        rw [hid, hbefore, Option.some.injEq] at hrecorded
        rw [hrecorded]
        exact Or.inr (h.past_of_replaces hi hreplaces hj _)
    · exact Or.inr ⟨endedAt, h.past_reconcile hnow hpast _⟩

/-- **A reconciliation keeps the tables sound**, whether it can be saved or not. -/
theorem Sound.reconcile (h : c.Sound environment) (hnow : c.clock ≤ call.now)
    (hfresh : call.Fresh c.tables.incidents) (fault : ℕ → Bool) :
    (c.reconcile environment newV5 toRfc3339 call fault).Sound environment := by
  unfold Correlator.reconcile
  dsimp only
  set update := (c.engine.reconcileVerified call).2 with hupdate
  cases hcommitted : (c.tables.incidents.saveIncidents environment newV5 toRfc3339 fault update.all).2 with
  | false =>
    rw [if_neg Bool.false_ne_true]
    have hsame : (c.tables.incidents.saveIncidents environment newV5 toRfc3339 fault update.all).1 =
        c.tables.incidents := transaction_of_failed hcommitted
    rw [hsame]
    exact h.mono hnow
  | true =>
    rw [if_pos rfl, IncidentTables.saveIncidents_of_committed hcommitted]
    exact h.reconcile_saved hnow hfresh

/-! ### A restart -/

/-- An incident that a controller that starts goes on with. -/
def Resumes (now : Timestamp) (i : Incident) : Prop :=
  i.status.isActive = true ∨
    i.status = .resolved ∧ ∃ endedAt, i.endedAt = some endedAt ∧ now - Incident.reopenWindow ≤ endedAt

/-- An incident as it is read back. -/
def readBack (environment : String) (c : Correlator) (i : Incident) : Incident :=
  c.tables.incidents.hydrateIncident i.id
    ⟨environment, i.fingerprint, i.status, i.severity, i.startedAt, i.endedAt⟩

/-- What is held and goes on is read back. -/
theorem Sound.readBack_mem (h : c.Sound environment) (hi : c.engine.incidents[f]? = some i)
    (hresumes : Resumes now i) : c.readBack environment i ∈ c.tables.resumableIncidents environment now := by
  have hrow := (h.records f i hi).row
  exact MonitoringTables.mem_resumableIncidents.mpr ⟨_, hrow, rfl, rfl, h.begun _ _ hrow rfl, hresumes⟩

/-- **What is read back** is what is held of its fault, or is over since the fault began
again. -/
theorem Sound.of_mem_resumable (h : c.Sound environment) (hnow : c.clock ≤ now)
    (hj : j ∈ c.tables.resumableIncidents environment now) :
    j.Resumable ∧ ∃ i, c.engine.incidents[j.fingerprint]? = some i ∧ Resumes now i ∧
      (j = c.readBack environment i ∨ j.status = .resolved ∧ j.startedAt < i.startedAt) := by
  obtain ⟨row, hrow, hread, henvironment, -, hresumes⟩ := MonitoringTables.mem_resumableIncidents.mp hj
  have hfingerprint : row.fingerprint = j.fingerprint := congrArg Incident.fingerprint hread
  have hstatus : row.status = j.status := congrArg Incident.status hread
  have hended : row.endedAt = j.endedAt := congrArg Incident.endedAt hread
  have hstarted : row.startedAt = j.startedAt := congrArg Incident.startedAt hread
  rcases h.rows j.id row hrow henvironment with ⟨i, hi, hid⟩ | ⟨endedAt, hpast⟩
  · have hrecorded := (h.records _ i hi).row
    rw [hid, hrow, Option.some.injEq] at hrecorded
    have hresumable := h.consistent.resumable _ i hi
    have hlike : j.status = i.status ∧ j.endedAt = i.endedAt := by
      rw [← hstatus, ← hended, hrecorded]
      exact ⟨rfl, rfl⟩
    refine ⟨⟨?_, ?_⟩, i, hfingerprint ▸ hi, ?_, Or.inl ?_⟩
    · rw [hlike.1]
      exact hresumable.status
    · rw [hlike.1, hlike.2]
      exact hresumable.ended
    · rw [hrecorded] at hresumes
      exact hresumes
    · rw [readBack, hid, ← hrecorded, hread]
  · have hlate : now ≤ endedAt + Incident.reopenWindow := by
      rcases hresumes with hactive | ⟨-, endedAt', hended', hlate⟩
      · rw [hpast.status] at hactive
        cases hactive
      · rw [hpast.ended, Option.some.injEq] at hended'
        rw [hended']
        exact sub_le_iff_le_add.mp hlate
    have hresumable : j.Resumable := by
      refine ⟨Or.inr (Or.inr (Or.inr ?_)), ?_⟩
      · rw [← hstatus, hpast.status]
      · rw [← hstatus, ← hended, hpast.status, hpast.ended]
        exact iff_of_true rfl rfl
    cases hi : c.engine.incidents[row.fingerprint]? with
    | none => exact absurd ((hpast.unheld hi).trans_le hnow) (not_lt.mpr hlate)
    | some i =>
      -- what is held began as the restart comes
      have hbegan : now ≤ i.startedAt := hlate.trans (hpast.held i hi)
      have htidy := h.tidy _ i hi
      refine ⟨hresumable, i, hfingerprint ▸ hi, ?_, Or.inr ⟨hstatus ▸ hpast.status, ?_⟩⟩
      · cases hactive : i.status.isActive with
        | true => exact Or.inl hactive
        | false =>
          have hresolved := (h.consistent.resumable _ i hi).resolved hactive
          obtain ⟨e, he⟩ := Option.isSome_iff_exists.mp ((h.consistent.resumable _ i hi).ended.mpr hresolved)
          refine Or.inr ⟨hresolved, e, he, ?_⟩
          exact (sub_le_self now Incident.reopenWindow_pos.le).trans (hbegan.trans (htidy.ended e he).1)
      · rw [← hstarted]
        exact hpast.started.trans_lt ((lt_add_of_pos_right endedAt Incident.reopenWindow_pos).trans_le (hpast.held i hi))

/-- An incident that goes on is preferred to one that is over since its fault began again. -/
theorem keepsExisting_of_over {best other : Incident} (hover : other.status = .resolved)
    (hlater : other.startedAt < best.startedAt) :
    keepsExisting best other = true ∧ keepsExisting other best = false := by
  have hinactive : other.status.isActive = false := by rw [hover]; rfl
  rw [keepsExisting, keepsExisting, hinactive]
  cases hactive : best.status.isActive with
  | true => exact ⟨rfl, rfl⟩
  | false =>
    rw [decide_eq_true hlater.le, decide_eq_false (not_le.mpr hlater)]
    exact ⟨rfl, rfl⟩

/-- The engine of a controller that starts holds what is held and goes on, as it is read back. -/
theorem Sound.seeded (h : c.Sound environment) (hnow : c.clock ≤ now) (f : String) :
    (∃ i, c.engine.incidents[f]? = some i ∧ Resumes now i ∧
      (IncidentEngine.new.seed (c.tables.resumableIncidents environment now)).incidents[f]? =
        some (c.readBack environment i)) ∨
    (∀ i, c.engine.incidents[f]? = some i → ¬ Resumes now i) ∧
      (IncidentEngine.new.seed (c.tables.resumableIncidents environment now)).incidents[f]? = none := by
  have hnew : IncidentEngine.new.incidents[f]? = none := by simp [IncidentEngine.new]
  by_cases hgoes : ∃ i, c.engine.incidents[f]? = some i ∧ Resumes now i
  · obtain ⟨i, hi, hresumes⟩ := hgoes
    refine Or.inl ⟨i, hi, hresumes, ?_⟩
    have hf : (c.readBack environment i).fingerprint = f := h.consistent.keyed f i hi
    have hmem := h.readBack_mem hi hresumes
    rw [← hf]
    apply seed_getElem?_of_mem
    · simp [keepsExisting]
    · intro j hj hfj
      obtain ⟨-, i', hi', -, hread⟩ := h.of_mem_resumable hnow hj
      rw [hfj, hf, hi, Option.some.injEq] at hi'
      rcases hread with hread | ⟨hover, hlater⟩
      · exact Or.inl (by rw [hread, hi'])
      · exact Or.inr (keepsExisting_of_over hover (hi' ▸ hlater))
    · intro held hheld
      rw [hf, hnew] at hheld
      cases hheld
    · exact Or.inl hmem
  · refine Or.inr ⟨fun i hi hresumes => hgoes ⟨i, hi, hresumes⟩, (seed_getElem?_of_notMem _ ?_).trans hnew⟩
    rintro j hj rfl
    obtain ⟨-, i, hi, hresumes, -⟩ := h.of_mem_resumable hnow hj
    exact hgoes ⟨i, hi, hresumes⟩

/-- What is held and does not go on was resolved, and cannot be reopened. -/
theorem Sound.resolved_of_not_resumes (h : c.Sound environment) (hi : c.engine.incidents[f]? = some i)
    (hnot : ¬ Resumes now i) :
    i.status = .resolved ∧ ∃ endedAt, i.endedAt = some endedAt ∧ endedAt + Incident.reopenWindow < now := by
  have hresumable := h.consistent.resumable f i hi
  have hresolved := hresumable.resolved (Bool.eq_false_iff.mpr fun hactive => hnot (Or.inl hactive))
  obtain ⟨endedAt, hended⟩ := Option.isSome_iff_exists.mp (hresumable.ended.mpr hresolved)
  refine ⟨hresolved, endedAt, hended, lt_sub_iff_add_lt.mp (not_le.mp fun hle => hnot ?_)⟩
  exact Or.inr ⟨hresolved, endedAt, hended, hle⟩

/-- An incident that is held, with no announced event twice on its timeline. -/
def HeldOnce (c : Correlator) (id : Uuid) : Prop :=
  ∃ (f : String) (i : Incident), c.engine.incidents[f]? = some i ∧ i.id = id ∧ (i.timeline.filter announced).Nodup

/-- **An engine seeded from sound tables is together with the one it replaces.** -/
theorem Sound.resumed (h : c.Sound environment) (hnow : c.clock ≤ now) :
    Resumed c.HeldOnce now c.engine (IncidentEngine.new.seed (c.tables.resumableIncidents environment now)) := by
  intro f
  rcases h.seeded hnow f with ⟨i, hi, -, hseeded⟩ | ⟨hnone, hseeded⟩
  · rw [hi, hseeded]
    have halike : Incident.Alike _ i (c.readBack environment i) := (h.records f i hi).alike (h.tidy f i hi)
    apply halike.mono
    have honce : c.HeldOnce i.id → (i.timeline.filter announced).Nodup := by
      rintro ⟨g, j, hj, hid, honce⟩
      rw [h.eq_of_id hj hi hid, hi, Option.some.injEq] at hj
      exact hj ▸ honce
    exact fun hheld => hheld.elim honce honce
  · rw [hseeded]
    cases hi : c.engine.incidents[f]? with
    | none => trivial
    | some i =>
      obtain ⟨hresolved, endedAt, hended, hlate⟩ := h.resolved_of_not_resumes hi (hnone i hi)
      exact ⟨hresolved, Incident.withinReopenWindow_eq_false.mpr ⟨endedAt, hended, hlate.le⟩⟩

theorem Sound.records_readBack (h : c.Sound environment) (hi : c.engine.incidents[f]? = some i) :
    (c.readBack environment i).Tidy c.clock ∧ c.tables.incidents.Records environment (c.readBack environment i) :=
  (h.records f i hi).hydrate (h.tidy f i hi)

/-- What a controller that starts saves again is held, as it is read back. -/
theorem Sound.of_mem_resumesActive (h : c.Sound environment) (hnow : c.clock ≤ now)
    (hj : j ∈ c.resumesActive environment now) :
    ∃ i, c.engine.incidents[j.fingerprint]? = some i ∧ j = c.readBack environment i := by
  obtain ⟨hmem, hactive⟩ := List.mem_filter.mp hj
  obtain ⟨-, i, hi, -, hread | ⟨hover, -⟩⟩ := h.of_mem_resumable hnow hmem
  · exact ⟨i, hi, hread⟩
  · rw [hover] at hactive
    cases hactive

/-- **A restart keeps the tables sound.** -/
theorem Sound.restart (h : c.Sound environment) (hnow : c.clock ≤ now) {fault : ℕ → Bool}
    (hcommitted : (c.tables.incidents.saveIncidents environment newV5 toRfc3339 fault
      (c.resumesActive environment now)).2 = true) :
    (c.restart environment newV5 toRfc3339 now fault).Sound environment := by
  unfold Correlator.restart
  dsimp only
  rw [IncidentTables.saveIncidents_of_committed hcommitted]
  have hids : ((c.resumesActive environment now).map Incident.id).Nodup :=
    (c.tables.nodup_resumableIncidents environment now).sublist (List.filter_sublist.map _)
  have hactive : ∀ j ∈ c.resumesActive environment now, c.tables.incidents.Records environment j := by
    intro j hj
    obtain ⟨i, hi, hread⟩ := h.of_mem_resumesActive hnow hj
    exact hread ▸ (h.records_readBack hi).2
  obtain ⟨hbare, hsaved, hsame⟩ := @IncidentTables.records_savedAll environment newV5 toRfc3339
    (c.resumesActive environment now) _ hids h.bare fun j hj =>
      Or.inr ⟨j, hactive j hj, Incident.Continues.refl j, List.Subset.refl _⟩
  set after := c.tables.incidents.savedAll environment newV5 toRfc3339 (c.resumesActive environment now)
  have hrow : ∀ id : Uuid, after.incidents[id]? = c.tables.incidents.incidents[id]? := by
    intro id
    by_cases hid : id ∈ (c.resumesActive environment now).map Incident.id
    · obtain ⟨j, hj, rfl⟩ := List.mem_map.mp hid
      rw [(hsaved j hj).row, (hactive j hj).row]
    · exact (hsame id hid).row
  have hrecords : ∀ (f : String) (i : Incident), c.engine.incidents[f]? = some i →
      after.Records environment (c.readBack environment i) := by
    intro f i hi
    by_cases hid : i.id ∈ (c.resumesActive environment now).map Incident.id
    · obtain ⟨j, hj, hid⟩ := List.mem_map.mp hid
      obtain ⟨i', hi', hread⟩ := h.of_mem_resumesActive hnow hj
      have hid' : i'.id = i.id := by rw [← hid, hread]; rfl
      rw [h.eq_of_id hi' hi hid', hi, Option.some.injEq] at hi'
      rw [hi', ← hread]
      exact hsaved j hj
    · exact (h.records_readBack hi).2.of_sameAt (hsame i.id hid)
  have hheld : ∀ (f : String) (j : Incident),
      (IncidentEngine.new.seed (c.tables.resumableIncidents environment now)).incidents[f]? = some j →
      ∃ i, c.engine.incidents[f]? = some i ∧ j = c.readBack environment i := by
    intro f j hj
    rcases h.seeded hnow f with ⟨i, hi, -, hseeded⟩ | ⟨-, hseeded⟩
    · rw [hseeded, Option.some.injEq] at hj
      exact ⟨i, hi, hj.symm⟩
    · rw [hseeded] at hj
      cases hj
  refine ⟨?_, hbare, fun resetAt hreset => (h.reset resetAt hreset).trans hnow, ?_, ?_, ?_, ?_⟩
  · refine Consistent.seed _ (fun j hj => (h.of_mem_resumable hnow hj).1) ⟨fun f i hi => ?_, fun f i hi => ?_⟩
    all_goals simp [IncidentEngine.new] at hi
  · intro f j hj
    obtain ⟨i, hi, rfl⟩ := hheld f j hj
    exact (h.records_readBack hi).1.mono hnow
  · intro f j hj
    obtain ⟨i, hi, rfl⟩ := hheld f j hj
    exact hrecords f i hi
  · intro id row hget
    exact h.begun id row ((hrow id).symm.trans hget)
  · intro id row hget henvironment
    rw [hrow id] at hget
    rcases h.rows id row hget henvironment with ⟨i, hi, hid⟩ | ⟨endedAt, hpast⟩
    · rcases h.seeded hnow row.fingerprint with ⟨i', hi', -, hseeded⟩ | ⟨hnone, hseeded⟩
      · rw [hi, Option.some.injEq] at hi'
        exact Or.inl ⟨_, hseeded, by rw [← hi']; exact hid⟩
      · obtain ⟨hresolved, endedAt, hended, hlate⟩ := h.resolved_of_not_resumes hi (hnone i hi)
        have hrecorded := (h.records _ i hi).row
        rw [hid, hget, Option.some.injEq] at hrecorded
        refine Or.inr ⟨endedAt, ?_, ?_, ?_, fun j hj => ?_, fun _ => hlate⟩
        · rw [hrecorded]; exact hresolved
        · rw [hrecorded]; exact hended
        · rw [hrecorded]; exact ((h.tidy _ i hi).ended endedAt hended).1
        · rw [hseeded] at hj
          cases hj
    · refine Or.inr ⟨endedAt, hpast.status, hpast.ended, hpast.started, fun j hj => ?_, fun hnone => ?_⟩
      · obtain ⟨i, hi, rfl⟩ := hheld _ j hj
        exact hpast.held i hi
      · cases hi : c.engine.incidents[row.fingerprint]? with
        | none => exact (hpast.unheld hi).trans_le hnow
        | some i =>
          rcases h.seeded hnow row.fingerprint with ⟨i', -, -, hseeded⟩ | ⟨hnot, -⟩
          · rw [hseeded] at hnone
            cases hnone
          · obtain ⟨-, e, he, hlate⟩ := h.resolved_of_not_resumes hi (hnot i hi)
            refine (hpast.held i hi).trans_lt ((((h.tidy _ i hi).ended e he).1).trans_lt ?_)
            exact (lt_add_of_pos_right e Incident.reopenWindow_pos).trans hlate

/-- **The tables are sound in every run.** -/
theorem Sound.run {log : List CorrelatorInput} (hrun : (correlator environment newV5 toRfc3339).Run log c) :
    c.Sound environment := by
  refine hrun.invariant (P := fun _ c => c.Sound environment) (fun c h => sound_init h) ?_
  intro _ c input _ h hallowed
  cases input with
  | reconcile call fault => exact h.reconcile hallowed.1 hallowed.2 fault
  | restart now fault => exact h.restart hallowed.1 hallowed.2

end Correlator

/-- **A restart is not seen in what is reported later.**  Whatever was reconciled, saved or
not, and restarted before: an engine seeded at a later time from what is stored reports, of
the same diagnoses, graphs and verdicts, what the engine that it replaces would have.  The
notification keys of an incident held at the restart are the same, if no event that is
announced stands on its timeline twice. -/
theorem restart_agrees {environment : String} {newV5 : Uuid → String → Uuid} {toRfc3339 : Timestamp → String}
    {log : List CorrelatorInput} {c : Correlator} (hrun : (correlator environment newV5 toRfc3339).Run log c)
    {now : Timestamp} (hnow : c.clock ≤ now) {calls calls' : List Reconciliation}
    (hlike : List.Forall₂ Reconciliation.Like calls calls') (hlater : ∀ call ∈ calls, now ≤ call.now)
    (hnew : ∀ call ∈ calls ++ calls', call.Allocates fun id => c.tables.incidents.incidents[id]? = none) :
    List.Forall₂ (IncidentUpdate.Agree c.HeldOnce) (c.engine.reports calls)
      ((IncidentEngine.new.seed (c.tables.resumableIncidents environment now)).reports calls') := by
  have hsound := Correlator.Sound.run hrun
  refine (hsound.resumed hnow).reports hlike hlater fun call hcall d hd => ?_
  rintro ⟨f, i, hi, hid, -⟩
  have hunstored := hnew call hcall d hd
  rw [← hid, (hsound.records f i hi).row] at hunstored
  cases hunstored

/-! ### One fault at one host -/

namespace Flapping

/-- The host. -/
def host : EntityId := ⟨⟨9⟩⟩

/-- A diagnosis of it. -/
def diagnosis (diagnosisType : DiagnosisType) : Diagnosis :=
  ⟨diagnosisType, [host], [host], .high, [], ⟨"reachability"⟩, "", []⟩

/-- A reconciliation; what is not diagnosed has recovered. -/
def call (now : Timestamp) (id : Uuid) (diagnoses : List Diagnosis) : Reconciliation :=
  ⟨now, fun _ => id, diagnoses, .empty, fun _ => (true, true)⟩

/-- A controller that has no incidents. -/
def start : Correlator :=
  ⟨.new, ⟨∅, ∅, [], ⟨.ofList ["lab"], .ofList [host], ∅, fun _ => ∅, fun _ => ∅, fun _ => ∅, fun _ => [],
    fun _ => [], []⟩, [], []⟩, 0⟩

/-- Identifiers and times as text. -/
def newV5 (_ : Uuid) (_ : String) : Uuid := ⟨0xfcfde96a074c59ebb974e0925f7d439b⟩

/-- The first instant, as it is printed. -/
def toRfc3339 (_ : Timestamp) : String := "1970-01-01T00:00:00.000000Z"

/-- The correlator of one environment. -/
def lab : Machine Correlator CorrelatorInput := correlator "lab" newV5 toRfc3339

theorem init_start : lab.Init start := by
  refine ⟨rfl, fun id _ => ⟨rfl, rfl⟩, fun id row hrow => ?_, fun resetAt hreset => ?_⟩
  · simp [start] at hrow
  · simp [start] at hreset

/-- A reconciliation whose save does not fail. -/
def saved (call : Reconciliation) : CorrelatorInput := .reconcile call fun _ => false

/-- The keys of the incidents that a reconciliation goes on with. -/
def keysOf (engine : IncidentEngine) (call : Reconciliation) : List (Uuid × ℕ) :=
  (engine.reconcileVerified call).2.updated.map fun i => (i.id, (notificationKeys newV5 toRfc3339 i).length)

/-- The fault is diagnosed, comes back as another one, and comes back again. -/
def returns : List CorrelatorInput :=
  [saved (call 0 ⟨1⟩ [diagnosis Kind.slurmdServiceFailure]), saved (call 0 ⟨2⟩ []),
    saved (call 0 ⟨2⟩ [diagnosis Kind.hostUnreachable]), saved (call 0 ⟨2⟩ []),
    saved (call 0 ⟨2⟩ [diagnosis Kind.hostUnreachable])]

theorem allowed_returns : lab.AllowedAll start returns := by
  refine ⟨⟨?_, ⟨?_, ?_⟩⟩, ⟨?_, ⟨?_, ?_⟩⟩, ⟨?_, ⟨?_, ?_⟩⟩, ⟨?_, ⟨?_, ?_⟩⟩, ⟨?_, ⟨?_, ?_⟩⟩, trivial⟩
  all_goals
    try unfold Reconciliation.Allocates
    decide +kernel

end Flapping

open Flapping

/-- The fault is diagnosed, the controller restarts, and the fault is diagnosed again. -/
theorem restart_agrees_diagnosed_again :
    let c := lab.step start (saved (call 0 ⟨1⟩ [diagnosis Kind.hostUnreachable]))
    let later := call 2 ⟨2⟩ [diagnosis Kind.hostUnreachable]
    let resumed := IncidentEngine.new.seed (c.tables.resumableIncidents "lab" 1)
    List.Forall₂ (IncidentUpdate.Agree c.HeldOnce) (c.engine.reports [later]) (resumed.reports [later]) ∧
      (resumed.reports [later]).map (fun update => update.updated.map Incident.id) = [[⟨1⟩]] := by
  intro c later resumed
  have hfresh : (call 0 ⟨1⟩ [diagnosis Kind.hostUnreachable]).Fresh start.tables.incidents := by
    refine ⟨?_, by decide +kernel⟩
    unfold Reconciliation.Allocates
    decide +kernel
  have hrun : lab.Run [saved (call 0 ⟨1⟩ [diagnosis Kind.hostUnreachable])] c := .snoc (.init init_start) ⟨le_rfl, hfresh⟩
  have hlike : List.Forall₂ Reconciliation.Like [later] [later] := .cons ⟨rfl, rfl, rfl, fun _ _ _ => rfl⟩ .nil
  refine ⟨restart_agrees hrun (by decide) hlike (by decide) ?_, by decide +kernel⟩
  unfold Reconciliation.Allocates
  decide +kernel

/-- A fault comes back, worse, and once more within the same instant: what is stored of the
second return is what is stored of the first, and a controller that starts then announces
the changes of severity and of diagnosis again. -/
theorem second_return_forgotten :
    let c := returns.foldl lab.step start
    let later := call 1 ⟨2⟩ [diagnosis Kind.hostUnreachable]
    let resumed := IncidentEngine.new.seed (c.tables.resumableIncidents "lab" 0)
    lab.Run returns c ∧ keysOf c.engine later = [(⟨1⟩, 1)] ∧ keysOf resumed later = [(⟨1⟩, 3)] := by
  intro c later resumed
  refine ⟨Machine.Run.append returns (.init init_start) allowed_returns, by decide +kernel, ?_⟩
  let row : StoredIncident := ⟨"lab", fingerprint (diagnosis Kind.hostUnreachable), .opened, .critical, 0, none⟩
  have hrow : c.tables.loadResumableIncidents "lab" 0 = [(⟨1⟩, row)] := by decide +kernel
  have hsorted : (c.tables.incidents.timeline ⟨1⟩).Pairwise fun event event' => event.at_ ≤ event'.at_ := by
    decide +kernel
  have hread : resumed = IncidentEngine.new.seed [{ c.tables.incidents.hydrateIncident ⟨1⟩ row with
      timeline := c.tables.incidents.timeline ⟨1⟩ }] := by
    rw [← IncidentTables.hydrateIncident_of_sorted row hsorted]
    show IncidentEngine.new.seed (c.tables.resumableIncidents "lab" 0) = _
    rw [MonitoringTables.resumableIncidents, hrow]
    rfl
  rw [hread]
  decide +kernel

end Sentinel
