import Sentinel.Controller.Builtin
import Sentinel.Diagnosis.Context
import Sentinel.Incident.Lifecycle

/-!
# Verified recovery

A pass of the diagnosis loop diagnoses, then folds the diagnoses into incidents.
Before it does, it looks at every active incident no longer diagnosed and decides
from fresh observations whether its root, and whether all of it, has recovered.
That a diagnosis stopped firing is no proof: its evidence may be gone, or have gone
silent.

A pass is given here by what it reads: the diagnoses it made, the state engine they
left, and what the store answers.

## Main definitions

* `Freshness.horizonFor` — how long a probe's answer stays evidence.
* `Pass`, `Pass.latest`, `Pass.verified`, `Pass.recovered` — a pass, the views fresh
  enough to count, and its verdicts.
* `correlateMachine` — incidents under passes.
* `Pass.Recovery` — what a recovery rests on, in words of its own.

## Main results

* `Pass.verified_cause_of_full` — full recovery entails the recovery of the root.
* `Pass.recovery_of_verified` — a verdict of full recovery rests on the evidence.
* `Pass.resolved_only_if_recovered` — **no pass closes an incident without it.**
-/

namespace Sentinel

/-! ### Freshness -/

/-- How long the answers of probes stay evidence. -/
structure Freshness where
  /-- The horizon of each probe in the catalogue. -/
  horizons : Std.ExtTreeMap ProbeId Duration
  /-- The horizon of any other one, derived from the discovery interval. -/
  fallback : Duration
  /-- Who the controller is, when it observes. -/
  controller : Option EntityId

/-- How long an answer stays evidence; the controller observes at discovery, so its
own last at least as long as the fallback. -/
def Freshness.horizonFor (freshness : Freshness) (probe : ProbeId) (observer : Option EntityId) :
    Duration :=
  let horizon := freshness.horizons[probe]?.getD freshness.fallback
  if observer.isSome && observer = freshness.controller then max horizon freshness.fallback
  else horizon

/-! ### A pass -/

/-- What one pass of the diagnosis loop reads. -/
structure Pass where
  /-- The clock when the views are gathered. -/
  at_ : Timestamp
  /-- The clock when the incidents are reconciled. -/
  now : Timestamp
  /-- The diagnoses of this pass. -/
  diagnoses : List Diagnosis
  /-- The state engine the diagnoses were made from. -/
  engine : StateEngine
  /-- The stored inventory. -/
  inventory : Inventory
  /-- How long answers stay evidence. -/
  freshness : Freshness
  /-- The stored observation of an identifier. -/
  observationById : ObservationId → Option Observation
  /-- The newest stored observations of an entity's streams since the cutoff. -/
  latestSince : EntityId → List Observation
  /-- The identifier allocated for an incident opened under a fingerprint. -/
  newId : String → Uuid

namespace Pass

variable (pass : Pass) (i : Incident)

/-- Whether a stored view of an entity is evidence about now. -/
def current (entity : EntityId) (o : Observation) : Bool :=
  pass.engine.probeEnabled entity o.probeId &&
    pass.at_ - o.finishedAt ≤ pass.freshness.horizonFor o.probeId o.observerEntity

/-- The views that are evidence about now, of every entity. -/
def views : List Observation :=
  pass.inventory.all.flatMap fun entity =>
    (pass.latestSince entity.id).filter fun o => pass.current entity.id o

/-- The newest of them for each stream. -/
def latest : ObservationIndex := ObservationIndex.new.insertAll pass.views

/-- The observations an incident cites; none at all if one of them is gone. -/
def originals : List Observation := (i.evidence.mapM pass.observationById).getD []

/-- Whether an observation says anything about health. -/
def signals (o : Observation) : Bool := o.status.isConclusive && o.probeId ≠ probeBoot

/-- The evidence that recovery is measured by: of the root entities, or of all of
them.  A service can be rooted at a daemon but measured through its host, so where
the roots have no evidence of their own, all of it is mandatory. -/
def selected (rootOnly : Bool) : List Observation :=
  let selected := (pass.originals i).filter fun o =>
    signals o && (!rootOnly || o.targetEntity ∈ i.suspectedRootEntities)
  if selected.isEmpty then (pass.originals i).filter signals else selected

/-- The newest fresh views of what an observation is about, from remote observers
that know. -/
def remote (old : Observation) : List Observation :=
  (pass.latest.all old.targetEntity old.probeId).filter fun o =>
    o.observerEntity.isSome && o.observerEntity ≠ some old.targetEntity && o.status.isConclusive

/-- Whether newer views answer for a cited observation.  That a host is unreachable
is the statement of a quorum, and a new healthy quorum may replace it; any other
fault has to be answered by the observer that reported it. -/
def superseded (old : Observation) : Bool :=
  if old.probeId = probeNetwork && i.hasDiagnosis Kind.hostUnreachable then
    2 ≤ (pass.remote old).length && (pass.remote old).all fun o =>
      o.status = .ok && old.finishedAt < o.finishedAt && pass.engine.confirmsHealth o
  else
    (pass.latest.all old.targetEntity old.probeId).any fun o =>
      (o.observerEntity = old.observerEntity || old.status = .ok) &&
        pass.engine.confirmsHealth o && o.status = .ok &&
        (old.finishedAt < o.finishedAt || (!old.status.isBad && old.status ≠ .degraded))

/-- Whether an entity's state does not contradict recovery: healthy, or unknown but
measured by the evidence, or without a state because it is a service. -/
def settled (selected : List Observation) (e : EntityId) : Bool :=
  match pass.engine.states[e]? with
  | some state =>
    state.overall = .healthy ||
      (state.overall = .unknown && selected.any fun o => o.targetEntity = e)
  | none => (pass.inventory.get e).any fun entity => entity.entityType = .service

/-- Whether the root of an incident, or all of it, has recovered. -/
def verified (rootOnly : Bool) : Bool :=
  let roots := i.suspectedRootEntities
  let selected := pass.selected i rootOnly
  !(pass.originals i).isEmpty && !selected.isEmpty &&
    !(pass.diagnoses.any fun d => d.affectedEntities.any fun e =>
      if rootOnly then decide (e ∈ roots) else e ∈ i.affectedEntities || e ∈ roots) &&
    selected.all (pass.superseded i) &&
    ((i.affectedEntities ++ roots).filter fun e => !rootOnly || e ∈ roots).all
      (pass.settled selected)

/-- The incidents a verdict is made about: active and no longer diagnosed. -/
def undiagnosed (incidents : IncidentEngine) : List Incident :=
  incidents.incidents.vals.filter fun i =>
    i.status.isActive && i.fingerprint ∉ pass.diagnoses.map fingerprint

/-- The verdicts on root and whole, by incident. -/
def verdicts (incidents : IncidentEngine) : Std.ExtTreeMap Uuid (Bool × Bool) :=
  .ofList ((pass.undiagnosed incidents).map fun i => (i.id, pass.verified i true, pass.verified i false))

/-- The reconciliation a pass amounts to. -/
def reconciliation (incidents : IncidentEngine) : IncidentEngine.Reconciliation where
  now := pass.now
  newId := pass.newId
  diagnoses := pass.diagnoses
  graph := pass.inventory.graph
  recovered := fun i => ((pass.verdicts incidents)[i.id]?).getD (false, false)

/-- Diagnose, then fold the result into incidents. -/
def correlate (incidents : IncidentEngine) : IncidentEngine × IncidentUpdate :=
  incidents.reconcileVerified (pass.reconciliation incidents)

/-! ### The evidence selected -/

section Selected

variable {pass i}

theorem selected_false : pass.selected i false = (pass.originals i).filter signals := by
  simp [selected]

/-- The evidence of the roots is part of all evidence. -/
theorem mem_selected {rootOnly : Bool} {o : Observation} (h : o ∈ pass.selected i rootOnly) :
    o ∈ pass.originals i ∧ signals o = true := by
  rw [selected] at h
  split at h
  · exact List.mem_filter.mp h
  · obtain ⟨ho, hs⟩ := List.mem_filter.mp h
    rw [Bool.and_eq_true] at hs
    exact ⟨ho, hs.1⟩

theorem mem_selected_of_root {o : Observation} (ho : o ∈ pass.originals i)
    (hs : signals o = true) (hroot : o.targetEntity ∈ i.suspectedRootEntities) :
    o ∈ pass.selected i true := by
  rw [selected]
  have hmem : o ∈ (pass.originals i).filter fun o =>
      signals o && (!true || decide (o.targetEntity ∈ i.suspectedRootEntities)) :=
    List.mem_filter.mpr ⟨ho, by simp [hs, hroot]⟩
  rw [if_neg]
  · exact hmem
  · intro hempty
    rw [List.isEmpty_iff] at hempty
    rw [hempty] at hmem
    cases hmem

theorem selected_ne_nil (h : (pass.originals i).filter signals ≠ []) (rootOnly : Bool) :
    pass.selected i rootOnly ≠ [] := by
  rw [selected]
  split
  · exact h
  · next hne => simpa using hne

end Selected

/-! ### What a verdict says -/

/-- What is affected as far as the verdict is concerned. -/
def concerns (rootOnly : Bool) (e : EntityId) : Prop :=
  e ∈ i.suspectedRootEntities ∨ (rootOnly = false ∧ e ∈ i.affectedEntities)

/-- A verdict of recovery, clause by clause. -/
theorem verified_iff {pass : Pass} {i : Incident} {rootOnly : Bool} :
    pass.verified i rootOnly = true ↔
      (pass.originals i).filter signals ≠ [] ∧
      (∀ d ∈ pass.diagnoses, ∀ e ∈ d.affectedEntities, ¬ concerns i rootOnly e) ∧
      (∀ o ∈ pass.selected i rootOnly, pass.superseded i o = true) ∧
      ∀ e, concerns i rootOnly e → pass.settled (pass.selected i rootOnly) e = true := by
  have hselected : ((pass.originals i).isEmpty = false ∧
      (pass.selected i rootOnly).isEmpty = false) ↔ (pass.originals i).filter signals ≠ [] := by
    simp only [List.isEmpty_eq_false_iff]
    constructor
    · rintro ⟨-, hne⟩ hnil
      obtain ⟨o, ho⟩ := List.exists_mem_of_ne_nil _ hne
      have hmem := List.mem_filter.mpr (mem_selected ho)
      rw [hnil] at hmem
      cases hmem
    · intro hne
      refine ⟨fun hnil => hne (by rw [hnil]; rfl), selected_ne_nil hne rootOnly⟩
  have hconcerns : ∀ e, (if rootOnly then decide (e ∈ i.suspectedRootEntities)
      else decide (e ∈ i.affectedEntities) || decide (e ∈ i.suspectedRootEntities)) = true ↔
      concerns i rootOnly e := by
    intro e
    cases rootOnly <;> simp [concerns, or_comm]
  have hinvolved : ∀ e, (e ∈ (i.affectedEntities ++ i.suspectedRootEntities).filter fun e =>
      !rootOnly || decide (e ∈ i.suspectedRootEntities)) ↔ concerns i rootOnly e := by
    intro e
    cases rootOnly <;> simp [concerns, or_comm]
  rw [← hselected, verified]
  simp only [Bool.and_eq_true, Bool.not_eq_true', List.any_eq_false, List.all_eq_true,
    List.any_eq_true, hconcerns, hinvolved, not_exists, not_and, and_assoc]

/-- **Full recovery entails the recovery of the root.** -/
theorem verified_cause_of_full {pass : Pass} {i : Incident} (h : pass.verified i false = true) :
    pass.verified i true = true := by
  obtain ⟨hne, hdiagnoses, hsuperseded, hsettled⟩ := verified_iff.mp h
  rw [selected_false] at hsuperseded hsettled
  refine verified_iff.mpr ⟨hne, ?_, ?_, ?_⟩
  · intro d hd e he hroot
    exact hdiagnoses d hd e he (Or.inl (hroot.resolve_right (by simp)))
  · intro o ho
    exact hsuperseded o (List.mem_filter.mpr (mem_selected ho))
  · intro e hroot
    have hroot : e ∈ i.suspectedRootEntities := hroot.resolve_right (by simp)
    have hfull := hsettled e (Or.inl hroot)
    unfold settled at hfull ⊢
    split at hfull
    · next state hstate =>
      rw [Bool.or_eq_true, Bool.and_eq_true, List.any_eq_true] at hfull ⊢
      -- evidence of a root is among what the root is measured by
      refine hfull.imp_right fun ⟨hunknown, o, ho, htarget⟩ => ⟨hunknown, o, ?_, htarget⟩
      obtain ⟨ho, hs⟩ := List.mem_filter.mp ho
      refine mem_selected_of_root ho hs ?_
      rw [of_decide_eq_true htarget]
      exact hroot
    · exact hfull

/-! ### What a recovery rests on -/

/-- Whether newer views answer for a cited observation of a fault: a fresh success
of its own stream; or, where it made a host unreachable, fresh successes of all the
remote observers that know, of which there are at least two. -/
def Answered (old : Observation) : Prop :=
  (∃ o ∈ pass.views, o.streamKey = old.streamKey ∧ o.status = .ok ∧
    old.finishedAt < o.finishedAt ∧ pass.engine.confirmsHealth o = true) ∨
  (old.probeId = probeNetwork ∧ i.hasDiagnosis Kind.hostUnreachable = true ∧
    2 ≤ ((pass.remote old).map Observation.observerEntity).toFinset.card ∧
    ∀ o ∈ pass.remote old, o ∈ pass.views ∧ o.status = .ok ∧ old.finishedAt < o.finishedAt ∧
      pass.engine.confirmsHealth o = true)

/-- What the recovery of an incident rests on. -/
structure Recovery : Prop where
  /-- It is not diagnosed any more. -/
  undiagnosed : ∀ d ∈ pass.diagnoses, fingerprint d ≠ i.fingerprint
  /-- All its evidence is still there. -/
  retrievable : ∀ id ∈ i.evidence, (pass.observationById id).isSome
  /-- Some of it says something about health. -/
  conclusive : ∃ id ∈ i.evidence, ∃ o, pass.observationById id = some o ∧
    o.status.isConclusive = true ∧ o.probeId ≠ probeBoot
  /-- Nothing it involves is affected by a diagnosis. -/
  unaffected : ∀ d ∈ pass.diagnoses, ∀ e ∈ d.affectedEntities,
    e ∉ i.affectedEntities ∧ e ∉ i.suspectedRootEntities
  /-- Every fault it cites is answered for. -/
  answered : ∀ id ∈ i.evidence, ∀ o, pass.observationById id = some o →
    o.status.isConclusive = true → o.probeId ≠ probeBoot →
    (o.status.isBad = true ∨ o.status = .degraded) → pass.Answered i o
  /-- Everything it involves is healthy, or unknown with evidence of its own, or a
  service without a state. -/
  settled : ∀ e, e ∈ i.affectedEntities ∨ e ∈ i.suspectedRootEntities →
    (∃ state, pass.engine.states[e]? = some state ∧
      (state.overall = .healthy ∨ (state.overall = .unknown ∧
        ∃ id ∈ i.evidence, ∃ o, pass.observationById id = some o ∧ o.targetEntity = e))) ∨
    (pass.engine.states[e]? = none ∧
      ∃ entity, pass.inventory.get e = some entity ∧ entity.entityType = .service)

section Recovery

variable {pass i}

/-- With a cited observation at all, every cited one is retrievable and there are
no others. -/
theorem originals_spec (h : pass.originals i ≠ []) :
    i.evidence.map pass.observationById = (pass.originals i).map some := by
  unfold originals at h ⊢
  cases hm : i.evidence.mapM pass.observationById with
  | none => rw [hm] at h; exact absurd rfl h
  | some os =>
    rw [Option.getD_some]
    exact List.mapM_eq_some_iff.mp hm

theorem mem_originals (h : pass.originals i ≠ []) {o : Observation} :
    o ∈ pass.originals i ↔ ∃ id ∈ i.evidence, pass.observationById id = some o := by
  have hmem := congrArg (some o ∈ ·) (originals_spec h)
  simpa [List.mem_map] using hmem.symm

theorem keyed_latest : pass.latest.Keyed := ObservationIndex.keyed_new.insertAll _

/-- What the index holds is fresh. -/
theorem mem_views {o : Observation} {e : EntityId} {p : ProbeId} (h : o ∈ pass.latest.all e p) :
    o ∈ pass.views := by
  have hheld := ((ObservationIndex.mem_all keyed_latest).mp h).1
  rcases ObservationIndex.held_insertAll pass.views hheld with hnew | hviews
  · simp [ObservationIndex.new] at hnew
  · exact hviews

/-- A fault that was superseded is answered for. -/
theorem answered_of_superseded {old : Observation} (h : pass.superseded i old = true)
    (hfault : old.status.isBad = true ∨ old.status = .degraded) : pass.Answered i old := by
  have hne : old.status ≠ .ok := by
    intro hok
    rw [hok] at hfault
    rcases hfault with h | h <;> cases h
  unfold superseded at h
  split at h
  · next hquorum =>
    simp only [Bool.and_eq_true, decide_eq_true_eq] at hquorum
    rw [Bool.and_eq_true, decide_eq_true_eq, List.all_eq_true] at h
    refine Or.inr ⟨hquorum.1, hquorum.2, ?_, ?_⟩
    · -- the index has one view for each observer
      have hnodup : ((pass.remote old).map Observation.observerEntity).Nodup :=
        (ObservationIndex.nodup_all keyed_latest _ _).sublist (List.filter_sublist.map _)
      rw [List.toFinset_card_of_nodup hnodup, List.length_map]
      exact h.1
    · intro o ho
      have hall := h.2 o ho
      simp only [Bool.and_eq_true, decide_eq_true_eq] at hall
      exact ⟨mem_views (List.mem_filter.mp ho).1, hall.1.1, hall.1.2, hall.2⟩
  · obtain ⟨o, ho, hsuccess⟩ := List.any_eq_true.mp h
    simp only [Bool.and_eq_true, Bool.or_eq_true, decide_eq_true_eq, Bool.not_eq_true', hne,
      or_false] at hsuccess
    obtain ⟨⟨⟨hobserver, hconfirms⟩, hok⟩, hnewer⟩ := hsuccess
    obtain ⟨-, htarget, hprobe⟩ := (ObservationIndex.mem_all keyed_latest).mp ho
    refine Or.inl ⟨o, mem_views ho, ?_, hok, ?_, hconfirms⟩
    · rw [Observation.streamKey, Observation.streamKey, htarget, hprobe, hobserver]
    · refine hnewer.resolve_right ?_
      rintro ⟨hbad, hdegraded⟩
      rcases hfault with h | h
      · rw [h] at hbad
        cases hbad
      · exact hdegraded h

/-- **A verdict of full recovery rests on the evidence.** -/
theorem recovery_of_verified (hundiagnosed : ∀ d ∈ pass.diagnoses, fingerprint d ≠ i.fingerprint)
    (h : pass.verified i false = true) : pass.Recovery i := by
  obtain ⟨hne, hdiagnoses, hsuperseded, hsettled⟩ := verified_iff.mp h
  rw [selected_false] at hsuperseded hsettled
  have horiginals : pass.originals i ≠ [] := by
    intro hnil
    rw [hnil] at hne
    exact hne rfl
  refine ⟨hundiagnosed, ?_, ?_, ?_, ?_, ?_⟩
  · intro id hid
    have hmem := List.mem_map_of_mem (f := pass.observationById) hid
    rw [originals_spec horiginals] at hmem
    obtain ⟨o, -, ho⟩ := List.mem_map.mp hmem
    rw [← ho]
    rfl
  · obtain ⟨o, ho⟩ := List.exists_mem_of_ne_nil _ hne
    obtain ⟨ho, hs⟩ := List.mem_filter.mp ho
    obtain ⟨id, hid, ho⟩ := (mem_originals horiginals).mp ho
    exact ⟨id, hid, o, ho, by simpa [signals] using hs⟩
  · intro d hd e he
    refine ⟨fun haffected => ?_, fun hroot => ?_⟩
    · exact hdiagnoses d hd e he (Or.inr ⟨rfl, haffected⟩)
    · exact hdiagnoses d hd e he (Or.inl hroot)
  · intro id hid o ho hconclusive hboot hfault
    have hmem : o ∈ pass.originals i := (mem_originals horiginals).mpr ⟨id, hid, ho⟩
    have hs : signals o = true := by simp [signals, hconclusive, hboot]
    exact answered_of_superseded (hsuperseded o (List.mem_filter.mpr ⟨hmem, hs⟩)) hfault
  · intro e he
    have hsettled := hsettled e (he.symm.imp_right fun h => ⟨rfl, h⟩)
    unfold Pass.settled at hsettled
    split at hsettled
    · next state hstate =>
      simp only [Bool.or_eq_true, Bool.and_eq_true, decide_eq_true_eq, List.any_eq_true]
        at hsettled
      refine Or.inl ⟨state, hstate, hsettled.imp_right ?_⟩
      rintro ⟨hunknown, o, ho, htarget⟩
      obtain ⟨id, hid, ho⟩ := (mem_originals horiginals).mp (List.mem_filter.mp ho).1
      exact ⟨hunknown, id, hid, o, ho, htarget⟩
    · next hnone =>
      refine Or.inr ⟨hnone, ?_⟩
      obtain ⟨entity, hget, hservice⟩ := (Option.any_eq_true _ _).mp hsettled
      exact ⟨entity, hget, of_decide_eq_true hservice⟩

end Recovery

end Pass

/-! ### Runs of passes -/

/-- Incidents under passes.  Identifiers are unique: those of the incidents resumed
are distinct, and those allocated are new.  A pass that the store fails leaves the
incidents as they were and is no step. -/
def correlateMachine : Machine IncidentEngine Pass where
  Init := fun engine => ∃ incidents : List Incident, (∀ i ∈ incidents, i.Resumable) ∧
    (incidents.map Incident.id).Nodup ∧ engine = IncidentEngine.new.seed incidents
  step := fun engine pass => (pass.correlate engine).1
  Allowed := fun engine pass => Function.Injective pass.newId ∧
    ∀ (f f' : String) (i : Incident), engine.incidents[f']? = some i → pass.newId f ≠ i.id

namespace IncidentEngine

variable {engine : IncidentEngine} {call : Reconciliation}

/-- No two incidents share an identifier. -/
def DistinctIds (engine : IncidentEngine) : Prop :=
  ∀ (f f' : String) (i i' : Incident), engine.incidents[f]? = some i →
    engine.incidents[f']? = some i' → i.id = i'.id → f = f'

/-- What is held after incidents were taken in was held before or is one of them. -/
theorem held_seed (incidents : List Incident) :
    ∀ {engine : IncidentEngine} {f : String} {i : Incident},
      (engine.seed incidents).incidents[f]? = some i →
      engine.incidents[f]? = some i ∨ i ∈ incidents := by
  induction incidents with
  | nil => intro engine f i h; exact Or.inl h
  | cons j incidents ih =>
    intro engine f i h
    rcases ih h with h | h
    · unfold seedOne at h
      split at h
      · exact Or.inl h
      · rw [Std.ExtTreeMap.getElem?_insert_eq] at h
        split at h
        · exact Or.inr (Option.some.inj h ▸ List.mem_cons_self)
        · exact Or.inl h
    · exact Or.inr (List.mem_cons_of_mem _ h)

/-- The identifier of an incident after a reconciliation: the one it had, or the one
allocated for it. -/
theorem reconcile_id {f : String} {j : Incident}
    (hj : (engine.reconcileVerified call).1.incidents[f]? = some j) :
    (∃ i, engine.incidents[f]? = some i ∧ j.id = i.id) ∨ j.id = call.newId f := by
  cases hg : (grouped call.diagnoses)[f]? with
  | some ds =>
    rw [reconcile_getElem?_of_some _ _ hg, Option.some.injEq] at hj
    cases hi : engine.incidents[f]? with
    | none =>
      rw [hi] at hj
      exact Or.inr (hj ▸ (Incident.openFrom_spec ..).1)
    | some i =>
      rw [hi] at hj
      rcases Incident.diagnosed_continues call.now (call.newId f) call.graph f ds i with h | h
      · exact Or.inl ⟨i, rfl, hj ▸ h.id⟩
      · exact Or.inr (hj ▸ h)
  | none =>
    rw [reconcile_getElem?_of_none _ _ hg] at hj
    obtain ⟨i, hi, hij⟩ := Option.map_eq_some_iff.mp hj
    refine Or.inl ⟨i, hi, ?_⟩
    rw [← hij]
    split
    · exact (Incident.undiagnosed_continues ..).id
    · rfl

theorem DistinctIds.reconcile (h : engine.DistinctIds) (hinjective : Function.Injective call.newId)
    (hnew : ∀ (f f' : String) (i : Incident), engine.incidents[f']? = some i →
      call.newId f ≠ i.id) : (engine.reconcileVerified call).1.DistinctIds := by
  intro f f' j j' hj hj' hid
  rcases reconcile_id hj with ⟨i, hi, hji⟩ | hji <;>
    rcases reconcile_id hj' with ⟨i', hi', hji'⟩ | hji' <;> rw [hji, hji'] at hid
  · exact h f f' i i' hi hi' hid
  · exact absurd hid.symm (hnew f' f i hi)
  · exact absurd hid (hnew f f' i' hi')
  · exact hinjective hid

/-- Along passes, incidents stay consistent and their identifiers distinct. -/
theorem distinct_run {log : List Pass} (h : correlateMachine.Run log engine) :
    engine.Consistent ∧ engine.DistinctIds := by
  refine h.invariant (P := fun _ engine => engine.Consistent ∧ engine.DistinctIds) ?_ ?_
  · rintro engine ⟨incidents, hres, hnodup, rfl⟩
    have hempty : ∀ (f : String) (i : Incident), new.incidents[f]? ≠ some i := by simp [new]
    have hconsistent : (new.seed incidents).Consistent := Consistent.seed incidents hres
      ⟨fun f i hi => absurd hi (hempty f i), fun f i hi => absurd hi (hempty f i)⟩
    refine ⟨hconsistent, ?_⟩
    intro f f' i i' hi hi' hid
    have hmem := (held_seed incidents hi).resolve_left (hempty f i)
    have hmem' := (held_seed incidents hi').resolve_left (hempty f' i')
    rw [← hconsistent.keyed f i hi, ← hconsistent.keyed f' i' hi',
      List.inj_on_of_nodup_map hnodup hmem hmem' hid]
  · rintro _ engine pass - ⟨hconsistent, hdistinct⟩ ⟨hinjective, hnew⟩
    exact ⟨hconsistent.reconcile _, hdistinct.reconcile hinjective hnew⟩

end IncidentEngine

namespace Pass

variable {pass : Pass} {engine : IncidentEngine} {f : String} {i j : Incident}

/-- The verdicts an active incident no longer diagnosed is judged by are its own. -/
theorem recovered_eq (hconsistent : engine.Consistent) (hdistinct : engine.DistinctIds)
    (hi : engine.incidents[f]? = some i) (hactive : i.status.isActive = true)
    (hundiagnosed : ∀ d ∈ pass.diagnoses, fingerprint d ≠ i.fingerprint) :
    (pass.reconciliation engine).recovered i = (pass.verified i true, pass.verified i false) := by
  have hmem : i ∈ pass.undiagnosed engine := by
    refine List.mem_filter.mpr ⟨Std.ExtTreeMap.mem_vals.mpr ⟨f, hi⟩, ?_⟩
    simpa [hactive] using hundiagnosed
  have hids : (pass.undiagnosed engine).Pairwise fun i i' => i.id ≠ i'.id := by
    have hnodup := (List.filter_sublist (p := fun i : Incident =>
      i.status.isActive && i.fingerprint ∉ pass.diagnoses.map fingerprint)).map Incident.fingerprint
        |>.nodup hconsistent.nodup_fingerprints
    rw [List.Nodup, List.pairwise_map] at hnodup
    refine hnodup.imp_of_mem ?_
    intro a b ha hb hne hid
    obtain ⟨f, hf⟩ := Std.ExtTreeMap.mem_vals.mp (List.mem_filter.mp ha).1
    obtain ⟨f', hf'⟩ := Std.ExtTreeMap.mem_vals.mp (List.mem_filter.mp hb).1
    have hff := hdistinct f f' a b hf hf' hid
    exact hne ((hconsistent.keyed f a hf).trans (hff.trans (hconsistent.keyed f' b hf').symm))
  have hlookup : (pass.verdicts engine)[i.id]? =
      some (pass.verified i true, pass.verified i false) := by
    refine Std.ExtTreeMap.getElem?_ofList_of_mem (k := i.id) Std.ReflCmp.compare_self ?_
      (List.mem_map.mpr ⟨i, hmem, rfl⟩)
    rw [List.pairwise_map]
    exact hids.imp fun hne hcmp => hne (Std.LawfulEqCmp.eq_of_compare hcmp)
  change ((pass.verdicts engine)[i.id]?).getD (false, false) = _
  rw [hlookup, Option.getD_some]

/-- **No pass closes an incident that has not recovered.**  In every run of passes, an
active incident a pass resolves has recovered as `Recovery` says and its root is
verified too; and for any incident at all, full recovery entails the recovery of the
root. -/
theorem resolved_only_if_recovered {log : List Pass} (hrun : correlateMachine.Run log engine)
    (pass : Pass) :
    (∀ (f : String) (i j : Incident), engine.incidents[f]? = some i → i.status.isActive = true →
      (pass.correlate engine).1.incidents[f]? = some j → j.status = .resolved →
        pass.Recovery i ∧ pass.verified i true = true) ∧
    ∀ i, pass.verified i false = true → pass.verified i true = true := by
  obtain ⟨hconsistent, hdistinct⟩ := IncidentEngine.distinct_run hrun
  refine ⟨?_, fun i => verified_cause_of_full⟩
  intro f i j hi hactive hj hresolved
  cases hg : (grouped pass.diagnoses)[f]? with
  | some ds =>
    -- a diagnosed incident is left active
    have hafter := IncidentEngine.reconcile_getElem?_of_some engine (pass.reconciliation engine) hg
    have hongoing := (hconsistent.diagnosed (pass.reconciliation engine) f ds).1.isActive
    rw [correlate, hafter, Option.some.injEq] at hj
    rw [hj, hresolved] at hongoing
    cases hongoing
  | none =>
    have hundiagnosed : ∀ d ∈ pass.diagnoses, fingerprint d ≠ i.fingerprint := by
      intro d hd hf
      have hsome := grouped_isSome_iff.mpr ⟨d, hd, hf.trans (hconsistent.keyed f i hi)⟩
      rw [hg] at hsome
      cases hsome
    have hafter := IncidentEngine.reconcile_getElem?_of_none engine (pass.reconciliation engine) hg
    rw [correlate, hafter, hi, Option.map_some, if_pos hactive, Option.some.injEq,
      recovered_eq hconsistent hdistinct hi hactive hundiagnosed] at hj
    have hfull : pass.verified i false = true := by
      by_contra hnot
      -- nothing else the second pass does resolves an active incident
      rw [Bool.not_eq_true] at hnot
      rw [hnot, Incident.undiagnosed, if_neg Bool.false_ne_true] at hj
      rw [← hj] at hresolved
      split at hresolved
      · cases hresolved
      split at hresolved
      · cases hresolved
      · rw [hresolved] at hactive
        cases hactive
    exact ⟨recovery_of_verified hundiagnosed hfull, verified_cause_of_full hfull⟩

/-- An incident about a node Slurm would not use, resolved once Slurm reports it up. -/
theorem resolved_only_if_recovered_node_up :
    let host : EntityId := ⟨⟨7⟩⟩
    let report (k : ℕ) (status : ProbeStatus) : Observation :=
      ⟨⟨⟨k⟩⟩, probeNode, host, none, k, status, .null⟩
    let d : Diagnosis :=
      ⟨Kind.slurmOnlyDegradation, [host], [host], .high, [⟨⟨1⟩⟩], ⟨"slurm_only"⟩, "", []⟩
    let i : Incident :=
      ⟨⟨1⟩, fingerprint d, .opened, .info, 1, none, [host], [host], [d], d.evidence, []⟩
    let pass : Pass :=
      { at_ := 4, now := 4, diagnoses := [], newId := fun f => ⟨f.length⟩
        engine := ((registerBuiltinProbes .new).ingestAll [(1, report 1 .failed), (2, report 2 .ok)]).1
        inventory := Inventory.new.insertEntity (.new host .host "h")
        freshness := ⟨∅, 60, none⟩
        observationById := fun id => if id = ⟨⟨1⟩⟩ then some (report 1 .failed) else none
        latestSince := fun e => if e = host then [report 2 .ok] else [] }
    let engine := IncidentEngine.new.seed [i]
    (pass.correlate engine).1.incidents[fingerprint d]?.map Incident.status = some .resolved ∧
      pass.Recovery i ∧ pass.verified i true = true := by
  intro host report d i pass engine
  have hrun : correlateMachine.Run [] engine := by
    refine .init ⟨[i], fun j hj => ?_, List.nodup_singleton _, rfl⟩
    rw [List.mem_singleton.mp hj]
    exact ⟨Or.inl rfl, by decide⟩
  have hheld : engine.incidents[fingerprint d]? = some i := by decide +kernel
  have hresolved : (pass.correlate engine).1.incidents[fingerprint d]?.map Incident.status =
      some .resolved := by decide +kernel
  obtain ⟨j, hj, hstatus⟩ := Option.map_eq_some_iff.mp hresolved
  exact ⟨hresolved, (resolved_only_if_recovered hrun pass).1 _ i j hheld rfl hj hstatus⟩

end Pass

end Sentinel
