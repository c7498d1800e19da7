import Sentinel.Dependency
import Sentinel.Incident.Basic

/-!
# Correlating diagnoses into incidents

The engine keeps one incident for each fingerprint.  A fingerprint is derived from
the suspected cause, so everything that blames one fileserver becomes one incident
whatever mix of symptoms it produced.

A reconciliation makes two passes.  The first goes through the diagnoses, grouped by
fingerprint: a group without an incident opens one, a group whose incident was
resolved long ago replaces it, any other group refreshes its incident.  The second
goes through the active incidents no longer diagnosed and asks a recovery verdict
about each: fully recovered ones are resolved, ones whose root recovered are
recovering.

## Main definitions

* `fingerprint`, `severityFor` — which incident a diagnosis belongs to, and how
  serious it is.
* `Incident.diagnosed`, `Incident.undiagnosed` — the two passes at one incident.
* `IncidentEngine`, `IncidentEngine.seed`, `IncidentEngine.reconcileVerified`.

## Main results

* `grouped_getElem?` — a group holds the diagnoses of its fingerprint.
* `IncidentEngine.reconcile_getElem?_of_some`,
  `IncidentEngine.reconcile_getElem?_of_none` — the incidents after a
  reconciliation, diagnosed and not.
* `IncidentEngine.mem_listed_reconcile` — what a reconciliation reports.
-/

namespace Sentinel

/-! ### Fingerprints and severities -/

/-- The fingerprint that decides which incident a diagnosis belongs to. -/
def fingerprint (d : Diagnosis) : String :=
  let texts (entities : List EntityId) :=
    ",".intercalate (entities.map fun e => e.uuid.toText).sortDedup
  if d.suspectedRootEntities.isEmpty then "affects:" ++ texts d.affectedEntities
  else "cause:" ++ texts d.suspectedRootEntities

/-- How serious a diagnosis is on its own, before fan-out is considered. -/
def baseSeverity (d : Diagnosis) : Severity :=
  if d.diagnosisType ∈
      [Kind.hostUnreachable, Kind.sharedStorageFailure, Kind.slurmControlPlaneFailure] then .critical
  else if d.diagnosisType ∈
      [Kind.resourceConfigurationMismatch, Kind.gpuConfigurationMismatch, Kind.clockSkew,
        Kind.slurmOnlyDegradation, Kind.hostRebooted] then .info
  else .warning

/-- The greatest of some numbers, zero if there are none. -/
def greatest (ns : List ℕ) : ℕ := ns.foldl max 0

/-- Raise severity according to how much depends on the suspected cause. -/
def severityFor (d : Diagnosis) (graph : DependencyGraph) : Severity :=
  if d.confidence = .low then .info
  else
    let fanOut := greatest (d.suspectedRootEntities.map fun root =>
      (graph.downstream root none).length)
    if 3 ≤ fanOut ∧ baseSeverity d < .critical then .critical
    else if 1 ≤ fanOut ∧ baseSeverity d < .warning then .warning
    else baseSeverity d

/-- The severity of a group of diagnoses: that of the most serious one. -/
def groupSeverity (graph : DependencyGraph) : List Diagnosis → Severity
  | [] => .warning
  | d :: ds => ds.foldl (fun severity d => max severity (severityFor d graph)) (severityFor d graph)

/-- The diagnoses by fingerprint, in the order they came. -/
def grouped (ds : List Diagnosis) : Std.ExtTreeMap String (List Diagnosis) :=
  ds.foldl (fun groups d =>
    groups.insert (fingerprint d) (groups[fingerprint d]?.getD [] ++ [d])) ∅

/-- The diagnoses of a fingerprint. -/
def ofFingerprint (ds : List Diagnosis) (f : String) : List Diagnosis :=
  ds.filter fun d => fingerprint d = f

theorem ofFingerprint_concat (ds : List Diagnosis) (d : Diagnosis) (f : String) :
    ofFingerprint (ds ++ [d]) f =
      ofFingerprint ds f ++ if fingerprint d = f then [d] else [] := by
  rw [ofFingerprint, List.filter_append, List.filter_singleton]
  simp [ofFingerprint]

/-- **A group holds the diagnoses of its fingerprint**, and a fingerprint without
diagnoses has no group. -/
theorem grouped_getElem? (ds : List Diagnosis) (f : String) :
    (grouped ds)[f]? = if ofFingerprint ds f = [] then none else some (ofFingerprint ds f) := by
  induction ds using List.reverseRecOn with
  | nil => rfl
  | append_singleton ds d ih =>
    rw [grouped, List.foldl_append, List.foldl_cons, List.foldl_nil, ← grouped,
      Std.ExtTreeMap.getElem?_insert_eq, ofFingerprint_concat]
    split
    · next h =>
      rw [h, ih]
      split
      · next hnil => simp [hnil]
      · simp
    · rw [ih, List.append_nil]

theorem grouped_isSome_iff {ds : List Diagnosis} {f : String} :
    (grouped ds)[f]?.isSome ↔ ∃ d ∈ ds, fingerprint d = f := by
  rw [grouped_getElem?]
  split
  · next h => simpa [ofFingerprint] using h
  · next h => simpa [ofFingerprint] using h

/-! ### One incident -/

namespace Incident

/-- How long after resolution a returning fault is treated as the same incident. -/
def reopenWindow : Duration := minutes 30

/-- Whether a resolved incident is recent enough to reopen. -/
def withinReopenWindow (now : Timestamp) (i : Incident) : Bool :=
  i.endedAt.all fun endedAt => now - endedAt < reopenWindow

theorem withinReopenWindow_eq_false {now : Timestamp} {i : Incident} :
    i.withinReopenWindow now = false ↔ ∃ endedAt, i.endedAt = some endedAt ∧ endedAt + reopenWindow ≤ now := by
  rw [withinReopenWindow]
  cases i.endedAt with
  | none => simp
  | some endedAt => simp [le_sub_iff_add_le']

/-- Open a new incident from a group of diagnoses. -/
def openFrom (now : Timestamp) (id : Uuid) (f : String) (severity : Severity)
    (ds : List Diagnosis) : Incident :=
  ds.foldl (addDiagnosis now)
    ((Incident.new now id f severity).record now "opened" ("severity " ++ severity.asStr))

/-- The types of some diagnoses, sorted and without repetition. -/
def typeNames (ds : List Diagnosis) : List String :=
  (ds.map fun d => d.diagnosisType.name).sortDedup

/-- The names of a set, as text. -/
def joined (names : List String) : String :=
  if names.isEmpty then "nothing" else ", ".intercalate names

/-- Refresh an existing incident with the current diagnoses: they replace the ones
it held, and the timeline says so if their types changed. -/
def refresh (now : Timestamp) (i : Incident) (ds : List Diagnosis) : Incident :=
  let noted :=
    if typeNames i.diagnoses ≠ typeNames ds then
      i.record now "diagnosis_changed"
        (joined (typeNames i.diagnoses) ++ " -> " ++ joined (typeNames ds))
    else i
  ds.foldl mergeDiagnosis { noted with diagnoses := [] }

/-- A fault diagnosed again brings an incident that was recovering or resolved back
to open. -/
def returned (now : Timestamp) (i : Incident) : Incident :=
  if i.status = .recovering then
    { i with status := .opened }.record now "recovery_failed" "the fault is diagnosed again"
  else if i.status = .resolved then
    { i with status := .opened, endedAt := none }.record now "reopened" "the fault returned"
  else i

/-- Where a reconciliation reports an incident. -/
inductive Slot
  /-- Opened for the first time. -/
  | opened
  /-- Already there and refreshed. -/
  | updated
  /-- The root recovered, the dependents have not. -/
  | recovering
  /-- Fully resolved. -/
  | resolved
  deriving DecidableEq, Repr

/-- The first pass at one fingerprint: its group of diagnoses and the incident held
for it, if any. -/
def diagnosed (now : Timestamp) (id : Uuid) (graph : DependencyGraph) (f : String)
    (ds : List Diagnosis) : Option Incident → Incident × Slot
  | none => (openFrom now id f (groupSeverity graph ds) ds, .opened)
  | some existing =>
    if existing.status = .resolved ∧ existing.withinReopenWindow now = false then
      (openFrom now id f (groupSeverity graph ds) ds, .opened)
    else
      (((existing.returned now).escalate now (groupSeverity graph ds)).refresh now ds, .updated)

/-- The second pass at one active incident no longer diagnosed: what the verdicts on
its root and on all of it make of it. -/
def undiagnosed (now : Timestamp) (rootRecovered fullyRecovered : Bool) (i : Incident) :
    Incident × Slot :=
  if fullyRecovered then (i.resolve now, .resolved)
  else if rootRecovered ∧ i.status ≠ .recovering then
    ({ i with status := .recovering }.record now "recovering"
      "the root recovered; dependent recovery is not yet confirmed", .recovering)
  else if ¬ rootRecovered ∧ i.status = .recovering then
    ({ i with status := .opened }.record now "recovery_failed"
      "root recovery can no longer be confirmed", .updated)
  else (i, .updated)

end Incident

/-! ### The engine -/

/-- Correlates diagnoses into incidents and tracks their lifecycle. -/
structure IncidentEngine where
  /-- The incidents, by fingerprint. -/
  incidents : Std.ExtTreeMap String Incident

/-- What one reconciliation changed. -/
structure IncidentUpdate where
  /-- Incidents opened for the first time. -/
  opened : List Incident
  /-- Incidents that already existed and were refreshed. -/
  updated : List Incident
  /-- Incidents whose root recovered but whose dependents have not. -/
  recovering : List Incident
  /-- Incidents fully resolved. -/
  resolved : List Incident

namespace IncidentUpdate

/-- The update that a log of slots and incidents amounts to. -/
def ofLog (log : List (Incident.Slot × Incident)) : IncidentUpdate where
  opened := (log.filter fun entry => entry.1 = .opened).map Prod.snd
  updated := (log.filter fun entry => entry.1 = .updated).map Prod.snd
  recovering := (log.filter fun entry => entry.1 = .recovering).map Prod.snd
  resolved := (log.filter fun entry => entry.1 = .resolved).map Prod.snd

/-- The list of a slot. -/
def listed (update : IncidentUpdate) : Incident.Slot → List Incident
  | .opened => update.opened
  | .updated => update.updated
  | .recovering => update.recovering
  | .resolved => update.resolved

theorem listed_ofLog (log : List (Incident.Slot × Incident)) (slot : Incident.Slot) :
    (ofLog log).listed slot = (log.filter fun entry => entry.1 = slot).map Prod.snd := by
  cases slot <;> rfl

theorem mem_listed_ofLog {log : List (Incident.Slot × Incident)} {slot : Incident.Slot}
    {i : Incident} : i ∈ (ofLog log).listed slot ↔ (slot, i) ∈ log := by
  simp [listed_ofLog]

end IncidentUpdate

namespace IncidentEngine

/-- An engine with no incidents. -/
def new : IncidentEngine := ⟨∅⟩

/-- Whether an incident held is preferred to another one of its fingerprint: active
before inactive, then the later one. -/
def keepsExisting (existing incident : Incident) : Bool :=
  (existing.status.isActive && !incident.status.isActive) ||
    (existing.status.isActive == incident.status.isActive &&
      incident.startedAt ≤ existing.startedAt)

/-- Take a stored incident in, unless one preferred to it is held. -/
def seedOne (engine : IncidentEngine) (i : Incident) : IncidentEngine :=
  if engine.incidents[i.fingerprint]?.any (fun existing => keepsExisting existing i) then engine
  else ⟨engine.incidents.insert i.fingerprint i⟩

/-- Load existing incidents, for resuming after a restart. -/
def seed (engine : IncidentEngine) (incidents : List Incident) : IncidentEngine :=
  incidents.foldl seedOne engine

/-- One reconciliation: the clock, the identifiers allocated for incidents it opens,
the diagnoses, the graph, and the recovery verdicts on root and whole. -/
structure Reconciliation where
  /-- The clock. -/
  now : Timestamp
  /-- The identifier allocated for an incident opened under a fingerprint. -/
  newId : String → Uuid
  /-- The current diagnoses. -/
  diagnoses : List Diagnosis
  /-- The dependency graph. -/
  graph : DependencyGraph
  /-- Whether the root, and whether everything, has recovered. -/
  recovered : Incident → Bool × Bool

variable (engine : IncidentEngine) (call : Reconciliation)

/-- The first pass: every group of diagnoses. -/
def diagnose : Std.ExtTreeMap String Incident × List (Incident.Slot × Incident) :=
  Std.ExtTreeMap.sweep
    (fun f ds existing =>
      let outcome := Incident.diagnosed call.now (call.newId f) call.graph f ds existing
      some (outcome.1, outcome.swap))
    (grouped call.diagnoses).toList engine.incidents

/-- The second pass: every incident, those diagnosed or inactive left alone. -/
def recover (incidents : Std.ExtTreeMap String Incident) :
    Std.ExtTreeMap String Incident × List (Incident.Slot × Incident) :=
  Std.ExtTreeMap.sweep
    (fun f i _ =>
      if (grouped call.diagnoses).contains f || !i.status.isActive then none
      else
        let outcome := i.undiagnosed call.now (call.recovered i).1 (call.recovered i).2
        some (outcome.1, outcome.swap))
    incidents.toList incidents

/-- Correlate using recovery verdicts: the incidents after both passes, and what the
passes report. -/
def reconcileVerified : IncidentEngine × IncidentUpdate :=
  let (incidents, first) := engine.diagnose call
  let (incidents, second) := recover call incidents
  (⟨incidents⟩, .ofLog (first ++ second))

/-! ### What a reconciliation does -/

section Reconcile

variable {engine call} {f : String}

theorem diagnose_getElem?_of_some {ds : List Diagnosis}
    (h : (grouped call.diagnoses)[f]? = some ds) :
    (engine.diagnose call).1[f]? = some (Incident.diagnosed call.now (call.newId f) call.graph f ds
      engine.incidents[f]?).1 := by
  rw [diagnose, Std.ExtTreeMap.sweep_getElem?_of_mem _ _ (Std.ExtTreeMap.nodup_keys_toList _)
    (Std.ExtTreeMap.mem_toList_iff_getElem?_eq_some.mpr h)]
  rfl

theorem diagnose_getElem?_of_none (h : (grouped call.diagnoses)[f]? = none) :
    (engine.diagnose call).1[f]? = engine.incidents[f]? := by
  refine Std.ExtTreeMap.sweep_getElem?_of_notMem _ _ ?_
  rw [Std.ExtTreeMap.mem_keys_toList, h]
  decide

theorem recover_getElem? (call : Reconciliation) (incidents : Std.ExtTreeMap String Incident)
    (f : String) :
    (recover call incidents).1[f]? = incidents[f]?.map fun i =>
      if (grouped call.diagnoses).contains f || !i.status.isActive then i
      else (i.undiagnosed call.now (call.recovered i).1 (call.recovered i).2).1 := by
  cases h : incidents[f]? with
  | none =>
    rw [recover, Std.ExtTreeMap.sweep_getElem?_of_notMem, h, Option.map_none]
    rw [Std.ExtTreeMap.mem_keys_toList, h]
    decide
  | some i =>
    rw [recover, Std.ExtTreeMap.sweep_getElem?_of_mem _ _ (Std.ExtTreeMap.nodup_keys_toList _)
      (Std.ExtTreeMap.mem_toList_iff_getElem?_eq_some.mpr h), h, Option.map_some]
    dsimp only
    split <;> rfl

theorem contains_grouped : (grouped call.diagnoses).contains f = (grouped call.diagnoses)[f]?.isSome :=
  Std.ExtTreeMap.isSome_getElem?_eq_contains.symm

/-- **An incident that is diagnosed** goes through the first pass. -/
theorem reconcile_getElem?_of_some (engine : IncidentEngine) (call : Reconciliation) {ds : List Diagnosis}
    (h : (grouped call.diagnoses)[f]? = some ds) :
    (engine.reconcileVerified call).1.incidents[f]? =
      some (Incident.diagnosed call.now (call.newId f) call.graph f ds
        engine.incidents[f]?).1 := by
  have hrecover := recover_getElem? call (engine.diagnose call).1 f
  rw [diagnose_getElem?_of_some h, Option.map_some, contains_grouped, h] at hrecover
  exact hrecover

/-- **An incident that is not diagnosed** goes through the second pass if it is
active, and else stays as it is. -/
theorem reconcile_getElem?_of_none (engine : IncidentEngine) (call : Reconciliation)
    (h : (grouped call.diagnoses)[f]? = none) :
    (engine.reconcileVerified call).1.incidents[f]? = engine.incidents[f]?.map fun i =>
      if i.status.isActive then
        (i.undiagnosed call.now (call.recovered i).1 (call.recovered i).2).1
      else i := by
  have hrecover := recover_getElem? call (engine.diagnose call).1 f
  rw [diagnose_getElem?_of_none h] at hrecover
  refine hrecover.trans ?_
  cases engine.incidents[f]? with
  | none => rfl
  | some i => cases hactive : i.status.isActive <;> simp [contains_grouped, h, hactive]

theorem diagnose_log :
    (engine.diagnose call).2 = (grouped call.diagnoses).toList.map fun group =>
      (Incident.diagnosed call.now (call.newId group.1) call.graph group.1 group.2
        engine.incidents[group.1]?).swap := by
  rw [diagnose, Std.ExtTreeMap.sweep_log _ _ (Std.ExtTreeMap.nodup_keys_toList _)]
  exact congrFun List.filterMap_eq_map _

/-- The incidents the second pass looks at. -/
def pending (call : Reconciliation) (incidents : Std.ExtTreeMap String Incident) :
    List (String × Incident) :=
  incidents.toList.filter fun entry =>
    !((grouped call.diagnoses).contains entry.1 || !entry.2.status.isActive)

theorem recover_log (incidents : Std.ExtTreeMap String Incident) :
    (recover call incidents).2 = (pending call incidents).map fun entry =>
      (entry.2.undiagnosed call.now (call.recovered entry.2).1 (call.recovered entry.2).2).swap := by
  rw [recover, Std.ExtTreeMap.sweep_log _ _ (Std.ExtTreeMap.nodup_keys_toList _), pending,
    ← List.filterMap_ite_none]
  refine List.filterMap_congr fun entry _ => ?_
  split <;> rfl

/-- An incident is pending if it is held, active and not diagnosed. -/
theorem mem_pending {i : Incident} :
    (f, i) ∈ pending call (engine.diagnose call).1 ↔
      (grouped call.diagnoses)[f]? = none ∧ engine.incidents[f]? = some i ∧
        i.status.isActive = true := by
  rw [pending, List.mem_filter, Std.ExtTreeMap.mem_toList_iff_getElem?_eq_some, contains_grouped]
  cases hg : (grouped call.diagnoses)[f]? with
  | some ds => simp
  | none => simp [diagnose_getElem?_of_none hg]

theorem reconcile_update :
    (engine.reconcileVerified call).2 =
      .ofLog ((engine.diagnose call).2 ++ (recover call (engine.diagnose call).1).2) := rfl

/-- **What a reconciliation reports**: of the diagnosed incidents what the first pass
makes of them, of the pending ones what the second does. -/
theorem mem_listed_reconcile {slot : Incident.Slot} {i : Incident} :
    i ∈ (engine.reconcileVerified call).2.listed slot ↔
      (∃ f ds, (grouped call.diagnoses)[f]? = some ds ∧
        Incident.diagnosed call.now (call.newId f) call.graph f ds engine.incidents[f]? =
          (i, slot)) ∨
      ∃ (f : String) (j : Incident), (grouped call.diagnoses)[f]? = none ∧
        engine.incidents[f]? = some j ∧
        j.status.isActive = true ∧
        j.undiagnosed call.now (call.recovered j).1 (call.recovered j).2 = (i, slot) := by
  have hswap : ∀ r : Incident × Incident.Slot, r.swap = (slot, i) ↔ r = (i, slot) := by
    rintro ⟨j, slot'⟩
    simp [Prod.swap, and_comm]
  rw [reconcile_update, IncidentUpdate.mem_listed_ofLog, List.mem_append, diagnose_log, recover_log, List.mem_map, List.mem_map]
  simp only [Prod.exists, Std.ExtTreeMap.mem_toList_iff_getElem?_eq_some, mem_pending, hswap,
    and_assoc]

end Reconcile

end IncidentEngine

end Sentinel
