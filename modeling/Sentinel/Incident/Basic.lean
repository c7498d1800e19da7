import Sentinel.Diagnosis.Basic

/-!
# Incidents

The operator-facing unit of "something is wrong".  An incident collects the
diagnoses that share a cause, with the entities they name and the evidence behind
them, and records on its timeline what happened to it.

## Main definitions

* `IncidentStatus`, `Severity`, `TimelineEvent`, `Incident`.
* `Incident.new`, `Incident.addDiagnosis`, `Incident.mergeDiagnosis`,
  `Incident.escalate`, `Incident.resolve` — the operations.
* `Incident.Continues` — what an incident keeps as it goes on.

## Main results

* `Incident.mergeDiagnosis_frame` — merging a diagnosis keeps everything that is
  not collected from diagnoses.
* `Incident.continues_escalate`, `Incident.continues_resolve` — the operations
  continue the incident.
-/

namespace Sentinel

/-- Lifecycle of an incident. -/
inductive IncidentStatus
  /-- Active and unacknowledged; the source's `Open`. -/
  | opened
  /-- An operator has seen it. -/
  | acknowledged
  /-- The root cause looks fixed but dependents have not all recovered. -/
  | recovering
  /-- Everything involved is healthy again. -/
  | resolved
  /-- Closed by a monitoring reset; recovery has not been confirmed. -/
  | reset
  /-- Deliberately silenced. -/
  | suppressed
  deriving DecidableEq, Repr

/-- Whether the incident still demands attention. -/
def IncidentStatus.isActive : IncidentStatus → Bool
  | opened | acknowledged | recovering => true
  | _ => false

/-- How much an incident matters. -/
inductive Severity
  /-- Worth recording, not worth waking anyone. -/
  | info
  /-- Degraded service. -/
  | warning
  /-- Loss of service, or a fault with wide fan-out. -/
  | critical
  deriving DecidableEq, Repr

namespace Severity

/-- Stable string form. -/
def asStr : Severity → String
  | info => "info"
  | warning => "warning"
  | critical => "critical"

/-- Severities from the least to the greatest. -/
def rank : Severity → ℕ
  | info => 0
  | warning => 1
  | critical => 2

theorem rank_injective : Function.Injective rank := by
  intro a b h
  cases a <;> cases b <;> first | rfl | cases h

instance : LinearOrder Severity := LinearOrder.lift' rank rank_injective

end Severity

/-- One entry in an incident's history. -/
structure TimelineEvent where
  /-- When it happened. -/
  at_ : Timestamp
  /-- Short machine-readable kind. -/
  kind : String
  /-- Human-readable detail. -/
  detail : String
  deriving DecidableEq, Repr

/-- A correlated failure. -/
structure Incident where
  /-- Incident identifier. -/
  id : Uuid
  /-- Stable key used to recognise the same incident again. -/
  fingerprint : String
  /-- Lifecycle status. -/
  status : IncidentStatus
  /-- Severity. -/
  severity : Severity
  /-- When the incident began. -/
  startedAt : Timestamp
  /-- When it was resolved or closed by a monitoring reset. -/
  endedAt : Option Timestamp
  /-- Entities showing symptoms. -/
  affectedEntities : List EntityId
  /-- Entities suspected of causing them. -/
  suspectedRootEntities : List EntityId
  /-- Diagnoses folded into this incident. -/
  diagnoses : List Diagnosis
  /-- Preserved observations. -/
  evidence : List ObservationId
  /-- History. -/
  timeline : List TimelineEvent
  deriving DecidableEq, Repr

namespace Incident

/-! ### Operations -/

/-- A new incident; the source's `open`. -/
def new (now : Timestamp) (id : Uuid) (fingerprint : String) (severity : Severity) : Incident where
  id := id
  fingerprint := fingerprint
  status := .opened
  severity := severity
  startedAt := now
  endedAt := none
  affectedEntities := []
  suspectedRootEntities := []
  diagnoses := []
  evidence := []
  timeline := []

/-- The most evidence one incident retains. -/
def maxEvidence : ℕ := 200

/-- Put an event at the end of the timeline. -/
def record (i : Incident) (now : Timestamp) (kind detail : String) : Incident :=
  { i with timeline := i.timeline ++ [⟨now, kind, detail⟩] }

/-- A list with what it does not hold yet put at its end, one after the other. -/
def extend {α : Type*} [DecidableEq α] (held more : List α) : List α :=
  more.foldl (fun held a => if a ∈ held then held else held ++ [a]) held

/-- The evidence with more of it, up to the most an incident retains: the earliest
is what explains the cause. -/
def retain (held more : List ObservationId) : List ObservationId :=
  more.foldl
    (fun held o => if maxEvidence ≤ held.length ∨ o ∈ held then held else held ++ [o]) held

/-- Fold a diagnosis in without a timeline entry. -/
def mergeDiagnosis (i : Incident) (d : Diagnosis) : Incident :=
  { i with
    affectedEntities := extend i.affectedEntities d.affectedEntities
    suspectedRootEntities := extend i.suspectedRootEntities d.suspectedRootEntities
    evidence := retain i.evidence d.evidence
    diagnoses := i.diagnoses ++ [d] }

/-- Fold a diagnosis in and record it on the timeline. -/
def addDiagnosis (now : Timestamp) (i : Incident) (d : Diagnosis) : Incident :=
  (i.record now "diagnosis_added"
    (d.diagnosisType.name ++ " (" ++ d.confidence.asStr ++ ")")).mergeDiagnosis d

/-- Whether the incident contains a diagnosis of the given type. -/
def hasDiagnosis (i : Incident) (diagnosisType : DiagnosisType) : Bool :=
  i.diagnoses.any fun d => d.diagnosisType = diagnosisType

/-- Raise the severity if the given one is higher. -/
def escalate (now : Timestamp) (i : Incident) (severity : Severity) : Incident :=
  if i.severity < severity then
    { i with severity := severity }.record now "severity_escalated"
      (i.severity.asStr ++ " -> " ++ severity.asStr)
  else i

/-- Mark the incident resolved. -/
def resolve (now : Timestamp) (i : Incident) : Incident :=
  { i with status := .resolved, endedAt := some now }.record now "resolved"
    "all involved entities recovered"

/-! ### What an operation keeps -/

/-- The same incident later on: its identity kept, its severity no lower, its
timeline longer at the end only. -/
structure Continues (before after : Incident) : Prop where
  id : after.id = before.id
  fingerprint : after.fingerprint = before.fingerprint
  startedAt : after.startedAt = before.startedAt
  severity : before.severity ≤ after.severity
  timeline : before.timeline <+: after.timeline

@[refl] theorem Continues.refl (i : Incident) : i.Continues i :=
  ⟨rfl, rfl, rfl, le_rfl, List.prefix_rfl⟩

theorem Continues.trans {a b c : Incident} (h : a.Continues b) (h' : b.Continues c) :
    a.Continues c :=
  ⟨h'.id.trans h.id, h'.fingerprint.trans h.fingerprint, h'.startedAt.trans h.startedAt,
    h.severity.trans h'.severity, h.timeline.trans h'.timeline⟩

/-- Only what is collected from diagnoses changes when some are merged. -/
theorem mergeDiagnosis_frame (ds : List Diagnosis) :
    ∀ i : Incident,
      let merged := ds.foldl mergeDiagnosis i
      merged.id = i.id ∧ merged.fingerprint = i.fingerprint ∧ merged.startedAt = i.startedAt ∧
      merged.status = i.status ∧ merged.endedAt = i.endedAt ∧ merged.severity = i.severity ∧
      merged.timeline = i.timeline := by
  induction ds with
  | nil => intro i; exact ⟨rfl, rfl, rfl, rfl, rfl, rfl, rfl⟩
  | cons d ds ih => intro i; exact ih (i.mergeDiagnosis d)

theorem continues_escalate (now : Timestamp) (i : Incident) (severity : Severity) :
    i.Continues (i.escalate now severity) := by
  unfold escalate
  split
  · next hlt => exact ⟨rfl, rfl, rfl, hlt.le, List.prefix_append _ _⟩
  · rfl

theorem escalate_of_le {now : Timestamp} {i : Incident} {severity : Severity}
    (h : severity ≤ i.severity) : i.escalate now severity = i := if_neg (not_lt.mpr h)

theorem escalate_status (now : Timestamp) (i : Incident) (severity : Severity) :
    (i.escalate now severity).status = i.status ∧
      (i.escalate now severity).endedAt = i.endedAt := by
  unfold escalate
  split <;> exact ⟨rfl, rfl⟩

theorem continues_resolve (now : Timestamp) (i : Incident) : i.Continues (i.resolve now) :=
  ⟨rfl, rfl, rfl, le_rfl, List.prefix_append _ _⟩

end Incident

end Sentinel
