import Sentinel.Controller.Ingest
import Sentinel.Incident.Basic

/-!
# Retention

Deleting records that have outlived their usefulness, under three rules: an open
incident is never pruned, evidence outlives what cites it, and every entity keeps its
most recent records however old they are.

Four deletions run in one transaction, each over what the ones before have left:
incidents first, so that what they cite is released in the same pass, then diagnoses
of no incident, then observations, then transitions.

## Main definitions

* `Database` — the tables a pass reads, with their primary keys.
* `keepFrom` — the instant from which an entity keeps its records.
* `Database.pruneAt` — the pass.

## Main results

* `keepFrom_le` — a record with few newer ones is not before that instant.
* `Database.pruneAt_protects` — what a pass keeps, and what a dry run reports.
-/

namespace Sentinel

/-! ### Configuration -/

/-- How long one class of record is kept. -/
inductive RetentionPeriod
  /-- Delete records older than this, in microseconds; the source's `For`. -/
  | lasting (duration : ℕ)
  /-- Never delete. -/
  | forever
  deriving DecidableEq, Repr

/-- The longest duration that can be subtracted from an instant, in microseconds. -/
def maxDuration : ℕ := (2 ^ 63 - 1) * 1000

/-- The cutoff before which records may be deleted, or `none` to keep all. -/
def RetentionPeriod.cutoff (now : Timestamp) : RetentionPeriod → Option Timestamp
  | lasting duration => if duration ≤ maxDuration then some (now - duration) else none
  | forever => none

/-- How long the controller keeps what it has recorded. -/
structure RetentionConfig where
  /-- Whether the controller prunes at all. -/
  enabled : Bool
  /-- How long observations are kept. -/
  observations : RetentionPeriod
  /-- How many records to keep per entity regardless of age. -/
  keepPerEntity : UInt32
  /-- How long state transitions are kept. -/
  transitions : RetentionPeriod
  /-- How long resolved incidents are kept. -/
  resolvedIncidents : RetentionPeriod
  /-- How long diagnoses not attached to any incident are kept. -/
  diagnoses : RetentionPeriod

/-- The floor below which `keepPerEntity` is not allowed to fall. -/
def minKeepPerEntity : ℕ := 32

/-- How many records each entity keeps. -/
def RetentionConfig.keep (config : RetentionConfig) : ℕ :=
  max config.keepPerEntity.toNat minKeepPerEntity

/-! ### Tables -/

/-- A stored incident, as far as its age is concerned. -/
structure IncidentRow where
  /-- The identifier. -/
  id : Uuid
  /-- Lifecycle status. -/
  status : IncidentStatus
  /-- When it ended. -/
  endedAt : Option Timestamp
  deriving DecidableEq

/-- A stored diagnosis, as far as its age is concerned. -/
structure DiagnosisRow where
  /-- The identifier. -/
  id : Uuid
  /-- The incident it was attached to; nothing says that it still exists. -/
  incidentId : Option Uuid
  /-- When it was made. -/
  createdAt : Timestamp
  deriving DecidableEq

/-- An observation cited by an incident or a diagnosis. -/
structure EvidenceRow where
  /-- What cites it. -/
  owner : Uuid
  /-- The observation. -/
  observation : ObservationId
  deriving DecidableEq

/-- A stored transition. -/
structure TransitionRow where
  /-- The identifier. -/
  id : Uuid
  /-- The transition. -/
  transition : StateTransition

/-- The tables a pass reads. -/
structure Database where
  /-- The incidents. -/
  incidents : List IncidentRow
  /-- What they cite. -/
  incidentEvidence : List EvidenceRow
  /-- The diagnoses. -/
  diagnoses : List DiagnosisRow
  /-- What they cite. -/
  diagnosisEvidence : List EvidenceRow
  /-- The observations. -/
  observations : List ObservationRow
  /-- The transitions. -/
  transitions : List TransitionRow
  /-- An identifier is a primary key. -/
  nodup_incidents : (incidents.map IncidentRow.id).Nodup
  /-- An identifier is a primary key. -/
  nodup_diagnoses : (diagnoses.map DiagnosisRow.id).Nodup

/-- What one pruning pass removed. -/
structure PruneOutcome where
  /-- Observations deleted. -/
  observations : ℕ
  /-- State transitions deleted. -/
  transitions : ℕ
  /-- Incidents deleted. -/
  incidents : ℕ
  /-- Diagnoses deleted. -/
  diagnoses : ℕ
  deriving DecidableEq, Repr

/-- Whether a pass deletes, or only reports what it would delete. -/
inductive PruneMode
  /-- Delete. -/
  | delete
  /-- Count what would be deleted, then roll it back. -/
  | dryRun
  deriving DecidableEq, Repr

/-! ### The records an entity keeps -/

section Keep

variable {α κ : Type*} [LinearOrder κ] (entity : α → EntityId) (time : α → Timestamp) (id : α → κ)

/-- The newest records of an entity, the latest first. -/
def newest (keep : ℕ) (rows : List α) (e : EntityId) : List α :=
  ((rows.filter fun row => entity row = e).sortBy fun row =>
    toLex (OrderDual.toDual (time row), OrderDual.toDual (id row))).take keep

/-- The instant from which an entity keeps its records. -/
def keepFrom (keep : ℕ) (rows : List α) (e : EntityId) : Option Timestamp :=
  ((newest entity time id keep rows e).map time).min?

/-- Whether a record is before the cutoff, and before the instant from which its entity
keeps records. -/
def outdated (cutoff : Timestamp) (keep : ℕ) (rows : List α) (row : α) : Bool :=
  time row < cutoff && time row < (keepFrom entity time id keep rows (entity row)).getD cutoff

/-- How many records of its entity are newer than a record. -/
def newerThan (rows : List α) (row : α) : ℕ :=
  rows.countP fun other => entity other = entity row && time row < time other

variable {entity time} {keep : ℕ} {rows : List α} {row : α}

/-- Among the newest records of its entity, some is not newer than a record that has
few newer ones. -/
theorem exists_newest_le (hrow : row ∈ rows) (hfew : newerThan entity time rows row < keep) :
    ∃ other ∈ newest entity time id keep rows (entity row), time other ≤ time row := by
  by_contra hnone
  simp only [not_exists, not_and, not_le] at hnone
  -- otherwise all of them are newer, so they are fewer than asked for, and hence all there are
  have hcount : (newest entity time id keep rows (entity row)).length ≤ newerThan entity time rows row := by
    have hall : (newest entity time id keep rows (entity row)).countP (fun other => time row < time other) =
        (newest entity time id keep rows (entity row)).length :=
      List.countP_eq_length.mpr fun other hother => decide_eq_true (hnone other hother)
    rw [← hall, newerThan, ← List.countP_filter]
    refine ((List.take_sublist _ _).countP_le).trans_eq ?_
    rw [(List.perm_sortBy _ _).countP_eq, List.countP_filter, List.countP_filter]
    simp only [Bool.and_comm]
  have hshort := hcount.trans_lt hfew
  rw [newest, List.length_take, min_lt_iff] at hshort
  have hself : row ∈ newest entity time id keep rows (entity row) := by
    rw [newest, List.take_of_length_le (by omega), List.mem_sortBy, List.mem_filter]
    exact ⟨hrow, decide_eq_true rfl⟩
  exact lt_irrefl _ (hnone row hself)

/-- **A record with few newer ones is not before the instant** from which its entity
keeps records. -/
theorem keepFrom_le (hrow : row ∈ rows) (hfew : newerThan entity time rows row < keep) :
    ∃ t, keepFrom entity time id keep rows (entity row) = some t ∧ t ≤ time row := by
  obtain ⟨other, hother, hle⟩ := exists_newest_le id hrow hfew
  cases hmin : keepFrom entity time id keep rows (entity row) with
  | none =>
    rw [keepFrom, List.min?_eq_none_iff, List.map_eq_nil_iff] at hmin
    rw [hmin] at hother
    cases hother
  | some t =>
    exact ⟨t, rfl, ((List.min?_eq_some_iff.mp hmin).2 _ (List.mem_map_of_mem hother)).trans hle⟩

theorem not_outdated (hrow : row ∈ rows) (hfew : newerThan entity time rows row < keep)
    (cutoff : Timestamp) : outdated entity time id cutoff keep rows row = false := by
  obtain ⟨t, ht, hle⟩ := keepFrom_le id hrow hfew
  rw [outdated, ht, Option.getD_some, Bool.and_eq_false_iff]
  exact Or.inr (decide_eq_false (not_lt.mpr hle))

end Keep

namespace Database

/-- Whether an incident is closed and ended before a cutoff; both are required. -/
def ended (cutoff : Timestamp) (row : IncidentRow) : Bool :=
  (row.status = .resolved || row.status = .reset) && row.endedAt.any fun endedAt => endedAt < cutoff

/-- Delete incidents, and with them what they cite. -/
def deleteIncidents (db : Database) (p : IncidentRow → Bool) : Database :=
  { db with
    incidents := db.incidents.filter fun row => !p row
    incidentEvidence := db.incidentEvidence.filter fun row =>
      row.owner ∉ (db.incidents.filter p).map IncidentRow.id
    nodup_incidents := db.nodup_incidents.sublist (List.filter_sublist.map _) }

/-- Delete diagnoses, and with them what they cite. -/
def deleteDiagnoses (db : Database) (p : DiagnosisRow → Bool) : Database :=
  { db with
    diagnoses := db.diagnoses.filter fun row => !p row
    diagnosisEvidence := db.diagnosisEvidence.filter fun row =>
      row.owner ∉ (db.diagnoses.filter p).map DiagnosisRow.id
    nodup_diagnoses := db.nodup_diagnoses.sublist (List.filter_sublist.map _) }

/-- Delete resolved or reset incidents that ended before the cutoff. -/
def pruneIncidents (db : Database) (period : RetentionPeriod) (now : Timestamp) : Database × ℕ :=
  match period.cutoff now with
  | none => (db, 0)
  | some cutoff => (db.deleteIncidents (ended cutoff), db.incidents.countP (ended cutoff))

/-- Whether a diagnosis was made before a cutoff and belongs to no incident. -/
def unattached (db : Database) (cutoff : Timestamp) (row : DiagnosisRow) : Bool :=
  row.createdAt < cutoff && row.incidentId.all fun incident => incident ∉ db.incidents.map IncidentRow.id

/-- Delete diagnoses that belong to no surviving incident. -/
def pruneDiagnoses (db : Database) (period : RetentionPeriod) (now : Timestamp) : Database × ℕ :=
  match period.cutoff now with
  | none => (db, 0)
  | some cutoff => (db.deleteDiagnoses (db.unattached cutoff), db.diagnoses.countP (db.unattached cutoff))

/-- Whether an observation is cited. -/
def cited (db : Database) (o : ObservationId) : Bool :=
  o ∈ db.diagnosisEvidence.map EvidenceRow.observation ||
    o ∈ db.incidentEvidence.map EvidenceRow.observation

/-- When an observation finished. -/
def finishedAt (row : ObservationRow) : Timestamp := row.observation.finishedAt

/-- What an observation is about. -/
def target (row : ObservationRow) : EntityId := row.observation.targetEntity

/-- When a transition occurred. -/
def occurredAt (row : TransitionRow) : Timestamp := row.transition.at_

/-- What a transition is about. -/
def entityOf (row : TransitionRow) : EntityId := row.transition.entity

/-- Whether an observation is outdated and not cited. -/
def disposable (db : Database) (cutoff : Timestamp) (keep : ℕ) (row : ObservationRow) : Bool :=
  outdated target finishedAt (fun row => row.observation.id) cutoff keep db.observations row &&
    !db.cited row.observation.id

/-- Delete observations older than the cutoff, keeping cited and recent ones. -/
def pruneObservations (db : Database) (period : RetentionPeriod) (keep : ℕ) (now : Timestamp) :
    Database × ℕ :=
  match period.cutoff now with
  | none => (db, 0)
  | some cutoff =>
    ({ db with observations := db.observations.filter fun row => !db.disposable cutoff keep row },
      db.observations.countP (db.disposable cutoff keep))

/-- Whether a transition is outdated. -/
def past (db : Database) (cutoff : Timestamp) (keep : ℕ) (row : TransitionRow) : Bool :=
  outdated entityOf occurredAt TransitionRow.id cutoff keep db.transitions row

/-- Delete state transitions older than the cutoff, keeping recent ones. -/
def pruneTransitions (db : Database) (period : RetentionPeriod) (keep : ℕ) (now : Timestamp) :
    Database × ℕ :=
  match period.cutoff now with
  | none => (db, 0)
  | some cutoff =>
    ({ db with transitions := db.transitions.filter fun row => !db.past cutoff keep row },
      db.transitions.countP (db.past cutoff keep))

/-- The database after the four deletions, and what they removed. -/
def pruned (db : Database) (config : RetentionConfig) (now : Timestamp) : Database × PruneOutcome :=
  let (db, incidents) := db.pruneIncidents config.resolvedIncidents now
  let (db, diagnoses) := db.pruneDiagnoses config.diagnoses now
  let (db, observations) := db.pruneObservations config.observations config.keep now
  let (db, transitions) := db.pruneTransitions config.transitions config.keep now
  (db, ⟨observations, transitions, incidents, diagnoses⟩)

/-- Delete everything older than the configuration allows; a dry run is rolled back. -/
def pruneAt (db : Database) (config : RetentionConfig) (now : Timestamp) (mode : PruneMode) :
    Database × PruneOutcome :=
  if !config.enabled then (db, ⟨0, 0, 0, 0⟩)
  else
    match mode with
    | .delete => db.pruned config now
    | .dryRun => (db, (db.pruned config now).2)

/-! ### What the deletions leave -/

section Deletions

variable (db : Database) (now : Timestamp)

theorem length_filter_not_add_countP {α : Type*} (p : α → Bool) (l : List α) :
    (l.filter fun a => !p a).length + l.countP p = l.length := by
  rw [← List.countP_eq_length_filter, add_comm, List.length_eq_countP_add_countP p]
  simp

/-- What an owner with a unique key cites stays when others are deleted. -/
theorem mem_evidence_of_survivor {α : Type*} {key : α → Uuid} {owners : List α}
    (hkeys : (owners.map key).Nodup) {p : α → Bool} {owner : α} (howner : owner ∈ owners.filter fun a => !p a)
    {evidence : List EvidenceRow} {row : EvidenceRow} (hrow : row ∈ evidence) (hkey : key owner = row.owner) :
    row ∈ evidence.filter fun row => row.owner ∉ (owners.filter p).map key := by
  obtain ⟨hmem, hkept⟩ := List.mem_filter.mp howner
  refine List.mem_filter.mpr ⟨hrow, decide_eq_true ?_⟩
  intro hdeleted
  obtain ⟨other, hother, hsame⟩ := List.mem_map.mp hdeleted
  obtain ⟨hother, hp⟩ := List.mem_filter.mp hother
  obtain rfl : other = owner := List.inj_on_of_nodup_map hkeys hother hmem (hsame.trans hkey.symm)
  rw [hp] at hkept
  cases hkept

theorem pruneIncidents_spec (period : RetentionPeriod) :
    let result := db.pruneIncidents period now
    (result.1.diagnoses = db.diagnoses ∧ result.1.diagnosisEvidence = db.diagnosisEvidence ∧
      result.1.observations = db.observations ∧ result.1.transitions = db.transitions) ∧
    (∀ i ∈ db.incidents, i ∉ result.1.incidents →
      ∃ cutoff, period.cutoff now = some cutoff ∧ ended cutoff i = true) ∧
    (∀ row ∈ db.incidentEvidence, (∃ i ∈ result.1.incidents, i.id = row.owner) →
      row ∈ result.1.incidentEvidence) ∧
    result.1.incidents.length + result.2 = db.incidents.length := by
  rw [pruneIncidents]
  cases hcutoff : period.cutoff now with
  | none => exact ⟨⟨rfl, rfl, rfl, rfl⟩, fun i hi hnot => absurd hi hnot, fun row hrow _ => hrow, rfl⟩
  | some cutoff =>
    refine ⟨⟨rfl, rfl, rfl, rfl⟩, fun i hi hnot => ⟨cutoff, rfl, ?_⟩, ?_, length_filter_not_add_countP _ _⟩
    · by_contra hended
      exact hnot (List.mem_filter.mpr ⟨hi, by simpa using hended⟩)
    · rintro row hrow ⟨i, hi, hkey⟩
      exact mem_evidence_of_survivor db.nodup_incidents hi hrow hkey

theorem pruneDiagnoses_spec (period : RetentionPeriod) :
    let result := db.pruneDiagnoses period now
    (result.1.incidents = db.incidents ∧ result.1.incidentEvidence = db.incidentEvidence ∧
      result.1.observations = db.observations ∧ result.1.transitions = db.transitions) ∧
    (∀ row ∈ db.diagnosisEvidence, (∃ d ∈ result.1.diagnoses, d.id = row.owner) →
      row ∈ result.1.diagnosisEvidence) ∧
    result.1.diagnoses.length + result.2 = db.diagnoses.length := by
  rw [pruneDiagnoses]
  cases period.cutoff now with
  | none => exact ⟨⟨rfl, rfl, rfl, rfl⟩, fun row hrow _ => hrow, rfl⟩
  | some cutoff =>
    refine ⟨⟨rfl, rfl, rfl, rfl⟩, ?_, length_filter_not_add_countP _ _⟩
    rintro row hrow ⟨d, hd, hkey⟩
    exact mem_evidence_of_survivor db.nodup_diagnoses hd hrow hkey

theorem pruneObservations_spec (period : RetentionPeriod) (keep : ℕ) :
    let result := db.pruneObservations period keep now
    (result.1.incidents = db.incidents ∧ result.1.diagnoses = db.diagnoses ∧
      result.1.transitions = db.transitions) ∧
    (∀ o ∈ db.observations,
      db.cited o.observation.id = true ∨ newerThan target finishedAt db.observations o < keep →
      o ∈ result.1.observations) ∧
    result.1.observations.length + result.2 = db.observations.length := by
  rw [pruneObservations]
  cases period.cutoff now with
  | none => exact ⟨⟨rfl, rfl, rfl⟩, fun o ho _ => ho, rfl⟩
  | some cutoff =>
    refine ⟨⟨rfl, rfl, rfl⟩, fun o ho hkept => ?_, length_filter_not_add_countP _ _⟩
    refine List.mem_filter.mpr ⟨ho, ?_⟩
    rcases hkept with hcited | hfew
    · simp [disposable, hcited]
    · simp [disposable, not_outdated (fun row => row.observation.id) ho hfew cutoff]

theorem pruneTransitions_spec (period : RetentionPeriod) (keep : ℕ) :
    let result := db.pruneTransitions period keep now
    (result.1.incidents = db.incidents ∧ result.1.diagnoses = db.diagnoses ∧
      result.1.observations = db.observations) ∧
    (∀ t ∈ db.transitions, newerThan entityOf occurredAt db.transitions t < keep →
      t ∈ result.1.transitions) ∧
    result.1.transitions.length + result.2 = db.transitions.length := by
  rw [pruneTransitions]
  cases period.cutoff now with
  | none => exact ⟨⟨rfl, rfl, rfl⟩, fun t ht _ => ht, rfl⟩
  | some cutoff =>
    refine ⟨⟨rfl, rfl, rfl⟩, fun t ht hfew => ?_, length_filter_not_add_countP _ _⟩
    exact List.mem_filter.mpr ⟨ht, by simp [past, not_outdated TransitionRow.id ht hfew cutoff]⟩

end Deletions

/-! ### What a pass keeps -/

/-- An observation is cited, in one database, by what is still there in another. -/
def CitedBySurvivor (db after : Database) (o : ObservationId) : Prop :=
  (∃ row ∈ db.diagnosisEvidence, row.observation = o ∧ ∃ d ∈ after.diagnoses, d.id = row.owner) ∨
    ∃ row ∈ db.incidentEvidence, row.observation = o ∧ ∃ i ∈ after.incidents, i.id = row.owner

/-- What a pass keeps of a database, and what it says it removed. -/
structure Protects (config : RetentionConfig) (now : Timestamp) (db after : Database)
    (outcome : PruneOutcome) : Prop where
  /-- An incident is deleted only if it is closed and ended before the cutoff. -/
  incidents : ∀ i ∈ db.incidents, i ∉ after.incidents →
    (i.status = .resolved ∨ i.status = .reset) ∧
      ∃ cutoff endedAt, config.resolvedIncidents.cutoff now = some cutoff ∧
        i.endedAt = some endedAt ∧ endedAt < cutoff
  /-- What a survivor cites is kept. -/
  evidence : ∀ o ∈ db.observations, db.CitedBySurvivor after o.observation.id → o ∈ after.observations
  /-- The newest observations of each entity are kept. -/
  observations : ∀ o ∈ db.observations,
    newerThan target finishedAt db.observations o < config.keep → o ∈ after.observations
  /-- The newest transitions of each entity are kept. -/
  transitions : ∀ t ∈ db.transitions,
    newerThan entityOf occurredAt db.transitions t < config.keep → t ∈ after.transitions
  /-- What is reported is what is gone. -/
  counts : after.incidents.length + outcome.incidents = db.incidents.length ∧
    after.diagnoses.length + outcome.diagnoses = db.diagnoses.length ∧
    after.observations.length + outcome.observations = db.observations.length ∧
    after.transitions.length + outcome.transitions = db.transitions.length

/-- A pass that does nothing protects everything. -/
theorem Protects.refl (config : RetentionConfig) (now : Timestamp) (db : Database) :
    Protects config now db db ⟨0, 0, 0, 0⟩ where
  incidents := fun _ hi hnot => absurd hi hnot
  evidence := fun _ ho _ => ho
  observations := fun _ ho _ => ho
  transitions := fun _ ht _ => ht
  counts := ⟨rfl, rfl, rfl, rfl⟩

theorem protects_pruned (db : Database) (config : RetentionConfig) (now : Timestamp) :
    Protects config now db (db.pruned config now).1 (db.pruned config now).2 := by
  -- each deletion leaves the other tables alone, except for what its rows cite
  obtain ⟨⟨hdiagnoses, hdiagnosisEvidence, hobservations, htransitions⟩, hincidents, hevidence, hcount⟩ :=
    db.pruneIncidents_spec now config.resolvedIncidents
  rw [pruned]
  set first := db.pruneIncidents config.resolvedIncidents now
  obtain ⟨⟨hincidents₂, hincidentEvidence₂, hobservations₂, htransitions₂⟩, hevidence₂, hcount₂⟩ :=
    first.1.pruneDiagnoses_spec now config.diagnoses
  set second := first.1.pruneDiagnoses config.diagnoses now
  obtain ⟨⟨hincidents₃, hdiagnoses₃, htransitions₃⟩, hkept₃, hcount₃⟩ :=
    second.1.pruneObservations_spec now config.observations config.keep
  set third := second.1.pruneObservations config.observations config.keep now
  obtain ⟨⟨hincidents₄, hdiagnoses₄, hobservations₄⟩, hkept₄, hcount₄⟩ :=
    third.1.pruneTransitions_spec now config.transitions config.keep
  set fourth := third.1.pruneTransitions config.transitions config.keep now
  have hincidentsEnd : fourth.1.incidents = first.1.incidents := by
    rw [hincidents₄, hincidents₃, hincidents₂]
  have hdiagnosesEnd : fourth.1.diagnoses = second.1.diagnoses := by rw [hdiagnoses₄, hdiagnoses₃]
  have hobservationsStart : second.1.observations = db.observations := by
    rw [hobservations₂, hobservations]
  have htransitionsStart : third.1.transitions = db.transitions := by
    rw [htransitions₃, htransitions₂, htransitions]
  constructor
  · intro i hi hnot
    rw [hincidentsEnd] at hnot
    obtain ⟨cutoff, hcutoff, hended⟩ := hincidents i hi hnot
    rw [ended, Bool.and_eq_true, Bool.or_eq_true, decide_eq_true_iff, decide_eq_true_iff,
      Option.any_eq_true] at hended
    obtain ⟨hstatus, endedAt, hendedAt, hlt⟩ := hended
    exact ⟨hstatus, cutoff, endedAt, hcutoff, hendedAt, of_decide_eq_true hlt⟩
  · intro o ho hcited
    rw [hobservations₄]
    refine hkept₃ o (hobservationsStart ▸ ho) (Or.inl ?_)
    rw [cited, Bool.or_eq_true, decide_eq_true_iff, decide_eq_true_iff]
    rcases hcited with ⟨row, hrow, hid, d, hd, hkey⟩ | ⟨row, hrow, hid, i, hi, hkey⟩
    · left
      rw [hdiagnosesEnd] at hd
      exact List.mem_map.mpr ⟨row, hevidence₂ row (hdiagnosisEvidence ▸ hrow) ⟨d, hd, hkey⟩, hid⟩
    · right
      rw [hincidentsEnd] at hi
      rw [hincidentEvidence₂]
      exact List.mem_map.mpr ⟨row, hevidence row hrow ⟨i, hi, hkey⟩, hid⟩
  · intro o ho hfew
    rw [hobservations₄]
    refine hkept₃ o (hobservationsStart ▸ ho) (Or.inr ?_)
    rwa [hobservationsStart]
  · intro t ht hfew
    refine hkept₄ t (htransitionsStart ▸ ht) ?_
    rwa [htransitionsStart]
  · refine ⟨?_, ?_, ?_, ?_⟩
    · rw [hincidentsEnd]; exact hcount
    · rw [hdiagnosesEnd, ← hdiagnoses]; exact hcount₂
    · rw [hobservations₄, ← hobservationsStart]; exact hcount₃
    · rw [← htransitionsStart]; exact hcount₄

/-- **What a pass keeps**, whatever the tables hold: incidents that have not ended,
what survivors cite, and the newest records of every entity.  A dry run changes nothing
and reports what the real run removes. -/
theorem pruneAt_protects (db : Database) (config : RetentionConfig) (now : Timestamp) :
    Protects config now db (db.pruneAt config now .delete).1 (db.pruneAt config now .delete).2 ∧
    db.pruneAt config now .dryRun = (db, (db.pruneAt config now .delete).2) := by
  cases henabled : config.enabled with
  | false =>
    simp only [pruneAt, henabled, Bool.not_false, if_true]
    exact ⟨Protects.refl config now db, trivial⟩
  | true =>
    simp only [pruneAt, henabled, Bool.not_true, Bool.false_eq_true, if_false]
    exact ⟨db.protects_pruned config now, trivial⟩

end Database

end Sentinel
