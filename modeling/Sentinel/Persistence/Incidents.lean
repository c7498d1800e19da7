import Sentinel.Lib.Transaction
import Sentinel.Notification.Basic

/-!
# Storing incidents

An incident is kept in several tables, and the messages to send about it in another one.
Saving incidents is one transaction: for each of them the row is written, the entities and
diagnoses replaced, evidence and timeline extended, and the messages replaced.  A message
about an earlier incident of the same cause is superseded.

What an incident has in a table is kept by its identifier.  A diagnosis is stored with its
entities and its evidence in one piece, as sets.

## Main definitions

* `IncidentTables` — the tables.
* `saveStatements`, `IncidentTables.saveIncidents` — the statements of a save.

## Main results

* `IncidentTables.candidates_saved` — the messages after one incident is saved.
* `IncidentTables.saveIncidents_spec` — the messages after incidents are saved, and that a
  save that fails changes nothing.
-/

namespace Sentinel

/-! ### Tables -/

/-- The row of an incident. -/
structure StoredIncident where
  /-- The environment. -/
  environment : String
  /-- Stable key used to recognise the same incident again. -/
  fingerprint : String
  /-- Lifecycle status. -/
  status : IncidentStatus
  /-- Severity. -/
  severity : Severity
  /-- When the incident began. -/
  startedAt : Timestamp
  /-- When it ended. -/
  endedAt : Option Timestamp
  deriving DecidableEq

/-- A stored diagnosis. -/
structure StoredDiagnosis where
  /-- What the rule concluded. -/
  diagnosisType : DiagnosisType
  /-- The rule that fired. -/
  ruleId : RuleId
  /-- How sure the rule is. -/
  confidence : Confidence
  /-- Human-readable summary. -/
  summary : String
  /-- Read-only commands an operator may want to run. -/
  recommendedActions : List String
  /-- Entities showing symptoms. -/
  affected : Std.ExtTreeSet EntityId
  /-- Entities suspected of causing them. -/
  roots : Std.ExtTreeSet EntityId
  /-- Observations backing the conclusion. -/
  evidence : Std.ExtTreeSet ObservationId

/-- The row of a diagnosis, with what hangs off it. -/
def Diagnosis.stored (d : Diagnosis) : StoredDiagnosis where
  diagnosisType := d.diagnosisType
  ruleId := d.ruleId
  confidence := d.confidence
  summary := d.summary
  recommendedActions := d.recommendedActions
  affected := .ofList d.affectedEntities
  roots := .ofList d.suspectedRootEntities
  evidence := .ofList d.evidence

/-- A message to send. -/
structure Candidate where
  /-- Its key, the primary key. -/
  deduplicationKey : String
  /-- The incident it is about. -/
  incidentId : Uuid
  /-- The message. -/
  payload : Notification
  deriving DecidableEq

/-- The tables incidents are kept in, and the rows they refer to. -/
structure IncidentTables where
  /-- The environments. -/
  environments : Std.ExtTreeSet String
  /-- The entities. -/
  entities : Std.ExtTreeSet EntityId
  /-- The incidents, by identifier. -/
  incidents : Std.ExtTreeMap Uuid StoredIncident
  /-- The entities an incident affects. -/
  affected : Uuid → Std.ExtTreeSet EntityId
  /-- The entities suspected of causing it. -/
  roots : Uuid → Std.ExtTreeSet EntityId
  /-- The observations preserved for it. -/
  evidence : Uuid → Std.ExtTreeSet ObservationId
  /-- Its diagnoses. -/
  diagnoses : Uuid → List StoredDiagnosis
  /-- Its timeline, in order of insertion. -/
  timeline : Uuid → List TimelineEvent
  /-- The messages to send. -/
  candidates : List Candidate

/-! ### The statements of a save -/

section Statements

variable (environment : String) (i : Incident)

/-- Write the row of an incident.  One that is there keeps its environment, its
fingerprint and its beginning. -/
def upsertIncident : Statement IncidentTables where
  permits := fun t => t.incidents.contains i.id || t.environments.contains environment
  effect := fun t => { t with
    incidents := t.incidents.insert i.id
      (match t.incidents[i.id]? with
      | some row => { row with status := i.status, severity := i.severity, endedAt := i.endedAt }
      | none => ⟨environment, i.fingerprint, i.status, i.severity, i.startedAt, i.endedAt⟩) }

/-- Forget the entities of an incident. -/
def clearEntities : Statement IncidentTables where
  permits := fun _ => true
  effect := fun t => { t with
    affected := Function.update t.affected i.id ∅
    roots := Function.update t.roots i.id ∅ }

/-- Add an entity the incident affects. -/
def insertAffected (e : EntityId) : Statement IncidentTables where
  permits := fun t => t.entities.contains e
  effect := fun t => { t with affected := Function.update t.affected i.id ((t.affected i.id).insert e) }

/-- Add an entity suspected of causing it. -/
def insertRoot (e : EntityId) : Statement IncidentTables where
  permits := fun t => t.entities.contains e
  effect := fun t => { t with roots := Function.update t.roots i.id ((t.roots i.id).insert e) }

/-- Preserve an observation. -/
def insertEvidence (o : ObservationId) : Statement IncidentTables where
  permits := fun _ => true
  effect := fun t => { t with evidence := Function.update t.evidence i.id ((t.evidence i.id).insert o) }

/-- Forget the diagnoses of an incident. -/
def clearDiagnoses : Statement IncidentTables where
  permits := fun _ => true
  effect := fun t => { t with diagnoses := Function.update t.diagnoses i.id [] }

/-- Add a diagnosis with its entities and its evidence. -/
def insertDiagnosis (d : Diagnosis) : Statement IncidentTables where
  permits := fun t => (d.affectedEntities ++ d.suspectedRootEntities).all fun e => t.entities.contains e
  effect := fun t => { t with
    diagnoses := Function.update t.diagnoses i.id (t.diagnoses i.id ++ [d.stored]) }

/-- Add an event to the timeline, unless it is there. -/
def insertEvent (event : TimelineEvent) : Statement IncidentTables where
  permits := fun _ => true
  effect := fun t => { t with
    timeline := Function.update t.timeline i.id
      (if event ∈ t.timeline i.id then t.timeline i.id else t.timeline i.id ++ [event]) }

/-- Whether a message is about an incident that another one supersedes: of the same
environment and fingerprint, and not begun later. -/
def IncidentTables.superseded (t : IncidentTables) (candidate : Candidate) : Bool :=
  t.incidents[candidate.incidentId]?.any fun row =>
    row.environment = environment && row.fingerprint = i.fingerprint && candidate.incidentId ≠ i.id &&
      row.startedAt ≤ i.startedAt

/-- Delete the messages that are superseded. -/
def supersede : Statement IncidentTables where
  permits := fun _ => true
  effect := fun t => { t with candidates := t.candidates.filter fun c => !t.superseded environment i c }

/-- Delete the messages about an incident. -/
def clearCandidates : Statement IncidentTables where
  permits := fun _ => true
  effect := fun t => { t with candidates := t.candidates.filter fun c => c.incidentId ≠ i.id }

/-- Add a message; its key must be new. -/
def insertCandidate (n : Notification) : Statement IncidentTables where
  permits := fun t => n.deduplicationKey ∉ t.candidates.map Candidate.deduplicationKey
  effect := fun t => { t with candidates := t.candidates ++ [⟨n.deduplicationKey, i.id, n⟩] }

variable (newV5 : Uuid → String → Uuid) (toRfc3339 : Timestamp → String)

/-- The statements that write an incident and everything hanging off it; the source's
`save_incident_in`. -/
def saveStatements : List (Statement IncidentTables) :=
  [upsertIncident environment i, clearEntities i] ++
    i.affectedEntities.map (insertAffected i) ++ i.suspectedRootEntities.map (insertRoot i) ++
    i.evidence.map (insertEvidence i) ++
    [clearDiagnoses i] ++ i.diagnoses.map (insertDiagnosis i) ++
    i.timeline.map (insertEvent i) ++
    [supersede environment i, clearCandidates i] ++
    (notificationsForIncident newV5 toRfc3339 i).map (insertCandidate i)

/-- Commit a reconciliation and its messages together: the tables after it, and whether
it was committed. -/
def IncidentTables.saveIncidents (fault : ℕ → Bool) (t : IncidentTables) (incidents : List Incident) :
    IncidentTables × Bool :=
  transaction fault (incidents.flatMap fun i => saveStatements environment i newV5 toRfc3339) t

/-- The tables once an incident is saved. -/
def IncidentTables.saved (t : IncidentTables) : IncidentTables :=
  effects (saveStatements environment i newV5 toRfc3339) t

end Statements

namespace IncidentTables

variable {environment : String} {newV5 : Uuid → String → Uuid} {toRfc3339 : Timestamp → String}
  {t : IncidentTables} {i : Incident} {fault : ℕ → Bool}

/-- The messages about an incident. -/
def candidatesOf (t : IncidentTables) (id : Uuid) : List Candidate :=
  t.candidates.filter fun c => c.incidentId = id

/-- The row an incident has once it is saved. -/
def rowOf (environment : String) (t : IncidentTables) (i : Incident) : StoredIncident :=
  match t.incidents[i.id]? with
  | some row => { row with status := i.status, severity := i.severity, endedAt := i.endedAt }
  | none => ⟨environment, i.fingerprint, i.status, i.severity, i.startedAt, i.endedAt⟩

/-- The messages to store about an incident. -/
def candidatesFor (newV5 : Uuid → String → Uuid) (toRfc3339 : Timestamp → String) (i : Incident) :
    List Candidate :=
  (notificationsForIncident newV5 toRfc3339 i).map fun n => ⟨n.deduplicationKey, i.id, n⟩

/-! ### One incident -/

theorem effects_insertCandidates (ns : List Notification) :
    ∀ t : IncidentTables, effects (ns.map (insertCandidate i)) t =
      { t with candidates := t.candidates ++ ns.map fun n => ⟨n.deduplicationKey, i.id, n⟩ } := by
  induction ns with
  | nil => intro t; simp
  | cons n ns ih =>
    intro t
    rw [List.map_cons, effects_cons, ih]
    simp [insertCandidate]

/-- Before the messages, a save writes the row and leaves the messages alone. -/
theorem saved_eq (environment : String) (i : Incident) (t : IncidentTables) :
    ∃ written : IncidentTables, written.incidents = t.incidents.insert i.id (t.rowOf environment i) ∧
      written.candidates = t.candidates ∧
      t.saved environment i newV5 toRfc3339 =
        { written with
          candidates := ((t.candidates.filter fun c => !written.superseded environment i c).filter
            fun c => c.incidentId ≠ i.id) ++ candidatesFor newV5 toRfc3339 i } := by
  set front : List (Statement IncidentTables) := clearEntities i ::
    (i.affectedEntities.map (insertAffected i) ++ i.suspectedRootEntities.map (insertRoot i) ++
      i.evidence.map (insertEvidence i) ++ [clearDiagnoses i] ++ i.diagnoses.map (insertDiagnosis i) ++
      i.timeline.map (insertEvent i)) with hfront
  have hsplit : saveStatements environment i newV5 toRfc3339 = upsertIncident environment i ::
      (front ++ (supersede environment i :: clearCandidates i ::
        (notificationsForIncident newV5 toRfc3339 i).map (insertCandidate i))) := by
    simp [saveStatements, hfront]
  have hkeep : ∀ statement ∈ front, ∀ s : IncidentTables,
      (statement.effect s).incidents = s.incidents ∧ (statement.effect s).candidates = s.candidates := by
    intro statement hstatement s
    simp only [hfront, List.mem_cons, List.mem_append, List.mem_map, List.not_mem_nil, or_false] at hstatement
    rcases hstatement with rfl | (((((⟨_, -, rfl⟩ | ⟨_, -, rfl⟩) | ⟨_, -, rfl⟩) | rfl) | ⟨_, -, rfl⟩) |
      ⟨_, -, rfl⟩) <;> exact ⟨rfl, rfl⟩
  set written := effects front ((upsertIncident environment i).effect t) with hwritten
  have hsame : written.incidents = ((upsertIncident environment i).effect t).incidents ∧
      written.candidates = ((upsertIncident environment i).effect t).candidates :=
    effects_invariant (P := fun s => s.incidents = ((upsertIncident environment i).effect t).incidents ∧
      s.candidates = ((upsertIncident environment i).effect t).candidates)
      (fun statement hstatement s hs =>
        ⟨(hkeep statement hstatement s).1.trans hs.1, (hkeep statement hstatement s).2.trans hs.2⟩)
      ⟨rfl, rfl⟩
  refine ⟨written, hsame.1, hsame.2, ?_⟩
  rw [saved, hsplit, effects_cons, effects_append, ← hwritten, effects_cons, effects_cons,
    effects_insertCandidates]
  simp only [supersede, clearCandidates, candidatesFor, hsame.2]
  rfl

theorem incidents_saved (environment : String) (i : Incident) (t : IncidentTables) :
    (t.saved environment i newV5 toRfc3339).incidents =
      t.incidents.insert i.id (t.rowOf environment i) := by
  obtain ⟨written, hincidents, -, heq⟩ := t.saved_eq environment i
  rw [heq]
  exact hincidents

theorem incidentId_of_mem_candidatesFor {c : Candidate} (h : c ∈ candidatesFor newV5 toRfc3339 i) :
    c.incidentId = i.id := by
  obtain ⟨n, -, rfl⟩ := List.mem_map.mp h
  rfl

/-- **The messages after an incident is saved**: its own are those it calls for, those of
an incident it supersedes are gone, and the others are as they were. -/
theorem candidates_saved (environment : String) (i : Incident) (t : IncidentTables) (id : Uuid) :
    (t.saved environment i newV5 toRfc3339).candidatesOf id =
      if id = i.id then candidatesFor newV5 toRfc3339 i
      else if t.incidents[id]?.any (fun row => row.environment = environment &&
          row.fingerprint = i.fingerprint && row.startedAt ≤ i.startedAt) then []
      else t.candidatesOf id := by
  obtain ⟨written, hincidents, hcandidates, heq⟩ := t.saved_eq environment i
  rw [heq, candidatesOf, List.filter_append, List.filter_filter, List.filter_filter]
  have hrow : ∀ {id : Uuid}, id ≠ i.id → written.incidents[id]? = t.incidents[id]? := by
    intro id hid
    rw [hincidents, Std.ExtTreeMap.getElem?_insert_eq, if_neg (Ne.symm hid)]
  by_cases hid : id = i.id
  · have hnone : t.candidates.filter (fun c => (decide (c.incidentId = id) &&
        decide (c.incidentId ≠ i.id)) && !written.superseded environment i c) = [] := by
      rw [List.filter_eq_nil_iff]
      intro c _ hc
      simp [hid] at hc
    rw [if_pos hid, hnone, List.nil_append, List.filter_eq_self]
    intro c hc
    rw [incidentId_of_mem_candidatesFor hc, hid, decide_eq_true rfl]
  · have hnone : (candidatesFor newV5 toRfc3339 i).filter (fun c => decide (c.incidentId = id)) = [] := by
      rw [List.filter_eq_nil_iff]
      intro c hc
      rw [incidentId_of_mem_candidatesFor hc, decide_eq_true_iff]
      exact fun h => hid h.symm
    rw [if_neg hid, hnone, List.append_nil]
    -- whether a message is superseded depends on its incident
    have hsuperseded : ∀ c : Candidate, c.incidentId = id → written.superseded environment i c =
        t.incidents[id]?.any (fun row => row.environment = environment &&
          row.fingerprint = i.fingerprint && row.startedAt ≤ i.startedAt) := by
      intro c hc
      rw [superseded, hc, hrow hid]
      simp [hid]
    cases hany : t.incidents[id]?.any (fun row => row.environment = environment &&
        row.fingerprint = i.fingerprint && row.startedAt ≤ i.startedAt) with
    | true =>
      rw [if_pos rfl, List.filter_eq_nil_iff]
      intro c _ hc
      simp only [Bool.and_eq_true, decide_eq_true_iff, Bool.not_eq_true'] at hc
      rw [hsuperseded c hc.1.1, hany] at hc
      cases hc.2
    | false =>
      rw [if_neg Bool.false_ne_true, candidatesOf]
      refine List.filter_congr fun c _ => ?_
      by_cases hc : c.incidentId = id
      · rw [hsuperseded c hc, hany, hc]
        simp [hid]
      · simp [hc]

/-! ### Incidents -/

/-- The tables once incidents are saved. -/
def savedAll (environment : String) (newV5 : Uuid → String → Uuid) (toRfc3339 : Timestamp → String)
    (t : IncidentTables) (incidents : List Incident) : IncidentTables :=
  incidents.foldl (fun t i => t.saved environment i newV5 toRfc3339) t

theorem savedAll_concat (t : IncidentTables) (incidents : List Incident) (last : Incident) :
    t.savedAll environment newV5 toRfc3339 (incidents ++ [last]) =
      (t.savedAll environment newV5 toRfc3339 incidents).saved environment last newV5 toRfc3339 := by
  rw [savedAll, List.foldl_append]
  rfl

theorem saveIncidents_of_committed {incidents : List Incident}
    (h : (t.saveIncidents environment newV5 toRfc3339 fault incidents).2 = true) :
    (t.saveIncidents environment newV5 toRfc3339 fault incidents).1 =
      t.savedAll environment newV5 toRfc3339 incidents :=
  (transaction_of_committed h).trans (effects_flatMap _ incidents t)

/-- The row of an incident is that incident's: they agree on what a save does not write. -/
def Agrees (environment : String) (t : IncidentTables) (i : Incident) : Prop :=
  ∀ row : StoredIncident, t.incidents[i.id]? = some row →
    row.environment = environment ∧ row.fingerprint = i.fingerprint ∧ row.startedAt = i.startedAt

theorem Agrees.rowOf (h : Agrees environment t i) :
    (t.rowOf environment i).environment = environment ∧
      (t.rowOf environment i).fingerprint = i.fingerprint ∧
      (t.rowOf environment i).startedAt = i.startedAt := by
  unfold IncidentTables.rowOf
  cases hrow : t.incidents[i.id]? with
  | none => exact ⟨rfl, rfl, rfl⟩
  | some row => exact h row hrow

/-- The rows once incidents are saved: those of the incidents saved agree with them, and
the others are as they were. -/
theorem incidents_savedAll (incidents : List Incident) :
    ∀ t : IncidentTables, (incidents.map Incident.id).Nodup → (∀ i ∈ incidents, t.Agrees environment i) →
      (∀ i ∈ incidents, ∃ row, (t.savedAll environment newV5 toRfc3339 incidents).incidents[i.id]? = some row ∧
        row.environment = environment ∧ row.fingerprint = i.fingerprint ∧ row.startedAt = i.startedAt) ∧
      ∀ id, id ∉ incidents.map Incident.id →
        (t.savedAll environment newV5 toRfc3339 incidents).incidents[id]? = t.incidents[id]? := by
  induction incidents using List.reverseRecOn with
  | nil => intro t _ _; exact ⟨by simp, fun _ _ => rfl⟩
  | append_singleton incidents last ih =>
    intro t hnodup hagrees
    rw [List.map_append, List.nodup_append] at hnodup
    obtain ⟨hsaved, hothers⟩ := ih t hnodup.1 fun i hi => hagrees i (List.mem_append_left _ hi)
    have hnew : last.id ∉ incidents.map Incident.id := fun hmem =>
      hnodup.2.2 last.id hmem last.id (by simp) rfl
    have hlast : (t.savedAll environment newV5 toRfc3339 incidents).Agrees environment last := by
      intro row hrow
      rw [hothers last.id hnew] at hrow
      exact hagrees last (by simp) row hrow
    rw [savedAll_concat, incidents_saved]
    refine ⟨fun i hi => ?_, fun id hid => ?_⟩
    · rcases List.mem_append.mp hi with hi | hi
      · have hne : last.id ≠ i.id := fun heq => hnew (heq ▸ List.mem_map_of_mem hi)
        rw [Std.ExtTreeMap.getElem?_insert_eq, if_neg hne]
        exact hsaved i hi
      · rw [List.mem_singleton.mp hi, Std.ExtTreeMap.getElem?_insert_self]
        exact ⟨_, rfl, hlast.rowOf⟩
    · rw [List.map_append, List.mem_append, not_or] at hid
      rw [Std.ExtTreeMap.getElem?_insert_eq, if_neg, hothers id hid.1]
      exact fun heq => hid.2 (by simp [heq])

/-- The messages once incidents are saved. -/
theorem candidates_savedAll (incidents : List Incident) (hids : (incidents.map Incident.id).Nodup)
    (hfingerprints : (incidents.map Incident.fingerprint).Nodup)
    (hagrees : ∀ i ∈ incidents, t.Agrees environment i) :
    let after := t.savedAll environment newV5 toRfc3339 incidents
    (∀ i ∈ incidents, after.candidatesOf i.id = candidatesFor newV5 toRfc3339 i) ∧
    (∀ i ∈ incidents, ∀ id row, id ≠ i.id → after.incidents[id]? = some row →
      row.environment = environment → row.fingerprint = i.fingerprint → row.startedAt ≤ i.startedAt →
      after.candidatesOf id = []) ∧
    ∀ id, id ∉ incidents.map Incident.id →
      (∀ row, after.incidents[id]? = some row → ∀ i ∈ incidents, ¬ (row.environment = environment ∧
        row.fingerprint = i.fingerprint ∧ row.startedAt ≤ i.startedAt)) →
      after.candidatesOf id = t.candidatesOf id := by
  induction incidents using List.reverseRecOn with
  | nil => exact ⟨by simp, by simp, fun _ _ _ => rfl⟩
  | append_singleton incidents last ih =>
    obtain ⟨hrows, hothers⟩ := incidents_savedAll (incidents ++ [last]) t hids hagrees
    have hlastrow := hrows last (by simp)
    rw [List.map_append, List.nodup_append] at hids hfingerprints
    have hbefore : ∀ i ∈ incidents, t.Agrees environment i :=
      fun i hi => hagrees i (List.mem_append_left _ hi)
    obtain ⟨hown, hsuperseded, hkept⟩ := ih hids.1 hfingerprints.1 hbefore
    obtain ⟨hprevious, hunsaved⟩ := incidents_savedAll incidents t hids.1 hbefore
    have hne : ∀ i ∈ incidents, i.id ≠ last.id ∧ i.fingerprint ≠ last.fingerprint := fun i hi =>
      ⟨hids.2.2 i.id (List.mem_map_of_mem hi) last.id (by simp),
        hfingerprints.2.2 i.fingerprint (List.mem_map_of_mem hi) last.fingerprint (by simp)⟩
    set previous := t.savedAll environment newV5 toRfc3339 incidents with hprev
    have hrow : ∀ {id : Uuid}, id ≠ last.id →
        (previous.saved environment last newV5 toRfc3339).incidents[id]? = previous.incidents[id]? := by
      intro id hid
      rw [incidents_saved, Std.ExtTreeMap.getElem?_insert_eq, if_neg (Ne.symm hid)]
    simp only [savedAll_concat, ← hprev] at hlastrow hothers ⊢
    refine ⟨fun i hi => ?_, fun i hi id row hid hget henvironment hfingerprint hstarted => ?_,
      fun id hid hfree => ?_⟩
    · rcases List.mem_append.mp hi with hi | hi
      · -- the last one does not supersede an earlier one of the list
        obtain ⟨row, hget, -, hfingerprint, -⟩ := hprevious i hi
        rw [candidates_saved, if_neg (hne i hi).1, hget, Option.any_some, hfingerprint,
          decide_eq_false (hne i hi).2]
        simp [hown i hi]
      · rw [List.mem_singleton.mp hi, candidates_saved, if_pos rfl]
    · by_cases hlast : id = last.id
      · -- the last one has a fingerprint of its own
        subst hlast
        obtain ⟨row', hget', -, hfingerprint', -⟩ := hlastrow
        rw [hget, Option.some.injEq] at hget'
        rcases List.mem_append.mp hi with hi | hi
        · exact absurd (hfingerprint.symm.trans (hget' ▸ hfingerprint')) (hne i hi).2
        · exact absurd (congrArg Incident.id (List.mem_singleton.mp hi)).symm hid
      · rw [hrow hlast] at hget
        rw [candidates_saved, if_neg hlast]
        split
        · rfl
        · next hnot =>
          rcases List.mem_append.mp hi with hi | hi
          · exact hsuperseded i hi id row hid hget henvironment hfingerprint hstarted
          · rw [List.mem_singleton.mp hi] at hfingerprint hstarted
            refine absurd ?_ hnot
            rw [hget, Option.any_some, henvironment, hfingerprint]
            simpa using hstarted
    · rw [List.map_append, List.mem_append, not_or] at hid
      have hlast : id ≠ last.id := fun heq => hid.2 (by simp [heq])
      rw [hrow hlast] at hfree
      rw [candidates_saved, if_neg hlast, if_neg]
      · exact hkept id hid.1 fun row hget i hi => hfree row hget i (List.mem_append_left _ hi)
      · intro hany
        obtain ⟨row, hget, hall⟩ := (Option.any_eq_true _ _).mp hany
        simp only [Bool.and_eq_true, decide_eq_true_iff] at hall
        exact hfree row hget last (by simp) ⟨hall.1.1, hall.1.2, hall.2⟩

/-- **Saving incidents** of different fingerprints, each the incident of its row.  If it is
committed, the messages stored about each of them are those it calls for, there are none
about another incident of the same environment and fingerprint that did not begin later,
and those about all other incidents are as before.  If a statement fails, everything is. -/
theorem saveIncidents_spec (environment : String) (newV5 : Uuid → String → Uuid)
    (toRfc3339 : Timestamp → String) (fault : ℕ → Bool) (t : IncidentTables) (incidents : List Incident)
    (hids : (incidents.map Incident.id).Nodup) (hfingerprints : (incidents.map Incident.fingerprint).Nodup)
    (hagrees : ∀ i ∈ incidents, t.Agrees environment i) :
    let result := t.saveIncidents environment newV5 toRfc3339 fault incidents
    (result.2 = true →
      (∀ i ∈ incidents, result.1.candidatesOf i.id = candidatesFor newV5 toRfc3339 i) ∧
      (∀ i ∈ incidents, ∀ id row, id ≠ i.id → result.1.incidents[id]? = some row →
        row.environment = environment → row.fingerprint = i.fingerprint → row.startedAt ≤ i.startedAt →
        result.1.candidatesOf id = []) ∧
      ∀ id, id ∉ incidents.map Incident.id →
        (∀ row, result.1.incidents[id]? = some row → ∀ i ∈ incidents, ¬ (row.environment = environment ∧
          row.fingerprint = i.fingerprint ∧ row.startedAt ≤ i.startedAt)) →
        result.1.candidatesOf id = t.candidatesOf id) ∧
    (result.2 = false → result.1 = t) := by
  intro result
  refine ⟨fun hcommitted => ?_, transaction_of_failed⟩
  have hresult : result.1 = t.savedAll environment newV5 toRfc3339 incidents :=
    saveIncidents_of_committed hcommitted
  rw [hresult]
  exact candidates_savedAll incidents hids hfingerprints hagrees

/-- A fault returns while the message about its recovery has not been sent: the message is
superseded. -/
theorem saveIncidents_spec_returning :
    let newV5 : Uuid → String → Uuid := fun _ _ => ⟨0xfcfde96a074c59ebb974e0925f7d439b⟩
    let toRfc3339 : Timestamp → String := fun _ => "1970-01-01T00:00:00.000010Z"
    let earlier : StoredIncident := ⟨"lab", "cause:a", .resolved, .warning, 0, some 5⟩
    let t : IncidentTables := ⟨.ofList ["lab"], ∅, (∅ : Std.ExtTreeMap Uuid StoredIncident).insert ⟨1⟩ earlier,
      fun _ => ∅, fun _ => ∅, fun _ => ∅, fun _ => [], fun _ => [],
      [⟨"sent later", ⟨1⟩, ⟨"1", "cause:a", .resolved, .warning, 5, some "event"⟩⟩]⟩
    let i : Incident := { Incident.new 10 ⟨2⟩ "cause:a" .warning with
      timeline := [⟨10, "opened", "severity warning"⟩] }
    let result := t.saveIncidents "lab" newV5 toRfc3339 (fun _ => false) [i]
    result.2 = true ∧ result.1.candidatesOf ⟨1⟩ = [] ∧
      result.1.candidatesOf ⟨2⟩ = candidatesFor newV5 toRfc3339 i := by
  intro newV5 toRfc3339 earlier t i result
  have hagrees : ∀ j ∈ [i], t.Agrees "lab" j := by
    intro j hj row hrow
    rw [List.mem_singleton.mp hj] at hrow
    have hnone : t.incidents[i.id]? = none := by decide +kernel
    rw [hnone] at hrow
    cases hrow
  have hcommitted : result.2 = true := by decide +kernel
  obtain ⟨hspec, -⟩ := saveIncidents_spec "lab" newV5 toRfc3339 (fun _ => false) t [i] (by simp)
    (by simp) hagrees
  obtain ⟨hown, hsuperseded, -⟩ := hspec hcommitted
  refine ⟨hcommitted, ?_, hown i (by simp)⟩
  exact hsuperseded i (by simp) ⟨1⟩ earlier (by decide) (by decide +kernel) rfl rfl (by decide)

end IncidentTables

end Sentinel
