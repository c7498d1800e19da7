import Sentinel.Incident.Growth
import Sentinel.Incident.Resume
import Sentinel.Persistence.Reset

/-!
# Reading incidents back

A controller that starts reads the incidents it goes on with from the tables: the row of
each, and what the other tables hold under its identifier.  Entities and evidence come
back in the order of the tables, a timeline in the order of time.  An event that occurred
twice at the same instant, with the same detail, comes back once.

## Main definitions

* `IncidentTables.hydrateIncident` — the incident that a row is of.
* `IncidentTables.Records` — the tables hold an incident as it is.
* `IncidentTables.Precedes` — they hold none under its identifier, or what it was.

## Main results

* `IncidentTables.records_savedAll` — incidents that are saved are held as they are.
* `IncidentTables.Records.alike` — **what is read back is alike what was saved.**
-/

namespace Sentinel

/-- The diagnosis that is read from a row. -/
def StoredDiagnosis.load (row : StoredDiagnosis) : Diagnosis where
  diagnosisType := row.diagnosisType
  affectedEntities := row.affected.toList
  suspectedRootEntities := row.roots.toList
  confidence := row.confidence
  evidence := row.evidence.toList
  ruleId := row.ruleId
  summary := row.summary
  recommendedActions := row.recommendedActions

namespace IncidentTables

/-- The incident that a row is of. -/
def hydrateIncident (t : IncidentTables) (id : Uuid) (row : StoredIncident) : Incident where
  id := id
  fingerprint := row.fingerprint
  status := row.status
  severity := row.severity
  startedAt := row.startedAt
  endedAt := row.endedAt
  affectedEntities := (t.affected id).toList
  suspectedRootEntities := (t.roots id).toList
  diagnoses := (t.diagnoses id).map StoredDiagnosis.load
  evidence := (t.evidence id).toList
  timeline := (t.timeline id).mergeSort fun a b => a.at_ ≤ b.at_

variable {environment : String} {newV5 : Uuid → String → Uuid} {toRfc3339 : Timestamp → String}
  {t t' : IncidentTables} {i j : Incident} {clock : Timestamp}

/-! ### What a save leaves in the tables -/

/-- What the tables hold once an incident is saved, beside its row and its messages. -/
theorem saved_parts (environment : String) (newV5 : Uuid → String → Uuid) (toRfc3339 : Timestamp → String)
    (i : Incident) (t : IncidentTables) :
    let after := t.saved environment i newV5 toRfc3339
    after.affected = Function.update t.affected i.id (i.affectedEntities.foldl .insert ∅) ∧
    after.roots = Function.update t.roots i.id (i.suspectedRootEntities.foldl .insert ∅) ∧
    after.evidence = Function.update t.evidence i.id (i.evidence.foldl .insert (t.evidence i.id)) ∧
    after.diagnoses = Function.update t.diagnoses i.id (i.diagnoses.map Diagnosis.stored) ∧
    after.timeline = Function.update t.timeline i.id (Incident.extend (t.timeline i.id) i.timeline) := by
  have haffected := effects_map_part (f := insertAffected i) (fun t => t.affected i.id)
    (fun t entities => { t with affected := Function.update t.affected i.id entities })
    .insert (fun _ _ => rfl) (by simp) (by simp) (by simp) i.affectedEntities
  have hroots := effects_map_part (f := insertRoot i) (fun t => t.roots i.id)
    (fun t entities => { t with roots := Function.update t.roots i.id entities })
    .insert (fun _ _ => rfl) (by simp) (by simp) (by simp) i.suspectedRootEntities
  have hevidence := effects_map_part (f := insertEvidence i) (fun t => t.evidence i.id)
    (fun t evidence => { t with evidence := Function.update t.evidence i.id evidence })
    .insert (fun _ _ => rfl) (by simp) (by simp) (by simp) i.evidence
  have hdiagnoses := effects_map_part (f := insertDiagnosis i) (fun t => t.diagnoses i.id)
    (fun t rows => { t with diagnoses := Function.update t.diagnoses i.id rows })
    (fun rows d => rows ++ [d.stored]) (fun _ _ => rfl) (by simp) (by simp) (by simp) i.diagnoses
  have htimeline := effects_map_part (f := insertEvent i) (fun t => t.timeline i.id)
    (fun t events => { t with timeline := Function.update t.timeline i.id events })
    (fun events event => if event ∈ events then events else events ++ [event]) (fun _ _ => rfl) (by simp)
    (by simp) (by simp) i.timeline
  have hstored : i.diagnoses.foldl (fun rows d => rows ++ [d.stored]) [] = i.diagnoses.map Diagnosis.stored := by
    rw [List.foldl_append_eq_append, List.nil_append, ← List.flatMap_def, ← List.map_eq_flatMap]
  simp only [saved, saveStatements, effects_append, effects_cons, effects_nil, effects_insertCandidates,
    haffected, hroots, hevidence, hdiagnoses, htimeline, upsertIncident, clearEntities, clearDiagnoses, supersede,
    clearCandidates, Function.update_self, Function.update_idem, hstored]
  refine ⟨trivial, trivial, trivial, trivial, rfl⟩

/-- Nothing is held under an identifier that has no row. -/
def Bare (t : IncidentTables) : Prop :=
  ∀ id : Uuid, t.incidents[id]? = none → t.evidence id = ∅ ∧ t.timeline id = []

/-- The tables hold an incident as it is, its timeline without what occurred twice. -/
structure Records (environment : String) (t : IncidentTables) (i : Incident) : Prop where
  row : t.incidents[i.id]? =
    some ⟨environment, i.fingerprint, i.status, i.severity, i.startedAt, i.endedAt⟩
  affected : ∀ e, e ∈ t.affected i.id ↔ e ∈ i.affectedEntities
  roots : ∀ e, e ∈ t.roots i.id ↔ e ∈ i.suspectedRootEntities
  evidence : ∀ o, o ∈ t.evidence i.id ↔ o ∈ i.evidence
  types : (t.diagnoses i.id).map StoredDiagnosis.diagnosisType = i.diagnoses.map Diagnosis.diagnosisType
  timeline : t.timeline i.id = Incident.extend [] i.timeline

/-- What the tables hold under the identifier of an incident: nothing, or what it was. -/
def Precedes (environment : String) (t : IncidentTables) (i : Incident) : Prop :=
  t.incidents[i.id]? = none ∨
    ∃ before : Incident, t.Records environment before ∧ before.Continues i ∧ before.evidence ⊆ i.evidence

/-- Two sets of tables hold the same under an identifier. -/
structure SameAt (id : Uuid) (t t' : IncidentTables) : Prop where
  row : t'.incidents[id]? = t.incidents[id]?
  affected : t'.affected id = t.affected id
  roots : t'.roots id = t.roots id
  evidence : t'.evidence id = t.evidence id
  diagnoses : t'.diagnoses id = t.diagnoses id
  timeline : t'.timeline id = t.timeline id

theorem SameAt.refl (id : Uuid) (t : IncidentTables) : SameAt id t t := ⟨rfl, rfl, rfl, rfl, rfl, rfl⟩

theorem SameAt.trans {id : Uuid} {t'' : IncidentTables} (h : SameAt id t t') (h' : SameAt id t' t'') :
    SameAt id t t'' :=
  ⟨h'.row.trans h.row, h'.affected.trans h.affected, h'.roots.trans h.roots, h'.evidence.trans h.evidence,
    h'.diagnoses.trans h.diagnoses, h'.timeline.trans h.timeline⟩

theorem Records.of_sameAt (h : t.Records environment i) (hsame : SameAt i.id t t') :
    t'.Records environment i := by
  refine ⟨hsame.row.trans h.row, ?_, ?_, ?_, ?_, hsame.timeline.trans h.timeline⟩
  · rw [hsame.affected]; exact h.affected
  · rw [hsame.roots]; exact h.roots
  · rw [hsame.evidence]; exact h.evidence
  · rw [hsame.diagnoses]; exact h.types

theorem Precedes.of_sameAt (h : t.Precedes environment i) (hsame : SameAt i.id t t') :
    t'.Precedes environment i := by
  rcases h with hnone | ⟨before, hrecords, hcontinues, hevidence⟩
  · exact Or.inl (hsame.row.trans hnone)
  · rw [hcontinues.id] at hsame
    exact Or.inr ⟨before, hrecords.of_sameAt hsame, hcontinues, hevidence⟩

/-- A save writes under the identifier of the incident only. -/
theorem sameAt_saved {id : Uuid} (hid : id ≠ i.id) (environment : String) (t : IncidentTables) :
    SameAt id t (t.saved environment i newV5 toRfc3339) := by
  obtain ⟨haffected, hroots, hevidence, hdiagnoses, htimeline⟩ := saved_parts environment newV5 toRfc3339 i t
  refine ⟨?_, ?_, ?_, ?_, ?_, ?_⟩
  · rw [incidents_saved, Std.ExtTreeMap.getElem?_insert_eq, if_neg hid.symm]
  · rw [haffected, Function.update_of_ne hid]
  · rw [hroots, Function.update_of_ne hid]
  · rw [hevidence, Function.update_of_ne hid]
  · rw [hdiagnoses, Function.update_of_ne hid]
  · rw [htimeline, Function.update_of_ne hid]

/-- **An incident that is saved is held as it is.** -/
theorem records_saved (hbare : t.Bare) (h : t.Precedes environment i) :
    (t.saved environment i newV5 toRfc3339).Records environment i := by
  obtain ⟨haffected, hroots, hevidence, hdiagnoses, htimeline⟩ := saved_parts environment newV5 toRfc3339 i t
  -- what was held before is part of it
  have hbefore : t.rowOf environment i =
        ⟨environment, i.fingerprint, i.status, i.severity, i.startedAt, i.endedAt⟩ ∧
      (∀ o ∈ t.evidence i.id, o ∈ i.evidence) ∧
      Incident.extend (t.timeline i.id) i.timeline = Incident.extend [] i.timeline := by
    rcases h with hnone | ⟨before, hrecords, hcontinues, hsub⟩
    · obtain ⟨hnoEvidence, hnoTimeline⟩ := hbare i.id hnone
      rw [rowOf, hnone, hnoEvidence, hnoTimeline]
      exact ⟨rfl, fun o ho => absurd ho Std.ExtTreeSet.not_mem_empty, rfl⟩
    · obtain ⟨more, hmore⟩ := hcontinues.timeline
      rw [rowOf, hcontinues.id, hrecords.row, hrecords.timeline, hcontinues.fingerprint, hcontinues.startedAt]
      refine ⟨rfl, fun o ho => hsub ((hrecords.evidence o).mp ho), ?_⟩
      rw [← hmore, Incident.extend_append, Incident.extend_append [], Incident.extend_of_subset before.timeline]
      intro event hevent
      exact (Incident.mem_extend before.timeline).mpr (Or.inr hevent)
  obtain ⟨hrow, hkept, hevents⟩ := hbefore
  refine ⟨?_, fun e => ?_, fun e => ?_, fun o => ?_, ?_, ?_⟩
  · rw [incidents_saved, Std.ExtTreeMap.getElem?_insert_self, hrow]
  · rw [haffected, Function.update_self, Std.ExtTreeSet.mem_foldl_insert]
    simp
  · rw [hroots, Function.update_self, Std.ExtTreeSet.mem_foldl_insert]
    simp
  · rw [hevidence, Function.update_self, Std.ExtTreeSet.mem_foldl_insert]
    exact ⟨fun h => h.elim (hkept o) id, Or.inr⟩
  · rw [hdiagnoses, Function.update_self, List.map_map]
    rfl
  · rw [htimeline, Function.update_self, hevents]

theorem bare_saved (hbare : t.Bare) : (t.saved environment i newV5 toRfc3339).Bare := by
  intro id hnone
  by_cases hid : id = i.id
  · rw [hid, incidents_saved, Std.ExtTreeMap.getElem?_insert_self] at hnone
    cases hnone
  · have hsame : SameAt id t (t.saved environment i newV5 toRfc3339) := sameAt_saved hid environment t
    rw [hsame.evidence, hsame.timeline]
    exact hbare id (hsame.row ▸ hnone)

/-- **Incidents that are saved** are held as they are, and the others as they were. -/
theorem records_savedAll (incidents : List Incident) :
    ∀ {t : IncidentTables}, (incidents.map Incident.id).Nodup → t.Bare →
      (∀ i ∈ incidents, t.Precedes environment i) →
      let after := t.savedAll environment newV5 toRfc3339 incidents
      after.Bare ∧ (∀ i ∈ incidents, after.Records environment i) ∧
        ∀ id, id ∉ incidents.map Incident.id → SameAt id t after := by
  induction incidents with
  | nil =>
    intro t _ hbare _
    exact ⟨hbare, List.forall_mem_nil _, fun id _ => SameAt.refl id t⟩
  | cons first rest ih =>
    intro t hids hbare hprecedes
    rw [List.map_cons, List.nodup_cons] at hids
    rw [List.forall_mem_cons] at hprecedes
    have hothers : ∀ i ∈ rest, i.id ≠ first.id := fun i hi heq => hids.1 (heq ▸ List.mem_map_of_mem hi)
    obtain ⟨hbare', hsaved, hsame⟩ := ih hids.2 (bare_saved hbare) fun i hi =>
      (hprecedes.2 i hi).of_sameAt (sameAt_saved (hothers i hi) environment t)
    refine ⟨hbare', List.forall_mem_cons.mpr ⟨?_, hsaved⟩, fun id hid => ?_⟩
    · exact (records_saved hbare hprecedes.1).of_sameAt (hsame first.id hids.1)
    · rw [List.map_cons, List.mem_cons, not_or] at hid
      exact (sameAt_saved hid.1 environment t).trans (hsame id hid.2)

/-! ### What is read back -/

theorem perm_toList {α : Type*} [Ord α] [Std.TransOrd α] [Std.LawfulEqOrd α] {s : Std.ExtTreeSet α}
    {l : List α} (hl : l.Nodup) (h : ∀ a, a ∈ s ↔ a ∈ l) : s.toList.Perm l :=
  (List.perm_ext_iff_of_nodup s.nodup_toList hl).mpr fun a => Std.ExtTreeSet.mem_toList.trans (h a)

/-- A timeline that is stored in the order of time is read back as it is. -/
theorem hydrateIncident_of_sorted {id : Uuid} (row : StoredIncident)
    (h : (t.timeline id).Pairwise fun event event' => event.at_ ≤ event'.at_) :
    t.hydrateIncident id row = { t.hydrateIncident id row with timeline := t.timeline id } := by
  rw [hydrateIncident, List.mergeSort_of_pairwise (h.imp decide_eq_true)]

/-- The timeline of a tidy incident is read back as it was stored. -/
theorem Records.timeline_hydrate (h : t.Records environment i) (htidy : i.Tidy clock) (row : StoredIncident) :
    (t.hydrateIncident i.id row).timeline = Incident.extend [] i.timeline := by
  have hsorted : (t.timeline i.id).Pairwise fun event event' => event.at_ ≤ event'.at_ := by
    rw [h.timeline]
    exact htidy.timeline.sublist (Incident.extend_sublist i.timeline [])
  rw [hydrateIncident_of_sorted row hsorted, h.timeline]

/-- **What is read back is alike what was saved**; it has its identifier, and announces the
same if no event that is announced occurred twice. -/
theorem Records.alike (h : t.Records environment i) (htidy : i.Tidy clock) :
    Incident.Alike (i.timeline.filter announced).Nodup i (t.hydrateIncident i.id
      ⟨environment, i.fingerprint, i.status, i.severity, i.startedAt, i.endedAt⟩) := by
  refine ⟨rfl, rfl, rfl, rfl, rfl, perm_toList htidy.affected h.affected, perm_toList htidy.roots h.roots,
    perm_toList htidy.evidence h.evidence, ?_, fun _ => rfl, fun honce => ?_⟩
  · have hnames := congrArg (List.map DiagnosisType.name) h.types
    rw [List.map_map, List.map_map] at hnames
    rw [Incident.typeNames, Incident.typeNames, hydrateIncident, List.map_map]
    exact congrArg List.sortDedup hnames
  · rw [h.timeline_hydrate htidy, Incident.filter_extend]
    · rfl
    · exact honce

/-- What is read back is tidy, and held as it is. -/
theorem Records.hydrate (h : t.Records environment i) (htidy : i.Tidy clock) :
    let read := t.hydrateIncident i.id
      ⟨environment, i.fingerprint, i.status, i.severity, i.startedAt, i.endedAt⟩
    read.Tidy clock ∧ t.Records environment read := by
  intro read
  have htimeline : read.timeline = Incident.extend [] i.timeline := h.timeline_hydrate htidy _
  have hnodup : read.timeline.Nodup := htimeline ▸ Incident.nodup_extend _ List.nodup_nil
  constructor
  · refine ⟨Std.ExtTreeSet.nodup_toList _, Std.ExtTreeSet.nodup_toList _, Std.ExtTreeSet.nodup_toList _, ?_, ?_,
      htidy.started, htidy.ended⟩
    · rw [htimeline]
      exact htidy.timeline.sublist (Incident.extend_sublist i.timeline [])
    · intro event hevent
      rw [htimeline, Incident.mem_extend] at hevent
      exact htidy.past event (hevent.resolve_left List.not_mem_nil)
  · refine ⟨h.row, fun e => Std.ExtTreeSet.mem_toList.symm, fun e => Std.ExtTreeSet.mem_toList.symm,
      fun o => Std.ExtTreeSet.mem_toList.symm, ?_, ?_⟩
    · show _ = ((t.diagnoses i.id).map StoredDiagnosis.load).map Diagnosis.diagnosisType
      rw [List.map_map]
      rfl
    · rw [Incident.extend_nil_of_nodup hnodup, htimeline]
      exact h.timeline

end IncidentTables

/-- The incidents a controller that starts goes on with, as they are read back; the
source's `load_resumable_incidents`. -/
def MonitoringTables.resumableIncidents (t : MonitoringTables) (environment : String) (now : Timestamp) :
    List Incident :=
  (t.loadResumableIncidents environment now).map fun entry => t.incidents.hydrateIncident entry.1 entry.2

/-- What is gone on with: what is active, and what ended within the window in which it may
reopen. -/
theorem MonitoringTables.mem_resumableIncidents {t : MonitoringTables} {environment : String} {now : Timestamp}
    {i : Incident} : i ∈ t.resumableIncidents environment now ↔
      ∃ row, t.incidents.incidents[i.id]? = some row ∧ t.incidents.hydrateIncident i.id row = i ∧
        row.environment = environment ∧ (∀ resetAt ∈ t.resets[environment]?, resetAt ≤ row.startedAt) ∧
        (row.status.isActive = true ∨ row.status = .resolved ∧
          ∃ endedAt, row.endedAt = some endedAt ∧ now - Incident.reopenWindow ≤ endedAt) := by
  simp only [resumableIncidents, List.mem_map, loadResumableIncidents, byBeginning, List.mem_mergeSort,
    List.mem_filter, Bool.and_eq_true, Bool.or_eq_true, decide_eq_true_iff, Option.all_eq_true,
    Option.any_eq_true, and_assoc]
  constructor
  · rintro ⟨⟨id, row⟩, hrow, henvironment, hreset, hstatus, rfl⟩
    exact ⟨row, Std.ExtTreeMap.mem_toList_iff_getElem?_eq_some.mp hrow, rfl, henvironment, hreset, hstatus⟩
  · rintro ⟨row, hrow, hread, henvironment, hreset, hstatus⟩
    exact ⟨(i.id, row), Std.ExtTreeMap.mem_toList_iff_getElem?_eq_some.mpr hrow, henvironment, hreset, hstatus,
      hread⟩

/-- No incident is read back twice. -/
theorem MonitoringTables.nodup_resumableIncidents (t : MonitoringTables) (environment : String) (now : Timestamp) :
    ((t.resumableIncidents environment now).map Incident.id).Nodup := by
  have hids : (t.resumableIncidents environment now).map Incident.id =
      (t.loadResumableIncidents environment now).map Prod.fst := by
    rw [resumableIncidents, List.map_map]
    rfl
  rw [hids, loadResumableIncidents, byBeginning]
  refine ((List.mergeSort_perm _ _).map Prod.fst).nodup_iff.mpr ?_
  exact (Std.ExtTreeMap.nodup_keys_toList _).sublist (List.filter_sublist.map _)

end Sentinel
