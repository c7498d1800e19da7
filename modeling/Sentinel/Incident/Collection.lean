import Sentinel.Incident.Growth

/-!
# What incidents collect

Diagnoses are added to an incident, merged into it, or replace the ones it holds; the
entities and the evidence they name are collected in all cases.  What an incident has
collected depends on the names in their order only, so a sequence of calls is one
extension of each list.

## Main definitions

* `IncidentCall`, `Incident.apply`, `Incident.collect` — calls, one after the other.
* `Incident.Collected` — nothing is collected twice, and no more evidence than there is room for.
* `Incident.Earlier` — an incident before some calls.

## Main results

* `Incident.evidence_collect`, `Incident.entities_collect` — what calls collect.
* `Incident.collect_spec` — **incidents collect in order, nothing twice, and lose nothing.**
-/

namespace Sentinel

/-- A call that folds diagnoses into an incident, and the clock if it is read. -/
inductive IncidentCall
  /-- Fold a diagnosis in, and record it on the timeline. -/
  | addDiagnosis (now : Timestamp) (d : Diagnosis)
  /-- Refresh the incident with the current diagnoses. -/
  | refresh (now : Timestamp) (ds : List Diagnosis)
  /-- Fold a diagnosis in without a timeline entry. -/
  | mergeDiagnosis (d : Diagnosis)

/-- The diagnoses of a call. -/
def IncidentCall.group : IncidentCall → List Diagnosis
  | addDiagnosis _ d => [d]
  | refresh _ ds => ds
  | mergeDiagnosis d => [d]

/-- The evidence that calls cite, in order. -/
def cited (calls : List IncidentCall) : List ObservationId :=
  (calls.flatMap IncidentCall.group).flatMap Diagnosis.evidence

namespace Incident

/-- What a call does. -/
def apply (i : Incident) : IncidentCall → Incident
  | .addDiagnosis now d => i.addDiagnosis now d
  | .refresh now ds => i.refresh now ds
  | .mergeDiagnosis d => i.mergeDiagnosis d

/-- What calls do, one after the other. -/
def collect (i : Incident) (calls : List IncidentCall) : Incident := calls.foldl apply i

/-- Nothing is collected twice, and no more evidence than there is room for. -/
structure Collected (i : Incident) : Prop where
  evidence : i.evidence.Nodup
  room : i.evidence.length ≤ maxEvidence
  affected : i.affectedEntities.Nodup
  roots : i.suspectedRootEntities.Nodup

/-- An incident before some calls: what it has collected stays in front of what comes. -/
structure Earlier (before after : Incident) : Prop where
  evidence : before.evidence <+: after.evidence
  affected : before.affectedEntities <+: after.affectedEntities
  roots : before.suspectedRootEntities <+: after.suspectedRootEntities

/-! ### Lists that are extended -/

section Lists

variable {held : List ObservationId} {o : ObservationId}

theorem retain_append (held more more' : List ObservationId) :
    retain held (more ++ more') = retain (retain held more) more' := List.foldl_append

theorem prefix_extend {α : Type*} [DecidableEq α] (more : List α) : ∀ held : List α, held <+: extend held more := by
  induction more with
  | nil => intro held; exact List.prefix_rfl
  | cons a more ih =>
    intro held
    show held <+: extend (if a ∈ held then held else held ++ [a]) more
    split
    · exact ih held
    · exact (List.prefix_append held [a]).trans (ih _)

theorem prefix_retain (more : List ObservationId) : ∀ held : List ObservationId, held <+: retain held more := by
  induction more with
  | nil => intro held; exact List.prefix_rfl
  | cons o more ih =>
    intro held
    show held <+: retain (if maxEvidence ≤ held.length ∨ o ∈ held then held else held ++ [o]) more
    split
    · exact ih held
    · exact (List.prefix_append held [o]).trans (ih _)

/-- There is never more evidence than there is room for. -/
theorem length_retain_le (more : List ObservationId) :
    ∀ {held : List ObservationId}, held.length ≤ maxEvidence → (retain held more).length ≤ maxEvidence := by
  induction more with
  | nil => intro held h; exact h
  | cons o more ih =>
    intro held h
    show (retain (if maxEvidence ≤ held.length ∨ o ∈ held then held else held ++ [o]) more).length ≤ maxEvidence
    apply ih
    split
    · exact h
    · next hnew =>
      rw [not_or, not_le] at hnew
      rw [List.length_append, List.length_singleton]
      exact hnew.1

/-- What is cited while there is room is retained. -/
theorem mem_retain_of_room {before rest : List ObservationId} (h : (retain held before).length < maxEvidence) :
    o ∈ retain held (before ++ o :: rest) := by
  rw [retain_append]
  refine (prefix_retain rest _).subset ?_
  dsimp only
  split
  · next hheld => exact hheld.resolve_left (not_le.mpr h)
  · exact List.mem_append_right _ (List.mem_singleton_self o)

end Lists

/-! ### What calls collect -/

section Collect

variable (i : Incident)

/-- Diagnoses that are merged are collected together. -/
theorem merge_eq (ds : List Diagnosis) : ∀ i : Incident,
    (ds.foldl mergeDiagnosis i).evidence = retain i.evidence (ds.flatMap Diagnosis.evidence) ∧
      (ds.foldl mergeDiagnosis i).affectedEntities =
        extend i.affectedEntities (ds.flatMap Diagnosis.affectedEntities) ∧
      (ds.foldl mergeDiagnosis i).suspectedRootEntities =
        extend i.suspectedRootEntities (ds.flatMap Diagnosis.suspectedRootEntities) ∧
      (ds.foldl mergeDiagnosis i).diagnoses = i.diagnoses ++ ds := by
  induction ds with
  | nil => intro i; exact ⟨rfl, rfl, rfl, (List.append_nil _).symm⟩
  | cons d ds ih =>
    intro i
    obtain ⟨hevidence, haffected, hroots, hdiagnoses⟩ := ih (i.mergeDiagnosis d)
    rw [List.foldl_cons, hevidence, haffected, hroots, hdiagnoses, List.flatMap_cons, List.flatMap_cons,
      List.flatMap_cons, retain_append, extend_append, extend_append]
    exact ⟨rfl, rfl, rfl, by rw [mergeDiagnosis, List.append_assoc, List.singleton_append]⟩

/-- After a refresh an incident holds the current diagnoses. -/
theorem diagnoses_refresh (now : Timestamp) (ds : List Diagnosis) : (i.refresh now ds).diagnoses = ds :=
  (merge_eq ds _).2.2.2

/-- What one call collects. -/
theorem apply_eq (call : IncidentCall) :
    (i.apply call).evidence = retain i.evidence (call.group.flatMap Diagnosis.evidence) ∧
      (i.apply call).affectedEntities =
        extend i.affectedEntities (call.group.flatMap Diagnosis.affectedEntities) ∧
      (i.apply call).suspectedRootEntities =
        extend i.suspectedRootEntities (call.group.flatMap Diagnosis.suspectedRootEntities) := by
  cases call with
  | addDiagnosis now d => exact ⟨(merge_eq [d] _).1, (merge_eq [d] _).2.1, (merge_eq [d] _).2.2.1⟩
  | mergeDiagnosis d => exact ⟨(merge_eq [d] i).1, (merge_eq [d] i).2.1, (merge_eq [d] i).2.2.1⟩
  | refresh now ds =>
    obtain ⟨hevidence, haffected, hroots, -⟩ := merge_eq ds
      { (if typeNames i.diagnoses ≠ typeNames ds then
          i.record now "diagnosis_changed" (joined (typeNames i.diagnoses) ++ " -> " ++ joined (typeNames ds))
        else i) with diagnoses := [] }
    refine ⟨hevidence.trans ?_, haffected.trans ?_, hroots.trans ?_⟩
    all_goals
      dsimp only
      split <;> rfl

/-- What calls cite is what they collect. -/
theorem evidence_collect (calls : List IncidentCall) :
    ∀ i : Incident, (i.collect calls).evidence = retain i.evidence (cited calls) := by
  induction calls with
  | nil => intro i; rfl
  | cons call calls ih =>
    intro i
    rw [cited, List.flatMap_cons, List.flatMap_append, retain_append, ← (i.apply_eq call).1]
    exact ih (i.apply call)

/-- The entities that calls name are what they collect. -/
theorem entities_collect (calls : List IncidentCall) : ∀ i : Incident,
    (i.collect calls).affectedEntities =
        extend i.affectedEntities ((calls.flatMap IncidentCall.group).flatMap Diagnosis.affectedEntities) ∧
      (i.collect calls).suspectedRootEntities =
        extend i.suspectedRootEntities ((calls.flatMap IncidentCall.group).flatMap Diagnosis.suspectedRootEntities) := by
  induction calls with
  | nil => intro i; exact ⟨rfl, rfl⟩
  | cons call calls ih =>
    intro i
    rw [List.flatMap_cons, List.flatMap_append, List.flatMap_append, extend_append, extend_append,
      ← (i.apply_eq call).2.1, ← (i.apply_eq call).2.2]
    exact ih (i.apply call)

theorem collect_append (calls calls' : List IncidentCall) :
    i.collect (calls ++ calls') = (i.collect calls).collect calls' := List.foldl_append

/-- An incident that is opened has collected nothing. -/
theorem collected_new (now : Timestamp) (id : Uuid) (f : String) (severity : Severity) :
    (Incident.new now id f severity).Collected :=
  ⟨List.nodup_nil, Nat.zero_le _, List.nodup_nil, List.nodup_nil⟩

variable {i}

/-- **Nothing is collected twice, and no more evidence than there is room for.** -/
theorem Collected.collect (h : i.Collected) (calls : List IncidentCall) : (i.collect calls).Collected := by
  obtain ⟨haffected, hroots⟩ := entities_collect calls i
  refine ⟨?_, ?_, ?_, ?_⟩
  · rw [evidence_collect]
    exact (nodup_retain _ h.evidence).1
  · rw [evidence_collect]
    exact length_retain_le _ h.room
  · rw [haffected]
    exact nodup_extend _ h.affected
  · rw [hroots]
    exact nodup_extend _ h.roots

/-- **Calls take nothing away.** -/
theorem earlier_collect (i : Incident) (calls : List IncidentCall) : i.Earlier (i.collect calls) := by
  obtain ⟨haffected, hroots⟩ := entities_collect calls i
  refine ⟨?_, ?_, ?_⟩
  · rw [evidence_collect]
    exact prefix_retain _ _
  · rw [haffected]
    exact prefix_extend _ _
  · rw [hroots]
    exact prefix_extend _ _

/-- **Incidents collect in order, nothing twice, and lose nothing**: from its opening on, and
from any time on at which nothing was held twice, an incident holds nothing twice and no more
evidence than there is room for; what was collected after some calls stays in front; what is
cited while there is room is retained; and a refresh leaves the current diagnoses. -/
theorem collect_spec (i : Incident) (calls : List IncidentCall) :
    (∀ now id f severity, ((Incident.new now id f severity).collect calls).Collected) ∧
      (i.Collected → (i.collect calls).Collected) ∧
      (∀ earlier later, earlier <+: later → later <+: calls → (i.collect earlier).Earlier (i.collect later)) ∧
      (∀ before o rest, cited calls = before ++ o :: rest →
        (retain i.evidence before).length < maxEvidence → o ∈ (i.collect calls).evidence) ∧
      (∀ now ds, ((i.collect calls).refresh now ds).diagnoses = ds) := by
  refine ⟨fun now id f severity => (collected_new now id f severity).collect calls, fun h => h.collect calls, ?_, ?_,
    fun now ds => diagnoses_refresh _ now ds⟩
  · rintro earlier later ⟨between, rfl⟩ -
    rw [collect_append]
    exact earlier_collect _ between
  · intro before o rest hcited hroom
    rw [evidence_collect, hcited]
    exact mem_retain_of_room hroom

end Collect

end Incident

end Sentinel
