import Sentinel.Controller.Mounts
import Sentinel.Persistence.Retention

/-!
# Retention and the newest observation of each stream

Diagnosis and the NFS topology read the newest observation of every stream of an entity.
Retention keeps the newest observations of the entity, whatever their streams: where fast
streams have produced enough of them, the newest observation of a slow stream is not among
them, and a pass deletes it once it is older than the cutoff and nothing kept cites it.

## Main definitions

* `Database.latestObservations` — the newest observation of each stream.
* `Database.lapses` — whether a pass deletes an observation, told from the database before.

## Main results

* `outdated_iff` — a record is outdated if enough records of its entity are newer.
* `Database.observations_pruneAt` — what a pass leaves of the observations.
* `Database.latest_unchanged_iff` — when a pass leaves the newest observations alone.
-/

namespace Sentinel

/-! ### Records with many newer ones -/

section Keep

variable {α κ : Type*} [LinearOrder κ] {entity : α → EntityId} {time : α → Timestamp} {keep : ℕ}
  {rows : List α} {row : α}

/-- Where enough records of its entity are newer than a record, so are the newest. -/
theorem lt_of_mem_newest (id : α → κ) (hmany : keep ≤ newerThan entity time rows row) {other : α}
    (hother : other ∈ newest entity time id keep rows (entity row)) : time row < time other := by
  by_contra hle
  rw [not_lt] at hle
  set key : α → _ := fun row => toLex (OrderDual.toDual (time row), OrderDual.toDual (id row)) with hkey
  set sorted := (rows.filter fun r => entity r = entity row).sortBy key with hsorted
  obtain ⟨p, hp, hget⟩ := List.mem_iff_getElem.mp hother
  rw [newest, ← hkey, ← hsorted, List.length_take] at hp
  have hlt : p < sorted.length := by omega
  have hat : sorted[p] = other := by
    rw [← hget]
    simp only [newest, List.getElem_take]
    rfl
  -- the sort puts the records that are newer before this place
  have hrest : (sorted.drop p).countP (fun r => time row < time r) = 0 := by
    rw [List.countP_eq_zero, List.drop_eq_getElem_cons hlt]
    have hpairwise : (sorted.drop p).Pairwise fun a b => key a ≤ key b :=
      (List.pairwise_sortBy key _).drop
    rw [List.drop_eq_getElem_cons hlt, List.pairwise_cons] at hpairwise
    intro r hr
    rw [decide_eq_true_iff, not_lt]
    rcases List.mem_cons.mp hr with rfl | hr
    · rwa [hat]
    · have hr := hpairwise.1 r hr
      rw [hat] at hr
      rcases Prod.Lex.le_iff.mp hr with hlt | ⟨heq, -⟩
      · exact (OrderDual.toDual_lt_toDual.mp hlt).le.trans hle
      · exact (OrderDual.toDual_inj.mp heq).ge.trans hle
  have hcount : newerThan entity time rows row = sorted.countP fun r => time row < time r := by
    rw [hsorted, (List.perm_sortBy _ _).countP_eq, List.countP_filter, newerThan]
    simp only [Bool.and_comm]
  have hfront : (sorted.take p).countP (fun r => time row < time r) ≤ p :=
    List.countP_le_length.trans (List.length_take_le p sorted)
  rw [hcount, ← List.take_append_drop p sorted, List.countP_append, hrest] at hmany
  omega

/-- **A record is outdated** exactly if it is before the cutoff and enough records of its
entity are newer. -/
theorem outdated_iff (id : α → κ) (hrow : row ∈ rows) {cutoff : Timestamp} :
    outdated entity time id cutoff keep rows row = true ↔
      time row < cutoff ∧ keep ≤ newerThan entity time rows row := by
  constructor
  · intro houtdated
    refine ⟨?_, Nat.le_of_not_lt fun hfew => ?_⟩
    · rw [outdated, Bool.and_eq_true] at houtdated
      exact of_decide_eq_true houtdated.1
    · rw [not_outdated id hrow hfew cutoff] at houtdated
      cases houtdated
  · rintro ⟨hcutoff, hmany⟩
    rw [outdated, Bool.and_eq_true, decide_eq_true_iff, decide_eq_true_iff]
    refine ⟨hcutoff, ?_⟩
    cases hfrom : keepFrom entity time id keep rows (entity row) with
    | none => exact hcutoff
    | some t =>
      obtain ⟨other, hother, rfl⟩ := List.mem_map.mp (List.min?_eq_some_iff.mp hfrom).1
      exact lt_of_mem_newest id hmany hother

end Keep

namespace Database

/-! ### What a pass deletes -/

section Lapses

variable (db : Database) (config : RetentionConfig) (now : Timestamp)

/-- Whether a pass deletes an incident. -/
def closes (row : IncidentRow) : Bool :=
  (config.resolvedIncidents.cutoff now).any fun cutoff => ended cutoff row

/-- Whether a pass deletes a diagnosis: none of the incidents it keeps has it. -/
def discards (row : DiagnosisRow) : Bool :=
  (config.diagnoses.cutoff now).any fun cutoff =>
    row.createdAt < cutoff && row.incidentId.all fun incident =>
      incident ∉ (db.incidents.filter fun i => !closes config now i).map IncidentRow.id

/-- Whether an observation is cited by something a pass keeps. -/
def citedByKept (o : ObservationId) : Bool :=
  (db.diagnosisEvidence.any fun row => row.observation = o &&
    row.owner ∉ (db.diagnoses.filter (discards db config now)).map DiagnosisRow.id) ||
  db.incidentEvidence.any fun row => row.observation = o &&
    row.owner ∉ (db.incidents.filter (closes config now)).map IncidentRow.id

/-- Whether a pass deletes an observation: it is before the cutoff, enough observations of
its entity are newer, and nothing that is kept cites it. -/
def lapses (mode : PruneMode) (row : ObservationRow) : Bool :=
  config.enabled && mode = .delete &&
    (config.observations.cutoff now).any (fun cutoff => finishedAt row < cutoff) &&
    config.keep ≤ newerThan target finishedAt db.observations row &&
    !db.citedByKept config now row.observation.id

variable {db config now}

theorem pruneIncidents_eq : (db.pruneIncidents config.resolvedIncidents now).1 =
    db.deleteIncidents (closes config now) := by
  rw [pruneIncidents]
  cases hcutoff : config.resolvedIncidents.cutoff now with
  | none =>
    have hcloses : closes config now = fun _ => false := by
      funext row
      rw [closes, hcutoff, Option.any_none]
    simp [deleteIncidents, hcloses]
  | some cutoff =>
    have hcloses : closes config now = ended cutoff := by
      funext row
      rw [closes, hcutoff, Option.any_some]
    rw [hcloses]

theorem pruneDiagnoses_eq :
    ((db.deleteIncidents (closes config now)).pruneDiagnoses config.diagnoses now).1 =
      (db.deleteIncidents (closes config now)).deleteDiagnoses (db.discards config now) := by
  rw [pruneDiagnoses]
  cases hcutoff : config.diagnoses.cutoff now with
  | none =>
    have hdiscards : db.discards config now = fun _ => false := by
      funext row
      rw [discards, hcutoff, Option.any_none]
    simp [deleteDiagnoses, hdiscards]
  | some cutoff =>
    have hdiscards : db.discards config now =
        (db.deleteIncidents (closes config now)).unattached cutoff := by
      funext row
      rw [discards, hcutoff, Option.any_some]
      rfl
    rw [hdiscards]

/-- What is cited once incidents and diagnoses are deleted, something kept cites. -/
theorem cited_deleted (o : ObservationId) :
    ((db.deleteIncidents (closes config now)).deleteDiagnoses (db.discards config now)).cited o =
      db.citedByKept config now o := by
  have hany : ∀ (rows : List EvidenceRow) (p : EvidenceRow → Bool),
      decide (o ∈ (rows.filter p).map EvidenceRow.observation) =
        rows.any fun row => row.observation = o && p row := by
    intro rows p
    rw [Bool.eq_iff_iff, decide_eq_true_iff]
    simp only [List.mem_map, List.mem_filter, List.any_eq_true, Bool.and_eq_true, decide_eq_true_iff]
    constructor
    · rintro ⟨row, ⟨hrow, hp⟩, ho⟩
      exact ⟨row, hrow, ho, hp⟩
    · rintro ⟨row, hrow, ho, hp⟩
      exact ⟨row, ⟨hrow, hp⟩, ho⟩
  rw [cited, citedByKept]
  exact congrArg₂ or (hany _ _) (hany _ _)

/-- **What a pass leaves of the observations.** -/
theorem observations_pruneAt (db : Database) (config : RetentionConfig) (now : Timestamp)
    (mode : PruneMode) : (db.pruneAt config now mode).1.observations =
      db.observations.filter fun row => !db.lapses config now mode row := by
  have hall : ∀ {p : ObservationRow → Bool}, (∀ row, p row = true) →
      db.observations = db.observations.filter p := by
    intro p hp
    exact (List.filter_eq_self.mpr fun row _ => hp row).symm
  cases henabled : config.enabled with
  | false =>
    simp only [pruneAt, henabled, Bool.not_false, if_true]
    exact hall fun row => by simp [lapses, henabled]
  | true =>
    simp only [pruneAt, henabled, Bool.not_true, Bool.false_eq_true, if_false]
    cases mode with
    | dryRun => exact hall fun row => by simp [lapses]
    | delete =>
      have htables : (db.pruned config now).1.observations =
          ((((db.pruneIncidents config.resolvedIncidents now).1.pruneDiagnoses config.diagnoses
            now).1.pruneObservations config.observations config.keep now).1).observations :=
        (pruneTransitions_spec _ now config.transitions config.keep).1.2.2
      rw [htables, pruneIncidents_eq, pruneDiagnoses_eq, pruneObservations]
      cases hcutoff : config.observations.cutoff now with
      | none => exact hall fun row => by simp [lapses, hcutoff]
      | some cutoff =>
        refine List.filter_congr fun row hrow => ?_
        congr 1
        have houtdated : outdated target finishedAt (fun row => row.observation.id) cutoff config.keep
            db.observations row = true ↔ finishedAt row < cutoff ∧
              config.keep ≤ newerThan target finishedAt db.observations row :=
          outdated_iff _ hrow
        have hsame : disposable ((db.deleteIncidents (closes config now)).deleteDiagnoses
            (db.discards config now)) cutoff config.keep row =
            (outdated target finishedAt (fun row => row.observation.id) cutoff config.keep
              db.observations row && !db.citedByKept config now row.observation.id) := by
          rw [disposable, cited_deleted]
          rfl
        rw [hsame, lapses, hcutoff, henabled, Option.any_some, Bool.eq_iff_iff]
        simp only [Bool.and_eq_true, houtdated, decide_eq_true_iff, true_and, and_true, and_assoc]

end Lapses

/-! ### The newest observations -/

/-- The newest observation of each stream of an entity, as it is read at the time `t`. -/
def latestObservations (db : Database) (t : Timestamp) (e : EntityId) : List Observation :=
  Store.latestObservationsSince ⟨db.observations, .new, [], [], fun _ => [], none⟩ t e none

/-- The valid observations of a stream. -/
def reports (db : Database) (t : Timestamp) (k : StreamKey) : List ObservationRow :=
  db.observations.filter fun row => row.observation.streamKey = k && Store.valid t none row

theorem mem_latestObservations {db : Database} {t : Timestamp} {e : EntityId} {o : Observation} :
    o ∈ db.latestObservations t e ↔ o.targetEntity = e ∧
      ((db.reports t o.streamKey).maxByKey fun row => row.observation.finishedAt).map
        ObservationRow.observation = some o :=
  Store.mem_latestObservationsSince

theorem nodup_latestObservations (db : Database) (t : Timestamp) (e : EntityId) :
    (db.latestObservations t e).Nodup := by
  refine (Store.latestObservationsSince_spec _ t e none).1.imp ?_
  intro o o' hne heq
  exact hne (congrArg Observation.streamKey heq)

/-- The newest observation of a stream stays the newest, if it is not deleted. -/
theorem mem_latestObservations_of_kept {db after : Database} {p : ObservationRow → Bool}
    (hafter : after.observations = db.observations.filter p) {t : Timestamp} {e : EntityId}
    {o : Observation} (hkept : ∀ row ∈ db.observations, row.observation = o → p row = true)
    (ho : o ∈ db.latestObservations t e) : o ∈ after.latestObservations t e := by
  rw [mem_latestObservations] at ho ⊢
  obtain ⟨row, hmax, hrow⟩ := Option.map_eq_some_iff.mp ho.2
  have hmem := (List.mem_filter.mp (List.maxByKey_mem hmax)).1
  have hreports : after.reports t o.streamKey = (db.reports t o.streamKey).filter p := by
    rw [reports, reports, hafter, List.filter_filter, List.filter_filter]
    simp only [Bool.and_comm]
  rw [hreports, List.maxByKey_filter (hkept row hmem hrow) _ hmax]
  exact ⟨ho.1, congrArg some hrow⟩

/-- **When a pass leaves the newest observations alone.**  Whatever is stored and whatever
the policy is: every entity has the same newest observations before and after, exactly if
none of them is before the cutoff with enough newer observations of its entity, and cited
by nothing that is kept. -/
theorem latest_unchanged_iff (db : Database) (config : RetentionConfig) (now : Timestamp)
    (mode : PruneMode) (t : Timestamp) :
    (∀ e, ((db.pruneAt config now mode).1.latestObservations t e).Perm (db.latestObservations t e)) ↔
      ∀ e, ∀ row ∈ db.observations, row.observation ∈ db.latestObservations t e →
        db.lapses config now mode row = false := by
  have hafter := db.observations_pruneAt config now mode
  constructor
  · intro hsame e row _ hlatest
    have hstill := (hsame e).mem_iff.mpr hlatest
    obtain ⟨row', hrow', heq⟩ := List.mem_map.mp
      ((Store.latestObservationsSince_spec _ t e none).2 row.observation hstill).1
    have hkept := (List.mem_filter.mp (hafter ▸ hrow' : row' ∈ db.observations.filter _)).2
    -- whether a row lapses depends on its observation only
    have hlapses : db.lapses config now mode row = db.lapses config now mode row' := by
      unfold lapses newerThan finishedAt target
      rw [heq]
    rw [hlapses]
    simpa using hkept
  · intro hkept e
    refine (List.perm_ext_iff_of_nodup (nodup_latestObservations _ t e)
      (nodup_latestObservations db t e)).mpr fun o => ?_
    have hmono : ∀ {o : Observation}, o ∈ db.latestObservations t e →
        o ∈ (db.pruneAt config now mode).1.latestObservations t e := by
      intro o ho
      refine mem_latestObservations_of_kept hafter (fun row hrow hrowo => ?_) ho
      rw [hkept e row hrow (hrowo ▸ ho)]
      rfl
    refine ⟨fun ho => ?_, hmono⟩
    -- the stream has a newest observation before, and it is the newest after
    obtain ⟨htarget, hmax⟩ := mem_latestObservations.mp ho
    obtain ⟨row, hrow, hrowo⟩ := Option.map_eq_some_iff.mp hmax
    have hreport := List.mem_filter.mp (List.maxByKey_mem hrow)
    have hstored : row ∈ db.reports t o.streamKey :=
      List.mem_filter.mpr ⟨(List.mem_filter.mp (hafter ▸ hreport.1)).1, hreport.2⟩
    cases hbefore : (db.reports t o.streamKey).maxByKey fun row => row.observation.finishedAt with
    | none =>
      rw [List.maxByKey_eq_none_iff] at hbefore
      rw [hbefore] at hstored
      cases hstored
    | some newest =>
      have hkey := (List.mem_filter.mp (List.maxByKey_mem hbefore)).2
      rw [Bool.and_eq_true, decide_eq_true_iff] at hkey
      have hnewest : newest.observation ∈ db.latestObservations t e := by
        rw [mem_latestObservations, hkey.1, hbefore]
        exact ⟨(congrArg Prod.fst hkey.1).trans htarget, rfl⟩
      have hagain := (mem_latestObservations.mp (hmono hnewest)).2
      rw [hkey.1, hmax, Option.some.injEq] at hagain
      rwa [hagain]

/-- A slow probe reports, and a fast one of the same host so often that the floor is
reached: a pass deletes the only observation of the slow probe. -/
theorem slow_stream_forgotten :
    let report (k : ℕ) (probe : ProbeId) : ObservationRow :=
      ⟨⟨⟨⟨k⟩⟩, probe, ⟨⟨1⟩⟩, none, k, .ok, .null⟩, k⟩
    let db : Database := ⟨[], [], [], [],
      report 0 probeClientMount :: (List.range 32).map fun k => report (k + 1) probeNetwork, [],
      .nil, .nil⟩
    let config : RetentionConfig := ⟨true, .lasting 60, 0, .forever, .forever, .forever⟩
    ((db.latestObservations 100 ⟨⟨1⟩⟩).map Observation.probeId = [probeClientMount, probeNetwork] ∧
      ((db.pruneAt config 100 .delete).1.latestObservations 100 ⟨⟨1⟩⟩).map Observation.probeId =
        [probeNetwork]) ∧
    ¬ ∀ e, ((db.pruneAt config 100 .delete).1.latestObservations 100 e).Perm
      (db.latestObservations 100 e) := by
  intro report db config
  have hprobes : (db.latestObservations 100 ⟨⟨1⟩⟩).map Observation.probeId =
        [probeClientMount, probeNetwork] ∧
      ((db.pruneAt config 100 .delete).1.latestObservations 100 ⟨⟨1⟩⟩).map Observation.probeId =
        [probeNetwork] := by
    decide +kernel
  refine ⟨hprobes, fun hsame => ?_⟩
  have hperm := (hsame ⟨⟨1⟩⟩).map Observation.probeId
  rw [hprobes.1, hprobes.2] at hperm
  have hlength := hperm.length_eq
  simp at hlength

end Database

end Sentinel
