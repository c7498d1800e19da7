import Sentinel.Controller.Ingest
import Sentinel.Persistence.Incidents

/-!
# Resetting the monitoring state

The current monitoring state of an environment can be dropped without deleting history:
states and streams go, what is still tracked as an incident is closed, and messages that
wait to be sent are discarded.  The time of the reset is recorded, and a controller does
not let anything that finished earlier count from then on.

All of it is one transaction, run while the controller is stopped.

## Main definitions

* `MonitoringTables` — the tables of the current state, and the history beside them.
* `MonitoringTables.resetState` — the transaction.

## Main results

* `MonitoringTables.resetState_spec` — **what a reset leaves of the environment, and that
  it leaves the rest alone.**
-/

namespace Sentinel

/-- The tables of the monitoring state, of every environment, and of its history. -/
structure MonitoringTables where
  /-- When each environment was reset. -/
  resets : Std.ExtTreeMap String Timestamp
  /-- The states of entities: their components, and their roll-ups. -/
  states : Std.ExtTreeMap EntityId EntityState
  /-- The streams, each with its environment. -/
  streams : List (String × StateStream)
  /-- The incidents, and the messages about them. -/
  incidents : IncidentTables
  /-- The observations. -/
  observations : List ObservationRow
  /-- The changes of state. -/
  transitions : List StateTransition

/-- What a reset did. -/
structure StateReset where
  /-- When it was. -/
  resetAt : Timestamp
  /-- Roll-ups deleted. -/
  entities : ℕ
  /-- Incidents closed. -/
  incidents : ℕ
  /-- Messages discarded. -/
  pendingNotifications : ℕ
  deriving DecidableEq

/-- Whether a reset closes an incident. -/
def IncidentStatus.isTracked : IncidentStatus → Bool
  | opened | recovering | acknowledged | suppressed => true
  | resolved | reset => false

theorem IncidentStatus.isTracked_of_isActive {status : IncidentStatus}
    (h : status.isActive = true) : status.isTracked = true := by
  cases status <;> first | rfl | cases h

/-- Whether a reset of an environment closes an incident. -/
def StoredIncident.isTrackedIn (row : StoredIncident) (environment : String) : Bool :=
  row.environment = environment && row.status.isTracked

/-- The row once a reset of the environment has closed the incident, if it is tracked. -/
def StoredIncident.closeIn (environment : String) (resetAt : Timestamp) (row : StoredIncident) :
    StoredIncident :=
  if row.isTrackedIn environment then { row with status := .reset, endedAt := some resetAt } else row

theorem StoredIncident.environment_closeIn {environment : String} {resetAt : Timestamp} (row : StoredIncident) :
    (row.closeIn environment resetAt).environment = row.environment := by
  unfold closeIn
  split <;> rfl

/-- What the timeline of an incident says of a reset. -/
def resetEvent (resetAt : Timestamp) : TimelineEvent :=
  ⟨resetAt, "state_reset", "監視状態を初期化したため、この障害の追跡を終了しました。"⟩

/-- The row of an entity whose components are deleted, if it is the environment's. -/
def dropComponents (home : EntityId → String) (environment : String) (e : EntityId) (state : EntityState) :
    EntityState :=
  if home e = environment then { state with components := ∅ } else state

namespace MonitoringTables

/-! ### The statements -/

section Statements

variable (home : EntityId → String) (environment : String) (resetAt : Timestamp)

/-- Record the reset. -/
def recordReset : Statement MonitoringTables where
  permits := fun t => t.incidents.environments.contains environment
  effect := fun t => { t with resets := t.resets.insert environment resetAt }

/-- Delete the components of the environment's entities. -/
def deleteComponents : Statement MonitoringTables where
  permits := fun _ => true
  effect := fun t => { t with states := t.states.map (dropComponents home environment) }

/-- Delete the roll-ups of the environment's entities. -/
def deleteOverall : Statement MonitoringTables where
  permits := fun _ => true
  effect := fun t => { t with states := t.states.filter fun e _ => home e ≠ environment }

/-- Delete the streams of the environment. -/
def deleteStreams : Statement MonitoringTables where
  permits := fun _ => true
  effect := fun t => { t with streams := t.streams.filter fun s => s.1 ≠ environment }

/-- Say in the timeline of an incident that the reset ended it. -/
def insertResetEvent (id : Uuid) : Statement MonitoringTables where
  permits := fun t => t.incidents.incidents.contains id
  effect := fun t => { t with incidents := { t.incidents with
    timeline := Function.update t.incidents.timeline id (t.incidents.timeline id ++
      [resetEvent resetAt]) } }

/-- Close the incidents of the environment that are still tracked. -/
def closeIncidents : Statement MonitoringTables where
  permits := fun _ => true
  effect := fun t => { t with incidents := { t.incidents with
    incidents := t.incidents.incidents.map fun _ row => row.closeIn environment resetAt } }

/-- Discard the messages about incidents of the environment. -/
def discardCandidates : Statement MonitoringTables where
  permits := fun _ => true
  effect := fun t => { t with incidents := { t.incidents with
    candidates := t.incidents.candidates.filter fun c =>
      !t.incidents.incidents[c.incidentId]?.any fun row => row.environment = environment } }

/-- The incidents of the environment that are still tracked. -/
def tracked (t : MonitoringTables) : List Uuid :=
  (t.incidents.incidents.toList.filter fun entry => entry.2.isTrackedIn environment).map Prod.fst

/-- The statements of a reset. -/
def resetStatements (t : MonitoringTables) : List (Statement MonitoringTables) :=
  [recordReset environment resetAt, deleteComponents home environment, deleteOverall home environment,
    deleteStreams environment] ++
  (t.tracked environment).map (insertResetEvent resetAt) ++
  [closeIncidents environment resetAt, discardCandidates environment]

/-- Reset the monitoring state of an environment: the tables after it, and what was done
if it was committed. -/
def resetState (fault : ℕ → Bool) (t : MonitoringTables) : MonitoringTables × Option StateReset :=
  let (after, committed) := transaction fault (t.resetStatements home environment resetAt) t
  (after, if committed then some {
      resetAt := resetAt
      entities := (t.states.filter fun e _ => home e = environment).size
      incidents := (t.tracked environment).length
      pendingNotifications := t.incidents.candidates.countP fun c =>
        t.incidents.incidents[c.incidentId]?.any fun row => row.environment = environment }
    else none)

end Statements

/-! ### Queries -/

/-- The rows of incidents, those that began last first. -/
def byBeginning (rows : List (Uuid × StoredIncident)) : List (Uuid × StoredIncident) :=
  rows.mergeSort fun a b => b.2.startedAt ≤ a.2.startedAt

/-- The incidents that still need attention. -/
def loadActiveIncidents (t : MonitoringTables) (environment : String) : List (Uuid × StoredIncident) :=
  byBeginning (t.incidents.incidents.toList.filter fun entry =>
    entry.2.environment = environment && entry.2.status.isActive)

/-- The incidents a controller that starts goes on with: none that began before the reset,
and of those that ended only the ones that may still reopen. -/
def loadResumableIncidents (t : MonitoringTables) (environment : String) (now : Timestamp) :
    List (Uuid × StoredIncident) :=
  byBeginning (t.incidents.incidents.toList.filter fun entry =>
    entry.2.environment = environment &&
      t.resets[environment]?.all (fun resetAt => resetAt ≤ entry.2.startedAt) &&
      (entry.2.status.isActive || (entry.2.status = .resolved &&
        entry.2.endedAt.any fun endedAt => now - Incident.reopenWindow ≤ endedAt)))

/-! ### What a reset leaves -/

section Results

variable {home : EntityId → String} {environment : String} {resetAt : Timestamp} {t : MonitoringTables}

/-- What is tracked. -/
theorem mem_tracked {id : Uuid} : id ∈ t.tracked environment ↔
    ∃ row, t.incidents.incidents[id]? = some row ∧ row.isTrackedIn environment = true := by
  simp only [tracked, List.mem_map, List.mem_filter]
  constructor
  · rintro ⟨entry, ⟨hentry, htracked⟩, rfl⟩
    exact ⟨entry.2, Std.ExtTreeMap.mem_toList_iff_getElem?_eq_some.mp hentry, htracked⟩
  · rintro ⟨row, hrow, htracked⟩
    exact ⟨(id, row), ⟨Std.ExtTreeMap.mem_toList_iff_getElem?_eq_some.mpr hrow, htracked⟩, rfl⟩

/-- The events are put at the ends of the timelines, and nothing else changes. -/
theorem effects_insertResetEvents (resetAt : Timestamp) (ids : List Uuid) :
    ∀ t : MonitoringTables, ∃ timeline, effects (ids.map (insertResetEvent resetAt)) t =
      { t with incidents := { t.incidents with timeline := timeline } } ∧
      ∀ id, timeline id = t.incidents.timeline id ++ List.replicate (ids.count id)
        (resetEvent resetAt) := by
  induction ids with
  | nil =>
    intro t
    exact ⟨t.incidents.timeline, rfl, by simp⟩
  | cons first ids ih =>
    intro t
    obtain ⟨timeline, heq, htimeline⟩ := ih ((insertResetEvent resetAt first).effect t)
    refine ⟨timeline, heq, fun id => ?_⟩
    rw [htimeline, List.count_cons]
    by_cases hid : first = id
    · subst hid
      simp [insertResetEvent, List.replicate_succ]
    · have hne : id ≠ first := fun h => hid h.symm
      simp [insertResetEvent, hid, Function.update_of_ne hne]

/-- The tables after a reset. -/
structure IsReset (home : EntityId → String) (environment : String) (resetAt : Timestamp)
    (t after : MonitoringTables) : Prop where
  /-- The reset is recorded. -/
  resets : after.resets = t.resets.insert environment resetAt
  /-- No state of the environment is left. -/
  states : after.states = t.states.filter fun e _ => home e ≠ environment
  /-- No stream of the environment is left. -/
  streams : after.streams = t.streams.filter fun s => s.1 ≠ environment
  /-- What was tracked is closed. -/
  incidents : ∀ id : Uuid, after.incidents.incidents[id]? =
    t.incidents.incidents[id]?.map (StoredIncident.closeIn environment resetAt)
  /-- The end is in its timeline. -/
  timeline : ∀ id, after.incidents.timeline id = t.incidents.timeline id ++
    if id ∈ t.tracked environment then
      [resetEvent resetAt] else []
  /-- The messages are discarded. -/
  candidates : after.incidents.candidates = t.incidents.candidates.filter fun c =>
    !t.incidents.incidents[c.incidentId]?.any fun row => row.environment = environment
  /-- Whatever else is stored of incidents stays. -/
  kept : after.incidents.affected = t.incidents.affected ∧ after.incidents.roots = t.incidents.roots ∧
    after.incidents.evidence = t.incidents.evidence ∧ after.incidents.diagnoses = t.incidents.diagnoses
  /-- So does the history. -/
  history : after.observations = t.observations ∧ after.transitions = t.transitions

/-- The states of one environment are gone, whatever became of their components. -/
theorem filter_map_states (states : Std.ExtTreeMap EntityId EntityState) :
    ((states.map (dropComponents home environment)).filter fun e _ => home e ≠ environment) =
      states.filter fun e _ => home e ≠ environment := by
  apply Std.ExtTreeMap.ext_getElem?
  intro e
  rw [Std.ExtTreeMap.getElem?_filter', Std.ExtTreeMap.getElem?_map, Std.ExtTreeMap.getElem?_filter']
  cases states[e]? with
  | none => rfl
  | some state =>
    by_cases he : home e = environment
    · simp [he]
    · simp [dropComponents, he]

/-- An incident is tracked once. -/
theorem nodup_tracked : (t.tracked environment).Nodup := by
  have hkeys : (t.incidents.incidents.toList.map Prod.fst).Nodup := by
    rw [Std.ExtTreeMap.map_fst_toList_eq_keys]
    exact Std.ExtTreeMap.nodup_keys
  exact (List.filter_sublist.map Prod.fst).nodup hkeys

/-- The tables before the incidents are closed. -/
private def cleared (home : EntityId → String) (environment : String) (resetAt : Timestamp)
    (t : MonitoringTables) : MonitoringTables := { t with
  resets := t.resets.insert environment resetAt
  states := (t.states.map (dropComponents home environment)).filter fun e _ => home e ≠ environment
  streams := t.streams.filter fun s => s.1 ≠ environment }

/-- What the statements of a reset do together. -/
theorem isReset_effects : IsReset home environment resetAt t
    (effects (t.resetStatements home environment resetAt) t) := by
  obtain ⟨timeline, heq, htimeline⟩ := effects_insertResetEvents resetAt (t.tracked environment)
    (cleared home environment resetAt t)
  have hafter : effects (t.resetStatements home environment resetAt) t =
      (discardCandidates environment).effect ((closeIncidents environment resetAt).effect
        (effects ((t.tracked environment).map (insertResetEvent resetAt))
          (cleared home environment resetAt t))) := by
    rw [resetStatements, effects_append, effects_append]
    rfl
  rw [hafter, heq]
  have hclosed : ∀ id : Uuid,
      (t.incidents.incidents.map fun _ row => row.closeIn environment resetAt)[id]? =
        t.incidents.incidents[id]?.map (StoredIncident.closeIn environment resetAt) :=
    fun id => Std.ExtTreeMap.getElem?_map
  refine ⟨rfl, filter_map_states t.states, rfl, hclosed, fun id => ?_, ?_, ⟨rfl, rfl, rfl, rfl⟩, ⟨rfl, rfl⟩⟩
  · -- an incident that is tracked is there once
    show timeline id = _
    rw [htimeline, List.Nodup.count nodup_tracked]
    split
    · rfl
    · rfl
  · -- closing an incident leaves its environment
    apply List.filter_congr
    intro c _
    show (!Option.any _ ((t.incidents.incidents.map _)[c.incidentId]?)) = _
    rw [hclosed]
    cases t.incidents.incidents[c.incidentId]? with
    | none => rfl
    | some row =>
      rw [Option.map_some, Option.any_some, Option.any_some, row.environment_closeIn]

/-- A reset that is committed has done all of it. -/
theorem isReset_of_committed {fault : ℕ → Bool}
    (h : (t.resetState home environment resetAt fault).2.isSome) :
    IsReset home environment resetAt t (t.resetState home environment resetAt fault).1 := by
  have hcommitted : (transaction fault (t.resetStatements home environment resetAt) t).2 = true := by
    by_contra hfailed
    rw [Bool.not_eq_true] at hfailed
    simp [resetState, hfailed] at h
  show IsReset home environment resetAt t (transaction fault (t.resetStatements home environment resetAt) t).1
  rw [transaction_of_committed hcommitted]
  exact isReset_effects

/-- A reset that fails changes nothing. -/
theorem resetState_of_failed {fault : ℕ → Bool}
    (h : (t.resetState home environment resetAt fault).2 = none) :
    (t.resetState home environment resetAt fault).1 = t := by
  have hfailed : (transaction fault (t.resetStatements home environment resetAt) t).2 = false := by
    by_contra hcommitted
    rw [Bool.not_eq_false] at hcommitted
    simp [resetState, hcommitted] at h
  exact transaction_of_failed hfailed

/-- Nothing of the monitoring state of an environment is left: no state, no stream, no
incident that is tracked and no message. -/
structure Cleared (after : MonitoringTables) (home : EntityId → String) (environment : String)
    (resetAt : Timestamp) : Prop where
  /-- The reset is recorded. -/
  recorded : after.resets[environment]? = some resetAt
  /-- No state. -/
  states : ∀ e, home e = environment → after.states[e]? = none
  /-- No stream. -/
  streams : ∀ s ∈ after.streams, s.1 ≠ environment
  /-- No incident. -/
  incidents : ∀ (id : Uuid) (row : StoredIncident), after.incidents.incidents[id]? = some row →
    row.environment = environment → row.status.isTracked = false
  /-- None is found active. -/
  active : after.loadActiveIncidents environment = []
  /-- None that began earlier is gone on with. -/
  resumable : ∀ now, ∀ entry ∈ after.loadResumableIncidents environment now, resetAt ≤ entry.2.startedAt
  /-- No message. -/
  candidates : ∀ c ∈ after.incidents.candidates, ∀ row : StoredIncident,
    after.incidents.incidents[c.incidentId]? = some row → row.environment ≠ environment

/-- What a reset has no part in is unchanged: other environments, the incidents that were
closed before, and the history. -/
structure Beside (t : MonitoringTables) (home : EntityId → String) (environment : String)
    (after : MonitoringTables) : Prop where
  /-- Other resets. -/
  resets : ∀ other, other ≠ environment → after.resets[other]? = t.resets[other]?
  /-- Other states. -/
  states : ∀ e, home e ≠ environment → after.states[e]? = t.states[e]?
  /-- Other streams. -/
  streams : ∀ other, other ≠ environment →
    after.streams.filter (fun s => s.1 = other) = t.streams.filter fun s => s.1 = other
  /-- Incidents that were not tracked there, and what they are about. -/
  incidents : ∀ (id : Uuid), t.incidents.incidents[id]?.any (·.isTrackedIn environment) = false →
    after.incidents.incidents[id]? = t.incidents.incidents[id]? ∧
    after.incidents.timeline id = t.incidents.timeline id
  /-- Other messages. -/
  candidates : ∀ id : Uuid, t.incidents.incidents[id]?.any (·.environment = environment) = false →
    after.incidents.candidatesOf id = t.incidents.candidatesOf id
  /-- Whatever else is stored of incidents. -/
  kept : after.incidents.affected = t.incidents.affected ∧ after.incidents.roots = t.incidents.roots ∧
    after.incidents.evidence = t.incidents.evidence ∧ after.incidents.diagnoses = t.incidents.diagnoses
  /-- The history. -/
  history : after.observations = t.observations ∧ after.transitions = t.transitions

/-- A reset clears the environment. -/
theorem IsReset.cleared {after : MonitoringTables} (h : IsReset home environment resetAt t after) :
    after.Cleared home environment resetAt := by
  have hrecorded : after.resets[environment]? = some resetAt := by
    rw [h.resets, Std.ExtTreeMap.getElem?_insert_self]
  have hincidents : ∀ (id : Uuid) (row : StoredIncident), after.incidents.incidents[id]? = some row →
      row.environment = environment → row.status.isTracked = false := by
    intro id row hrow henvironment
    rw [h.incidents] at hrow
    obtain ⟨before, -, hbefore⟩ := Option.map_eq_some_iff.mp hrow
    rw [StoredIncident.closeIn] at hbefore
    split at hbefore
    · rw [← hbefore]
      rfl
    · next htracked =>
      subst hbefore
      rwa [StoredIncident.isTrackedIn, henvironment, decide_eq_true rfl, Bool.true_and,
        Bool.not_eq_true] at htracked
  refine ⟨hrecorded, fun e he => ?_, fun s hs => ?_, hincidents, ?_, fun now entry hentry => ?_,
    fun c hc row hrow henvironment => ?_⟩
  · rw [h.states, Std.ExtTreeMap.getElem?_filter', Option.filter_eq_none_iff]
    intro state _
    simp [he]
  · rw [h.streams] at hs
    exact of_decide_eq_true (List.mem_filter.mp hs).2
  · rw [List.eq_nil_iff_forall_not_mem]
    intro entry hentry
    obtain ⟨hrow, hactive⟩ := List.mem_filter.mp (List.mem_mergeSort.mp hentry)
    rw [Bool.and_eq_true, decide_eq_true_iff] at hactive
    have htracked := IncidentStatus.isTracked_of_isActive hactive.2
    rw [hincidents entry.1 entry.2 (Std.ExtTreeMap.mem_toList_iff_getElem?_eq_some.mp hrow) hactive.1] at htracked
    cases htracked
  · obtain ⟨-, hresumable⟩ := List.mem_filter.mp (List.mem_mergeSort.mp hentry)
    rw [hrecorded, Option.all_some, Bool.and_eq_true, Bool.and_eq_true] at hresumable
    exact of_decide_eq_true hresumable.1.2
  · -- the message would have been discarded
    rw [h.candidates] at hc
    obtain ⟨-, hkept⟩ := List.mem_filter.mp hc
    rw [h.incidents] at hrow
    obtain ⟨before, hbefore, hafter⟩ := Option.map_eq_some_iff.mp hrow
    have hsame : before.environment = row.environment := by
      rw [← hafter, before.environment_closeIn]
    rw [hbefore, Option.any_some, hsame, henvironment] at hkept
    simp at hkept

/-- A reset leaves the rest alone. -/
theorem IsReset.beside {after : MonitoringTables} (h : IsReset home environment resetAt t after) :
    t.Beside home environment after := by
  refine ⟨fun other hother => ?_, fun e he => ?_, fun other hother => ?_, fun id hid => ⟨?_, ?_⟩,
    fun id hid => ?_, h.kept, h.history⟩
  · rw [h.resets, Std.ExtTreeMap.getElem?_insert_eq, if_neg hother.symm]
  · rw [h.states, Std.ExtTreeMap.getElem?_filter']
    cases t.states[e]? with
    | none => rfl
    | some state => simp [he]
  · rw [h.streams, List.filter_filter]
    apply List.filter_congr
    intro s _
    by_cases hs : s.1 = other
    · simp [hs, hother]
    · simp [hs]
  · rw [h.incidents]
    cases hrow : t.incidents.incidents[id]? with
    | none => rfl
    | some row =>
      rw [hrow, Option.any_some] at hid
      rw [Option.map_some, StoredIncident.closeIn, hid, if_neg Bool.false_ne_true]
  · have htracked : id ∉ t.tracked environment := by
      rw [mem_tracked]
      rintro ⟨row, hrow, htracked⟩
      rw [hrow, Option.any_some, htracked] at hid
      cases hid
    rw [h.timeline, if_neg htracked, List.append_nil]
  · rw [IncidentTables.candidatesOf, h.candidates, List.filter_filter, IncidentTables.candidatesOf]
    apply List.filter_congr
    intro c _
    by_cases hc : c.incidentId = id
    · simp [hc, hid]
    · simp [hc]

/-- **What a reset leaves.**  Once it is committed nothing is left of the environment's
monitoring state, and the rest is as it was; one that fails changes nothing. -/
theorem resetState_spec (home : EntityId → String) (environment : String) (resetAt : Timestamp)
    (fault : ℕ → Bool) (t : MonitoringTables) :
    match t.resetState home environment resetAt fault with
    | (after, some _) => after.Cleared home environment resetAt ∧ t.Beside home environment after
    | (after, none) => after = t := by
  cases houtcome : (t.resetState home environment resetAt fault).2 with
  | none =>
    have hafter := resetState_of_failed houtcome
    rw [← Prod.mk.eta (p := t.resetState home environment resetAt fault), houtcome]
    exact hafter
  | some outcome =>
    have hreset := isReset_of_committed (Option.isSome_iff_exists.mpr ⟨outcome, houtcome⟩)
    rw [← Prod.mk.eta (p := t.resetState home environment resetAt fault), houtcome]
    exact ⟨hreset.cleared, hreset.beside⟩

end Results

end MonitoringTables

end Sentinel
