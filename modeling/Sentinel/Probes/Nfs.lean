import Sentinel.Controller.Builtin
import Sentinel.State.Interleaving

/-!
# The NFS client probe, one execution per mount

An agent schedules one active filesystem probe for every NFS mount of its host, so
that one wedged mount does not stop the others being checked.  All of them report
under one probe identifier, about one host, without an observer: their results
share one stream, one debouncer and one verdict.

This file follows the results of any number of mounts into the engine.  A mount
whose own results would end degraded or unavailable is masked as soon as those of
the others break up its run of bad results or answer it; the storage component is
as severe as every single mount exactly when the runs that stand in the mounts'
own results stand in the merged ones too.

## Main definitions

* `NfsStatus`, `classifyLatency`, `collect` — what one execution makes of a
  `stat` of the mount point.
* `MountResult`, `MountResult.observation` — one execution and the observation the
  runner makes of it.
* `storage` — the storage component after a list of results.

## Main results

* `storage_eq_report` — the component is the report on the merged statuses.
* `mounts_unmasked_iff` — when no mount is masked.
* `working_mount_masks_wedged` — a working mount that masks a wedged one.
-/

namespace Sentinel

namespace Nfs

/-! ### One execution -/

/-- How an NFS mount is behaving. -/
inductive NfsStatus
  /-- Responding normally. -/
  | ok
  /-- Responding, but slowly enough to matter. -/
  | slow
  /-- Did not respond within the probe's timeout. -/
  | timeout
  /-- A previous probe is still blocked in the kernel. -/
  | stuck
  deriving DecidableEq, Repr

namespace NfsStatus

/-- The probe status this implies. -/
def probeStatus : NfsStatus → ProbeStatus
  | ok => .ok
  | slow => .degraded
  | timeout => .timeout
  | stuck => .stuck

/-- Stable string form. -/
def asStr : NfsStatus → String
  | ok => "NFS_OK"
  | slow => "NFS_SLOW"
  | timeout => "NFS_TIMEOUT"
  | stuck => "NFS_STUCK"

end NfsStatus

/-- The latency above which a mount is called slow. -/
def slowAfter : Duration := seconds 2

/-- Judge a latency against a threshold. -/
def classifyLatency (latency slowAfter : Duration) : NfsStatus :=
  if slowAfter ≤ latency then .slow else .ok

/-- What became of the `stat` of a mount point. -/
inductive StatOutcome
  /-- It returned after this long. -/
  | answered (latency : Duration)
  /-- It returned an error. -/
  | errored (error : String)
  /-- The deadline passed. -/
  | silent

/-- The status and the payload of one execution of the probe. -/
def collect (mountPoint : String) : StatOutcome → ProbeStatus × Json
  | .errored _ =>
    -- the mount answered, and the answer was an error
    (.failed, .obj [("mount_point", .str mountPoint), ("nfs_status", .str "NFS_ERROR"),
      ("responded", .bool true)])
  | .answered latency =>
    let status := classifyLatency latency slowAfter
    (status.probeStatus, .obj [("mount_point", .str mountPoint),
      ("nfs_status", .str status.asStr), ("latency_ms", .num (latency / 1000)),
      ("responded", .bool true)])
  | .silent =>
    (NfsStatus.timeout.probeStatus, .obj [("mount_point", .str mountPoint),
      ("nfs_status", .str NfsStatus.timeout.asStr), ("latency_ms", .null),
      ("responded", .bool false)])

/-- How the runner's task for one execution ended. -/
inductive RunOutcome
  /-- The probe finished. -/
  | collected (outcome : StatOutcome)
  /-- It panicked. -/
  | panicked
  /-- It was cancelled. -/
  | cancelled
  /-- It did not finish within the definition's timeout. -/
  | timedOut

/-- One execution against one mount that produced an observation. -/
structure MountResult where
  /-- The mount point probed. -/
  mountPoint : String
  /-- What came of it. -/
  outcome : RunOutcome
  /-- The observation's identifier. -/
  id : ObservationId
  /-- When the execution finished. -/
  finishedAt : Timestamp

namespace MountResult

/-- The status and the payload the runner records. -/
def record (r : MountResult) : ProbeStatus × Json :=
  match r.outcome with
  | .collected outcome => collect r.mountPoint outcome
  | .panicked => (.failed, .null)
  | .cancelled => (.failed, .null)
  | .timedOut => (.timeout, .null)

/-- The status of a result. -/
def status (r : MountResult) : ProbeStatus := r.record.1

/-- The observation of a result: of the host, by the host itself. -/
def observation (host : EntityId) (r : MountResult) : Observation where
  id := r.id
  probeId := probeClientIo
  targetEntity := host
  observerEntity := none
  finishedAt := r.finishedAt
  status := r.record.1
  payload := r.record.2

/-- An execution always says something about health. -/
theorem isConclusive_status (r : MountResult) : r.status.isConclusive = true := by
  unfold status record
  split
  · next outcome _ =>
    cases outcome with
    | answered latency =>
      dsimp only [collect, classifyLatency]
      split <;> rfl
    | errored error => rfl
    | silent => rfl
  all_goals rfl

end MountResult

/-! ### The storage component -/

/-- The stream that all mounts of a host share. -/
def streamKey (host : EntityId) : StreamKey := (host, probeClientIo, none)

/-- The events a list of results makes, each with the controller's clock. -/
def events (host : EntityId) (results : List (Timestamp × MountResult)) :
    List (Timestamp × Observation) :=
  results.map fun r => (r.1, r.2.observation host)

/-- The storage component of a host after a list of results, in an engine that
knows the built-in probes. -/
def storage (host : EntityId) (results : List (Timestamp × MountResult)) : Health :=
  ((registerBuiltinProbes .new).ingestAll (events host results)).1.health host .storage

/-- The statuses of a list of results. -/
def statuses (results : List (Timestamp × MountResult)) : List ProbeStatus :=
  results.map fun r => r.2.status

/-- The results of one mount. -/
def ofMount (results : List (Timestamp × MountResult)) (mountPoint : String) :
    List (Timestamp × MountResult) :=
  results.filter fun r => r.2.mountPoint = mountPoint

/-- Results as the agent of a host produces them: under fresh identifiers, in the
order they finished, none from the future. -/
structure Produced (results : List (Timestamp × MountResult)) : Prop where
  ordered : results.Pairwise fun a b => a.2.id ≠ b.2.id ∧ a.2.finishedAt ≤ b.2.finishedAt
  past : ∀ r ∈ results, r.2.finishedAt ≤ r.1 + maxFutureSkew

theorem Produced.ofMount {results : List (Timestamp × MountResult)} (h : Produced results)
    (mountPoint : String) : Produced (ofMount results mountPoint) :=
  ⟨h.ordered.filter _, fun r hr => h.past r (List.mem_of_mem_filter hr)⟩

theorem mapping_probeClientIo : builtinMappings[probeClientIo]? = some (.new .storage) := by
  decide +kernel

theorem gate_observation (host : EntityId) {now : Timestamp} {r : MountResult}
    (h : r.finishedAt ≤ now + maxFutureSkew) :
    (StateEngine.ofMappings builtinMappings).gate now (r.observation host) =
      some (.new .storage) :=
  StateEngine.gate_ofMappings mapping_probeClientIo rfl h

section Storage

variable {host : EntityId} {results : List (Timestamp × MountResult)}

/-- Every result reaches the shared stream. -/
theorem passing_events (h : Produced results) :
    (StateEngine.ofMappings builtinMappings).passing (events host results) (streamKey host) =
      events host results := by
  refine List.filter_eq_self.mpr fun event hmem => ?_
  obtain ⟨r, hr, rfl⟩ := List.mem_map.mp hmem
  rw [gate_observation host (h.past r hr)]
  simp [streamKey, MountResult.observation, Observation.streamKey]

theorem statusesOf_events (h : Produced results) :
    (StateEngine.ofMappings builtinMappings).statusesOf (events host results) (streamKey host) =
      statuses results := by
  rw [StateEngine.statusesOf, passing_events h, takenFresh_eq_self]
  · rw [events, List.map_map, List.map_map, statuses]
    rfl
  · rw [events, List.map_map, List.pairwise_map]
    exact h.ordered

/-- **The storage component is the report on the merged statuses**, whatever the
mounts they come from. -/
theorem storage_eq_report (h : Produced results) :
    storage host results = (judgedFrom .default .notApplicable (statuses results)).2 := by
  rw [storage, registerBuiltinProbes_new]
  have hkey : ∀ k, (StateEngine.ofMappings builtinMappings).Informs (events host results) host
      .storage k → k = streamKey host := by
    intro k hk
    obtain ⟨event, hmem⟩ := List.exists_mem_of_ne_nil _ hk.2.1
    obtain ⟨hmem, hkey, -⟩ := StateEngine.key_of_mem_passing hmem
    obtain ⟨r, -, rfl⟩ := List.mem_map.mp hmem
    exact hkey.symm
  cases hresults : results with
  | nil =>
    refine StateEngine.health_of_no_stream fun k hk => ?_
    exact hk.2.1 rfl
  | cons r rest =>
    rw [← hresults]
    have hinf : (StateEngine.ofMappings builtinMappings).Informs (events host results) host
        .storage (streamKey host) := by
      refine ⟨rfl, ?_, .new .storage, mapping_probeClientIo, rfl⟩
      rw [passing_events h, hresults]
      simp [events]
    rw [StateEngine.health_of_single hinf hkey, StateEngine.verdict,
      show (StateEngine.ofMappings builtinMappings).mappings[(streamKey host).2.1]? =
        some (.new .storage) from mapping_probeClientIo, statusesOf_events h]
    rfl

end Storage

/-! ### Masked mounts -/

/-- Enough bad results in a row to warn stand unanswered by a recovery. -/
def Warns (statuses : List ProbeStatus) : Prop :=
  statuses.Stands isBad 2 (fun status => !isBad status) 2

/-- Enough bad results in a row for an outage stand unanswered by a recovery, and
the last result is not merely slow. -/
def Fails (statuses : List ProbeStatus) : Prop :=
  statuses.Stands isBad 3 (fun status => !isBad status) 2 ∧
    statuses.getLast? ≠ some .degraded

theorem conclusive_statuses (results : List (Timestamp × MountResult)) :
    ∀ status ∈ statuses results, status.isConclusive = true := by
  intro status hmem
  obtain ⟨r, -, rfl⟩ := List.mem_map.mp hmem
  exact r.2.isConclusive_status

theorem four_le_storage (host : EntityId) {results : List (Timestamp × MountResult)}
    (h : Produced results) :
    4 ≤ (storage host results).severityRank ↔ Warns (statuses results) := by
  rw [storage_eq_report h]
  exact four_le_report DebouncePolicy.sound_default (by decide) (conclusive_statuses results)

theorem storage_eq_unavailable (host : EntityId) {results : List (Timestamp × MountResult)}
    (h : Produced results) :
    storage host results = .unavailable ↔ Fails (statuses results) := by
  rw [storage_eq_report h]
  exact report_eq_unavailable DebouncePolicy.sound_default (by decide)
    (conclusive_statuses results)

/-- **No mount is masked exactly when every run that stands in the results of one
mount stands in the merged results.** -/
theorem mounts_unmasked_iff (host : EntityId) {results : List (Timestamp × MountResult)}
    (h : Produced results) :
    (∀ mountPoint,
      (storage host (ofMount results mountPoint) = .degraded →
        Health.degraded.severityRank ≤ (storage host results).severityRank) ∧
      (storage host (ofMount results mountPoint) = .unavailable →
        Health.unavailable.severityRank ≤ (storage host results).severityRank)) ↔
    ∀ mountPoint,
      (Warns (statuses (ofMount results mountPoint)) → Warns (statuses results)) ∧
      (Fails (statuses (ofMount results mountPoint)) → Fails (statuses results)) := by
  refine forall_congr' fun mountPoint => ?_
  rw [← four_le_storage host h, ← storage_eq_unavailable host h,
    ← four_le_storage host (h.ofMount mountPoint),
    ← storage_eq_unavailable host (h.ofMount mountPoint)]
  generalize storage host (ofMount results mountPoint) = alone
  generalize storage host results = merged
  cases alone <;> cases merged <;> decide

/-- Two mounts whose results do not disturb each other. -/
theorem mounts_unmasked_iff_two_mounts :
    let result (n : ℕ) (mount : String) (outcome : StatOutcome) : Timestamp × MountResult :=
      (n, ⟨mount, .collected outcome, ⟨⟨.ofNat 128 n⟩⟩, n⟩)
    let results := [result 1 "/home" .silent, result 2 "/home" .silent,
      result 3 "/data" (.answered 10)]
    Produced results ∧
    ((∀ mountPoint,
      (storage ⟨⟨7⟩⟩ (ofMount results mountPoint) = .degraded →
        Health.degraded.severityRank ≤ (storage ⟨⟨7⟩⟩ results).severityRank) ∧
      (storage ⟨⟨7⟩⟩ (ofMount results mountPoint) = .unavailable →
        Health.unavailable.severityRank ≤ (storage ⟨⟨7⟩⟩ results).severityRank)) ↔
    ∀ mountPoint,
      (Warns (statuses (ofMount results mountPoint)) → Warns (statuses results)) ∧
      (Fails (statuses (ofMount results mountPoint)) → Fails (statuses results))) := by
  intro result results
  have h : Produced results := by
    refine ⟨?_, ?_⟩
    · simp only [results, result]
      decide +kernel
    · simp only [results, result]
      decide +kernel
  exact ⟨h, mounts_unmasked_iff ⟨⟨7⟩⟩ h⟩

/-- **A working mount masks a wedged one**: every other result is an answer, and
three timeouts in a row of the wedged mount leave the component without a
verdict. -/
theorem working_mount_masks_wedged :
    let result (n : ℕ) (mount : String) (outcome : StatOutcome) : Timestamp × MountResult :=
      (n, ⟨mount, .collected outcome, ⟨⟨.ofNat 128 n⟩⟩, n⟩)
    let results := [result 1 "/data" (.answered 10), result 2 "/home" .silent,
      result 3 "/data" (.answered 10), result 4 "/home" .silent,
      result 5 "/data" (.answered 10), result 6 "/home" .silent]
    storage ⟨⟨7⟩⟩ (ofMount results "/home") = .unavailable ∧
    storage ⟨⟨7⟩⟩ results = .notApplicable := by
  decide +kernel

end Nfs

end Sentinel
