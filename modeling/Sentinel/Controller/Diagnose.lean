import Sentinel.Controller.Ingest
import Sentinel.Controller.Recovery
import Sentinel.Diagnosis.Clients

/-!
# The diagnosis pass

The controller diagnoses from what it has: the stored inventory, the states of its
engine after silent streams have expired, and the newest stored observation of each
stream, as far as it is still evidence about now.

Two kinds of rules then look at one host through two different windows.  Whether a
host is unreachable is read off the raw observations, and whether a service on it has
failed off the debounced states; between the first failed round and the one that
moves the state, both may conclude.

## Main definitions

* `Controller.diagnosisContext`, `Controller.diagnose` — the context, and the pass.
* `presumesUp` — the conclusions that presume a machine to be up.
* `Troubled` — what such a conclusion is drawn from.

## Main results

* `presumes_up_iff` — which hosts are presumed to be up.
* `Controller.never_dead_and_up_iff` — when no host is found dead and up at once.
-/

namespace Sentinel

namespace Controller

/-- What one diagnosis reads beside the controller's own state. -/
structure Reading where
  /-- The clock when silent streams expire. -/
  expiresAt : Timestamp
  /-- The clock when the observations are gathered. -/
  now : Timestamp
  /-- The environment. -/
  environment : String
  /-- How long answers stay evidence. -/
  freshness : Freshness
  /-- The states in the database. -/
  stored : List EntityState

variable (controller : Controller) (reading : Reading)

/-- The engine a diagnosis reads: its silent streams have expired. -/
def currentEngine : StateEngine :=
  (controller.engine.engine.expire reading.expiresAt reading.expiresAt fun s =>
    reading.freshness.horizonFor s.probe s.observer).1

/-- The states a diagnosis reads: the engine's, or the stored ones if it has none. -/
def currentStates : Std.ExtTreeMap EntityId EntityState :=
  if (controller.currentEngine reading).states.isEmpty then
    .ofList (reading.stored.map fun state => (state.entity, state))
  else (controller.currentEngine reading).states

/-- The stored observations that are evidence about now. -/
def currentObservations : List Observation :=
  controller.store.inventory.all.flatMap fun entity =>
    (controller.store.latestObservationsSince reading.now entity.id
      (controller.currentEngine reading).observationCutoff).filter fun o =>
        (controller.currentEngine reading).probeEnabled entity.id o.probeId &&
          reading.now - o.finishedAt ≤ reading.freshness.horizonFor o.probeId o.observerEntity

/-- What the rules see. -/
def diagnosisContext : DiagnosisContext where
  environment := reading.environment
  inventory := controller.store.inventory
  states := controller.currentStates reading
  observations := ObservationIndex.new.insertAll (controller.currentObservations reading)

/-- Run every rule against the current picture. -/
def diagnose (entityId : EntityKey → EntityId) : List Diagnosis :=
  Sentinel.diagnose (builtinRules entityId) (controller.diagnosisContext reading)

end Controller

/-! ### Who is presumed to be up -/

/-- The conclusions that presume a machine to be up. -/
def presumesUp : List DiagnosisType :=
  [Kind.slurmdServiceFailure, Kind.slurmOnlyDegradation, Kind.sentinelAgentFailure,
   Kind.sshServiceFailure, Kind.nfsServiceFailure]

/-- Some diagnosis of one of the kinds names an entity. -/
def NamedAs (diagnoses : List Diagnosis) (kinds : List DiagnosisType) (e : EntityId) : Prop :=
  ∃ d ∈ diagnoses, d.diagnosisType ∈ kinds ∧ d.Names e

instance (diagnoses : List Diagnosis) (kinds : List DiagnosisType) (e : EntityId) :
    Decidable (NamedAs diagnoses kinds e) :=
  inferInstanceAs (Decidable (∃ d ∈ diagnoses, d.diagnosisType ∈ kinds ∧ d.Names e))

section Troubled

variable (context : DiagnosisContext) (host : ManagedEntity)

/-- Whether Slurm said last that it does not use a node. -/
def unusedBySlurm : Bool :=
  SlurmRules.said context host "drained" false || SlurmRules.said context host "not_responding" false ||
    !SlurmRules.said context host "schedulable" true

/-- Whether a host that serves files was last seen not to export them. -/
def failsToExport : Bool :=
  (StorageService.portFailed context host ||
      (StorageService.exportsEmpty context host && StorageService.portAnswers context host)) &&
    Storage.servesAnyone context host.id

/-- Whether something is wrong on a host besides its network: the agent or SSH is
broken, or one of them works and what is scheduled or served there does not. -/
def Troubled : Bool :=
  context.isBroken host.id .agent || context.isBroken host.id .ssh ||
    ((context.isHealthy host.id .agent || context.isHealthy host.id .ssh) &&
      (unusedBySlurm context host || failsToExport context host))

end Troubled

variable {entityId : EntityKey → EntityId} {context : DiagnosisContext} {e : EntityId}

/-- A host rule of the monitor is the one that concludes its kind. -/
theorem namedAs_iff_of_rule {rule : HostRule} {kind : DiagnosisType}
    (hrule : (rule.toRule, [kind]) ∈ concludes entityId) :
    NamedAs (diagnose (builtinRules entityId) context) [kind] e ↔
      ∃ host ∈ context.entitiesOfType .host, host.id = e ∧ rule.applies context host = true := by
  rw [← HostRule.names_iff]
  constructor
  · rintro ⟨d, hd, hkind, hnames⟩
    exact ⟨d, (mem_diagnose_of_kind hrule hkind).mp hd, hnames⟩
  · rintro ⟨d, hd, hnames⟩
    have hkind := kind_mem_of_concludes _ hrule d hd
    exact ⟨d, (mem_diagnose_of_kind hrule hkind).mpr hd, hkind, hnames⟩

/-- The hosts found unreachable. -/
theorem namedAs_unreachable_iff :
    NamedAs (diagnose (builtinRules entityId) context) [Kind.hostUnreachable] e ↔
      ∃ host ∈ context.entitiesOfType .host, host.id = e ∧
        (verdictsOf context e).unanimouslyUnreachable = true := by
  have hrule : (hostUnreachable, [Kind.hostUnreachable]) ∈ concludes entityId := by simp [concludes]
  constructor
  · rintro ⟨d, hd, hkind, hnames⟩
    obtain ⟨host, hhost, hunanimous, rfl⟩ :=
      hostUnreachable.mem_evaluate.mp ((mem_diagnose_of_kind hrule hkind).mp hd)
    obtain rfl : e = host.id := List.mem_singleton.mp hnames
    exact ⟨host, hhost, rfl, hunanimous⟩
  · rintro ⟨host, hhost, rfl, hunanimous⟩
    have hkind : (hostUnreachable.diagnosis context host (verdictsOf context host.id)).diagnosisType ∈
        [Kind.hostUnreachable] := List.mem_singleton_self _
    refine ⟨_, (mem_diagnose_of_kind hrule hkind).mpr ?_, hkind, List.mem_singleton_self _⟩
    exact hostUnreachable.mem_evaluate.mpr ⟨host, hhost, hunanimous, rfl⟩

theorem namedAs_iff_exists {diagnoses : List Diagnosis} {kinds : List DiagnosisType} :
    NamedAs diagnoses kinds e ↔ ∃ kind ∈ kinds, NamedAs diagnoses [kind] e := by
  constructor
  · rintro ⟨d, hd, hkind, hnames⟩
    exact ⟨d.diagnosisType, hkind, d, hd, List.mem_singleton_self _, hnames⟩
  · rintro ⟨kind, hkind, d, hd, hsame, hnames⟩
    rw [← List.mem_singleton.mp hsame] at hkind
    exact ⟨d, hd, hkind, hnames⟩

/-- **Which hosts are presumed to be up**, of those no observers disagree about: the
ones the network reaches that have some other trouble. -/
theorem presumes_up_iff {host : ManagedEntity} (hhost : host ∈ context.entitiesOfType .host)
    (hagree : (verdictsOf context host.id).disagree = false) :
    NamedAs (diagnose (builtinRules entityId) context) presumesUp host.id ↔
      context.isHealthy host.id .network = true ∧ Troubled context host = true := by
  have hrule : ∀ {rule : HostRule} {kind : DiagnosisType},
      (rule.toRule, [kind]) ∈ concludes entityId →
      (NamedAs (diagnose (builtinRules entityId) context) [kind] host.id ↔
        rule.applies context host = true) := by
    intro rule kind hrule
    rw [namedAs_iff_of_rule hrule]
    constructor
    · rintro ⟨other, hother, hid, happlies⟩
      have hsame := (context.entity_of_mem hother).1
      rw [hid, (context.entity_of_mem hhost).1] at hsame
      rwa [Option.some.inj hsame]
    · exact fun happlies => ⟨host, hhost, rfl, happlies⟩
  have hverdicts : (verdictsByTarget context)[host.id]?.any Verdicts.disagree = false := by
    rw [Option.any_eq_false]
    intro v hv
    obtain ⟨-, rfl, -⟩ := getElem?_verdictsByTarget.mp hv
    rw [hagree]
  have hslurmd := hrule (show ((slurmdServiceFailure entityId).toRule, [Kind.slurmdServiceFailure]) ∈
    concludes entityId by simp [concludes])
  have hdegraded := hrule (show (slurmOnlyDegradation.toRule, [Kind.slurmOnlyDegradation]) ∈
    concludes entityId by simp [concludes])
  have hagent := hrule (show (sentinelAgentFailure.toRule, [Kind.sentinelAgentFailure]) ∈
    concludes entityId by simp [concludes])
  have hssh := hrule (show (sshServiceFailure.toRule, [Kind.sshServiceFailure]) ∈
    concludes entityId by simp [concludes])
  have hexports := hrule (show (storageServiceFailure.toRule, [Kind.nfsServiceFailure]) ∈
    concludes entityId by simp [concludes])
  rw [namedAs_iff_exists, presumesUp]
  simp only [List.exists_mem_cons_iff, List.not_mem_nil, false_and, exists_false, or_false,
    hslurmd, hdegraded, hagent, hssh, hexports]
  -- what is left is about the readings themselves
  simp only [slurmdServiceFailure, slurmOnlyDegradation, sentinelAgentFailure, sshServiceFailure,
    storageServiceFailure, Troubled, unusedBySlurm, failsToExport,
    DiagnosisContext.hostLooksHealthy, hverdicts]
  generalize context.isBroken host.id .agent = a, context.isBroken host.id .ssh = s
  generalize context.isHealthy host.id .agent = ah, context.isHealthy host.id .ssh = sh
  generalize context.isHealthy host.id .network = n
  generalize SlurmRules.said context host "drained" false = drained
  generalize SlurmRules.said context host "not_responding" false = silent
  generalize SlurmRules.said context host "schedulable" true = schedulable
  grind

namespace Controller

/-- **No host is found dead and up at once**, exactly when none that all observers
fail to reach still has its network healthy and some other trouble. -/
theorem never_dead_and_up_iff (entityId : EntityKey → EntityId) (controller : Controller)
    (reading : Reading) :
    (∀ e, ¬ (NamedAs (controller.diagnose reading entityId) [Kind.hostUnreachable] e ∧
      NamedAs (controller.diagnose reading entityId) presumesUp e)) ↔
    ∀ host ∈ (controller.diagnosisContext reading).entitiesOfType .host,
      (verdictsOf (controller.diagnosisContext reading) host.id).unanimouslyUnreachable = true →
      (controller.diagnosisContext reading).isHealthy host.id .network = true →
      Troubled (controller.diagnosisContext reading) host = false := by
  rw [diagnose]
  constructor
  · intro hnever host hhost hunanimous hnetwork
    rw [← Bool.not_eq_true]
    intro htroubled
    refine hnever host.id ⟨namedAs_unreachable_iff.mpr ⟨host, hhost, rfl, hunanimous⟩, ?_⟩
    exact (presumes_up_iff hhost (Verdicts.not_disagree_of_unanimous hunanimous)).mpr
      ⟨hnetwork, htroubled⟩
  · rintro hfine e ⟨hdead, hup⟩
    obtain ⟨host, hhost, rfl, hunanimous⟩ := namedAs_unreachable_iff.mp hdead
    obtain ⟨hnetwork, htroubled⟩ :=
      (presumes_up_iff hhost (Verdicts.not_disagree_of_unanimous hunanimous)).mp hup
    rw [hfine host hhost hunanimous hnetwork] at htroubled
    cases htroubled

/-- **A host that dies is reported as a dead agent as well**: its two observers have
just failed to reach it, and the network component has not moved yet. -/
theorem dead_and_up_within_debounce :
    let report (k : ℕ) (probe : ProbeId) (observer : ℕ) (status : ProbeStatus) : Observation :=
      ⟨⟨⟨k⟩⟩, probe, ⟨⟨1⟩⟩, some ⟨⟨observer⟩⟩, k, status, .null⟩
    let store : Store := ⟨[], ((Inventory.new.insertEntity (.new ⟨⟨1⟩⟩ .host "node-a")).insertEntity
      (.new ⟨⟨2⟩⟩ .host "node-b")).insertEntity (.new ⟨⟨3⟩⟩ .host "node-c"), [], [], fun _ => [], none⟩
    let reports := [report 1 probeNetwork 2 .ok, report 2 probeNetwork 3 .ok,
      report 3 probeNetwork 2 .ok, report 4 probeNetwork 3 .ok, report 5 probeAgent 2 .failed,
      report 6 probeAgent 2 .failed, report 7 probeAgent 2 .failed, report 8 probeNetwork 2 .failed,
      report 9 probeNetwork 3 .failed]
    ((start store 0 (fun _ => 0) [] fun _ => none).ingestObservationsRecorded 10 (fun _ => 10)
      reports).any (fun result =>
        let diagnoses := result.1.diagnose ⟨11, 11, "lab", ⟨∅, 60, none⟩, []⟩ fun _ => ⟨⟨0⟩⟩
        decide (NamedAs diagnoses [Kind.hostUnreachable] ⟨⟨1⟩⟩) &&
          decide (NamedAs diagnoses presumesUp ⟨⟨1⟩⟩)) = true := by
  decide +kernel

end Controller

end Sentinel
