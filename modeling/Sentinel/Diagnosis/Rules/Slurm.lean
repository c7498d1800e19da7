import Sentinel.Diagnosis.Rules.Reachability

/-!
# What Slurm says, and what is wrong

A drained node on a healthy host, a dead `slurmd` on a healthy host and a dead host
look alike to a monitor that only asks whether the node is usable.  The rules about
hosts demand positive evidence that the host is fine before they blame a service.

## Main definitions

* `slurmOnlyDegradation`, `slurmdServiceFailure`, `resourceConfigurationMismatch` —
  the rules about hosts.
* `slurmControlPlaneFailure` — the rule about schedulers.
-/

namespace Sentinel

namespace SlurmRules

variable (context : DiagnosisContext) (host : ManagedEntity)

/-- A boolean of what Slurm said last about a node. -/
def said (field : String) (default : Bool) : Bool :=
  (context.payloadBool host.id probeNode field).getD default

/-- Slurm's name for the state of a node. -/
def state : String := (context.payloadStr host.id probeNode "state").getD "不明"

/-- Look at a node with Slurm's own command. -/
def nodeDetails : String :=
  let recorded := ((host.metadata.get "slurm").bind fun slurm => slurm.get "node_name").bind Json.asStr
  let name := ((context.payloadStr host.id probeNode "node_name").or recorded).getD host.canonicalName
  Investigation.step "Slurmコマンドを使えるホスト"
    "State・Reason・ReasonTimeと登録リソースを確認してください"
    ("scontrol show node " ++ Investigation.quote name)

/-- The daemon of a host. -/
def slurmd (entityId : EntityKey → EntityId) : EntityId :=
  entityId ⟨context.environment, .service, "slurmd@" ++ host.canonicalName⟩

end SlurmRules

open SlurmRules

/-- The host is entirely healthy; only Slurm will not use it. -/
def slurmOnlyDegradation : HostRule where
  id := ⟨"slurm.only_degradation"⟩
  description := "the host is healthy but the scheduler will not schedule work on it"
  applies := fun context host =>
    said context host "drained" false && !said context host "not_responding" false &&
      context.hostLooksHealthy host.id
  kind := fun _ _ => Kind.slurmOnlyDegradation
  confidence := fun _ _ => .high
  roots := fun _ host => [host.id]
  summary := fun context host => host.canonicalName ++
    "のネットワークとagentまたはSSHから応答を得ています。Slurmの状態は" ++ state context host ++
    "で、新しいジョブの割り当てが停止されています。記録された理由は「" ++
    (context.payloadStr host.id probeNode "reason").getD "理由の記録なし" ++ "」です。"
  actions := fun context host => [
    nodeDetails context host,
    "ReasonとReasonTimeを計画作業の記録と照合してください。" ++
      "意図したDRAINか、異常を受けたDRAINかを確認してください。",
    Investigation.entity host,
    Investigation.step host.canonicalName
      "計画作業による停止でなければ、slurmdのログでDRAINの理由に関係するエラーを確認してください"
      "sudo journalctl -u slurmd -n 100 --no-pager"]

/-- The host is fine but `slurmd` has stopped talking to the controller.  A drain is a
decision, not a fault, and the other rule owns it. -/
def slurmdServiceFailure (entityId : EntityKey → EntityId) : HostRule where
  id := ⟨"slurm.slurmd_failure"⟩
  description := "the scheduler has lost contact with slurmd on a host that is otherwise healthy"
  applies := fun context host =>
    (said context host "not_responding" false ||
        (!said context host "schedulable" true && !said context host "drained" false)) &&
      context.hostLooksHealthy host.id &&
      -- where observers disagree, a path is broken, and it may be the daemon's
      !(verdictsByTarget context)[host.id]?.any Verdicts.disagree
  kind := fun _ _ => Kind.slurmdServiceFailure
  confidence := fun _ _ => .high
  roots := fun context host =>
    if (context.entity (slurmd context host entityId)).isNone then [host.id]
    else [slurmd context host entityId]
  summary := fun context host => host.canonicalName ++
    "のネットワークとagentまたはSSHから応答を得ていますが、Slurmでは" ++ state context host ++
    "のためジョブを割り当てられません。slurmdの応答・登録状態と、Slurmに記録された理由を確認してください。"
  actions := fun context host => [
    nodeDetails context host,
    Investigation.step host.canonicalName "slurmdが起動しているか、終了コードや起動失敗を確認してください"
      "sudo systemctl status slurmd --no-pager -l",
    Investigation.step host.canonicalName
      "controllerへの接続失敗、認証エラー、リソース登録エラーを確認してください"
      "sudo journalctl -u slurmd -n 100 --no-pager",
    Investigation.entity host,
    Investigation.observations host probeNode "Slurmの状態・理由・応答の有無と観測時刻を確認してください"]

/-! ### Resources -/

namespace ResourceMismatch

variable (context : DiagnosisContext) (host : ManagedEntity)

/-- A count Slurm was configured with, and the one the host reports; a side that does
not state it is no mismatch. -/
def counts (configured observed : String) : Option (ℕ × ℕ) := do
  let hardware ← host.metadata.get "hardware"
  let a ← context.payloadU64 host.id probeNode configured
  let b ← (hardware.get observed).bind Json.asU64
  return (a, b)

/-- The number of GPUs. -/
def gpus : Option (ℕ × ℕ) := counts context host "configured_gpu_count" "gpus"

/-- The number of CPUs. -/
def cpus : Option (ℕ × ℕ) := counts context host "cpu_total" "cpus"

/-- The mismatches: a different number of GPUs, or more CPUs than there are; that Slurm
uses fewer is a common choice. -/
def mismatches : List String :=
  ((gpus context host).filter fun n => n.1 ≠ n.2).toList.map (fun n =>
    "GPU数はSlurmの設定が" ++ toString n.1 ++ "台、ホストの報告が" ++ toString n.2 ++ "台") ++
  ((cpus context host).filter fun n => n.2 < n.1).toList.map (fun n =>
    "CPU数はSlurmの設定が" ++ toString n.1 ++ "個、ホストの報告が" ++ toString n.2 ++ "個")

end ResourceMismatch

open ResourceMismatch in
/-- What the scheduler has been told a node has does not match what it has. -/
def resourceConfigurationMismatch : HostRule where
  id := ⟨"slurm.resource_mismatch"⟩
  description := "a node's real hardware disagrees with the scheduler's configuration"
  applies := fun context host => !(mismatches context host).isEmpty
  kind := fun context host =>
    if (gpus context host).isSome ∧ (mismatches context host).length = 1 then
      Kind.gpuConfigurationMismatch
    else Kind.resourceConfigurationMismatch
  confidence := fun _ _ => .high
  roots := fun _ host => [host.id]
  summary := fun context host => host.canonicalName ++ "のリソース数に不一致があります。" ++
    "、".intercalate (mismatches context host) ++ "です。設定と実際の認識状態を照合してください。"
  actions := fun context host =>
    [nodeDetails context host, Investigation.entity host] ++
    (if (gpus context host).any (fun n => n.1 ≠ n.2) then
      [Investigation.step host.canonicalName
        "認識されているGPUの台数と型番を、SlurmのGres設定・gres.confと比較してください"
        "nvidia-smi --query-gpu=index,name,uuid --format=csv"]
    else []) ++
    (if (cpus context host).any (fun n => n.2 < n.1) then
      [Investigation.step host.canonicalName
        "CPU数とソケット・コア・スレッド構成を、Slurmの設定と比較してください" "lscpu"]
    else []) ++
    [Investigation.step host.canonicalName
      "リソース登録時の不一致やGPU認識に関するエラーを確認してください"
      "sudo journalctl -u slurmd -n 100 --no-pager"]

/-! ### The control plane -/

namespace ControlPlane

variable (context : DiagnosisContext) (scheduler : ManagedEntity)

/-- Whether a failure was reported; that nobody looked is no evidence of one. -/
def failed : Bool :=
  context.payloadBool scheduler.id probeController "up" = some false ||
    context.component scheduler.id .service = .unavailable

/-- The daemons that provide the scheduler. -/
def daemons : List EntityId :=
  (context.inventory.graph.dependenciesOf scheduler.id).map DependencyEdge.target

/-- What a daemon runs on. -/
def runsOn (daemon : EntityId) : List EntityId :=
  (context.inventory.graph.dependenciesOf daemon).map DependencyEdge.target

/-- Whether the host of some daemon is fine, so that the daemon is the problem. -/
def hostIsFine : Bool :=
  (daemons context scheduler).any fun daemon => (runsOn context daemon).any context.hostLooksHealthy

/-- Where the daemons are. -/
def location : String :=
  let hosts := ((((daemons context scheduler).flatMap (runsOn context)).filterMap context.entity).filter
    fun e => e.entityType = .host).map ManagedEntity.canonicalName
  if hosts.isEmpty then "Slurm controller"
  else "Slurm controller（" ++ "、".intercalate hosts.sortDedup ++ "）"

/-- What is concluded of a scheduler that failed. -/
def diagnosis : Diagnosis where
  diagnosisType := Kind.slurmControlPlaneFailure
  affectedEntities := [scheduler.id]
  suspectedRootEntities :=
    if (daemons context scheduler).isEmpty then [scheduler.id] else daemons context scheduler
  confidence := if hostIsFine context scheduler then .high else .medium
  evidence := context.evidenceFor scheduler.id ++
    (daemons context scheduler).flatMap context.evidenceFor
  ruleId := ⟨"slurm.control_plane_failure"⟩
  summary := "Slurmスケジューラ「" ++ scheduler.canonicalName ++
    "」から正常な応答を得られていません。ジョブの投入や割り当てに影響する可能性があります。" ++
    "slurmctldと、そのホストへの接続を確認してください。"
  recommendedActions := [
    Investigation.entity scheduler,
    Investigation.observations scheduler probeController "controllerの応答結果と観測時刻を確認してください",
    Investigation.step "Slurmコマンドを使えるホスト" "主系と待機系のcontrollerの応答を確認してください"
      "scontrol ping",
    Investigation.step (location context scheduler)
      "ホストに接続できる場合は、slurmctldの起動状態を確認してください"
      "sudo systemctl status slurmctld --no-pager -l",
    Investigation.step (location context scheduler)
      "設定の読み込み失敗、認証エラー、接続失敗を確認してください"
      "sudo journalctl -u slurmctld -n 100 --no-pager",
    "Slurm controllerのホストにも接続できない場合は、" ++
      "コンソールやBMCでホストとネットワークの状態を確認してください。"]

end ControlPlane

/-- The scheduler's control plane is impaired. -/
def slurmControlPlaneFailure : DiagnosisRule where
  id := ⟨"slurm.control_plane_failure"⟩
  description := "the Slurm control plane is unreachable or its daemon has failed"
  evaluate := fun context =>
    ((context.entitiesOfType .scheduler).filter (ControlPlane.failed context)).map
      (ControlPlane.diagnosis context)

end Sentinel
