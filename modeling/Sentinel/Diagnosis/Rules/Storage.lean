import Sentinel.Diagnosis.Investigation

/-!
# Storage: a fault at the server, or at one client

Several clients of one storage entity that fail together point at what they share;
one client that fails while its neighbours are fine points at the client.  Nothing
here names a protocol: the rules work on storage entities and the dependency graph,
along direct edges.

## Main definitions

* `Storage.storagesUsed`, `Storage.clientsOf`, `Storage.peers` — who uses what.
* `storageServiceFailure`, `sharedStorageFailure`, `clientLocalStorageFailure` — the
  rules.
-/

namespace Sentinel

namespace Storage

variable (context : DiagnosisContext)

/-- Whether anybody uses what a host serves: some other entity uses a storage that the
host provides. -/
def servesAnyone (host : EntityId) : Bool :=
  let edges := context.inventory.graph.edges
  let provided := (edges.filter fun edge =>
    edge.dependencyType = .provides && edge.target = host).map DependencyEdge.source
  edges.any fun edge =>
    edge.dependencyType = .usesStorage && edge.target ∈ provided && edge.source ≠ host

/-- The storages a host uses, from its own edges. -/
def storagesUsed (host : EntityId) : List EntityId :=
  (context.inventory.graph.dependenciesOfType host .usesStorage).map DependencyEdge.target

/-- The hosts that use a storage, from their own edges. -/
def clientsOf (storage : EntityId) : Std.ExtTreeSet EntityId :=
  .ofList (((context.inventory.graph.edges.filter fun edge =>
    edge.dependencyType = .usesStorage && edge.target = storage).map DependencyEdge.source).filter
      fun id => (context.entity id).any fun e => e.entityType = .host)

/-- Whether an entity's storage is impaired. -/
def isImpaired (entity : EntityId) : Bool :=
  context.component entity .storage = .degraded || context.component entity .storage = .unavailable

/-- The other clients of the storages a host uses. -/
def peers (host : EntityId) : Std.ExtTreeSet EntityId :=
  .ofList ((storagesUsed context host).flatMap fun storage =>
    (clientsOf context storage).toList.filter fun id => id ≠ host)

end Storage

open Storage

/-! ### The export service -/

namespace StorageService

variable (context : DiagnosisContext) (host : ManagedEntity)

/-- Whether the export port was found closed. -/
def portFailed : Bool := (context.observation host.id probeServerPort).any fun o => o.status.isBad

/-- Whether the export port answers. -/
def portAnswers : Bool := (context.observation host.id probeServerPort).any fun o => o.status = .ok

/-- Whether nothing is exported. -/
def exportsEmpty : Bool :=
  ((context.observation host.id probeServerExports).bind fun o =>
    (o.payload.get "export_count").bind Json.asU64).any fun count => count = 0

/-- The export port. -/
def port : ℕ :=
  ((context.observation host.id probeServerPort).bind fun o =>
    (o.payload.get "port").bind Json.asU64).getD 2049

/-- What is wrong. -/
def detail : String :=
  if portFailed context host && exportsEmpty context host then
    "NFSの接続確認に失敗し、公開設定の共有ディレクトリも0件です"
  else if portFailed context host then "NFSの接続確認に失敗しています"
  else "NFSのポートから応答を得ていますが、公開設定の共有ディレクトリが0件です。" ++
    "クライアントが共有にアクセスできない可能性があります"

end StorageService

open StorageService in
/-- A file server's export service has failed while the host itself is up.  An empty
export list is a fault only where something listens and somebody uses it. -/
def storageServiceFailure : HostRule where
  id := ⟨"storage.service_failure"⟩
  description := "a storage server's export service has failed while the host is still up"
  applies := fun context host =>
    (portFailed context host || (exportsEmpty context host && portAnswers context host)) &&
      servesAnyone context host.id && context.hostLooksHealthy host.id
  kind := fun _ _ => Kind.nfsServiceFailure
  confidence := fun _ _ => .high
  roots := fun _ host => [host.id]
  summary := fun context host => host.canonicalName ++
    "のネットワークとagentまたはSSHから応答を得ています。" ++ detail context host ++ "。"
  actions := fun context host => [
    Investigation.entity host,
    Investigation.observations host probeServerPort
      "NFSの接続先・ポート・結果・観測時刻を確認してください",
    Investigation.step host.canonicalName
      ("NFSサービスの起動状態を確認してください。" ++
        "サービス名がnfs-kernel-serverの環境ではnfs-serverを置き換えてください")
      "sudo systemctl status nfs-server --no-pager -l",
    Investigation.step host.canonicalName
      ("実際に公開されている共有ディレクトリと許可するクライアントを、" ++
        "/etc/exportsと/etc/exports.dの設定に照らして確認してください") "sudo exportfs -v",
    Investigation.step host.canonicalName "監視対象のNFSポートで待ち受けているプロセスを確認してください"
      ("sudo ss -lntp 'sport = :" ++ toString (port context host) ++ "'"),
    Investigation.step host.canonicalName "NFSサービスの直近のエラーを確認してください"
      "sudo journalctl -u nfs-server -u nfs-kernel-server -n 100 --no-pager"]

/-! ### Shared storage -/

namespace SharedStorage

variable (context : DiagnosisContext)

/-- The active hosts whose storage is impaired. -/
def impaired : List EntityId :=
  ((context.entitiesOfType .host).filter fun host => isImpaired context host.id).map ManagedEntity.id

/-- Put a host under a storage it uses. -/
def group (byStorage : Std.ExtTreeMap EntityId (Std.ExtTreeSet EntityId))
    (use : EntityId × EntityId) : Std.ExtTreeMap EntityId (Std.ExtTreeSet EntityId) :=
  byStorage.insert use.1 ((byStorage[use.1]?.getD ∅).insert use.2)

/-- The impaired hosts, by the storages they use. -/
def byStorage : Std.ExtTreeMap EntityId (Std.ExtTreeSet EntityId) :=
  ((impaired context).flatMap fun host =>
    (storagesUsed context host).map fun storage => (storage, host)).foldl group ∅

/-- What is concluded of a storage with several impaired clients. -/
def diagnosis (entity : ManagedEntity) (members : Std.ExtTreeSet EntityId) : Diagnosis :=
  let fine := (clientsOf context entity.id).toList.filter fun id => !members.contains id
  let providers := (context.inventory.graph.dependenciesOf entity.id).map DependencyEdge.target
  let names := "、".intercalate (context.names members.toList)
  { diagnosisType := Kind.sharedStorageFailure
    affectedEntities := members.toList ++ [entity.id]
    suspectedRootEntities := if providers.isEmpty then [entity.id] else providers
    -- every client affected is a much stronger signal than some of them
    confidence := if fine.isEmpty then .high else .medium
    evidence := context.evidenceFor entity.id ++ members.toList.flatMap context.evidenceFor
    ruleId := ⟨"storage.shared_failure"⟩
    summary := "共有ストレージ「" ++ entity.canonicalName ++ "」を使う" ++ toString members.size ++
      "台で、アクセスの異常を検出しています。対象は" ++ names ++
      "です。共有元のサーバーや共通の接続経路を確認してください。"
    recommendedActions := [
      Investigation.entity entity,
      Investigation.step "Sentinel controller"
        "共有ストレージの提供元と影響を受けるホストを確認してください"
        (Investigation.sentinel "dependency list"),
      "提供元ホストのネットワーク・NFSポート・公開設定を確認してください。" ++
        "複数のクライアントから同じ共有に接続できない場合は、共有元と共通のネットワーク経路を調べてください。",
      Investigation.step ("影響を受けたホスト（" ++ names ++ "）")
        ("NFSの接続先とマウント設定を比較してください。" ++
          "異常が報告されていないホストがあれば、その設定とも比較してください") "cat /proc/1/mounts",
      Investigation.step ("影響を受けたホスト（" ++ names ++ "）")
        "NFSの応答待ち、接続失敗、I/Oエラーの記録を確認してください"
        "sudo journalctl -k -n 100 --no-pager"] }

end SharedStorage

open SharedStorage in
/-- Several clients of one storage are impaired at the same time.  One client is not a
pattern, and what the impaired hosts use decides, not what the graph can reach. -/
def sharedStorageFailure : DiagnosisRule where
  id := ⟨"storage.shared_failure"⟩
  description := "several clients of the same storage are impaired together"
  evaluate := fun context =>
    if (impaired context).length < 2 then []
    else
      (byStorage context).toList.filterMap fun entry =>
        if entry.2.size ≤ 1 then none
        else
          ((context.entity entry.1).filter fun entity => entity.entityType = .storage).map
            fun entity => diagnosis context entity entry.2

/-! ### One client -/

/-- One client's storage access is broken while its neighbours are fine.  Without
neighbours there is nothing to compare with, and with one that is impaired as well the
shared rule owns it. -/
def clientLocalStorageFailure : HostRule where
  id := ⟨"storage.client_local_failure"⟩
  description := "one client's storage is impaired while others on the same storage are fine"
  applies := fun context host =>
    isImpaired context host.id && !(storagesUsed context host.id).isEmpty &&
      !(peers context host.id).isEmpty && !(peers context host.id).toList.any (isImpaired context)
  kind := fun _ _ => Kind.nfsClientFailure
  confidence := fun _ _ => .high
  roots := fun _ host => [host.id]
  summary := fun context host => host.canonicalName ++ "で共有ストレージ「" ++
    "、".intercalate (context.names (storagesUsed context host.id)) ++
    "」へのアクセスに異常を検出しています。同じ共有を使う" ++
    "、".intercalate (context.names (peers context host.id).toList) ++
    "には、同じ異常が報告されていません。対象ホストのマウント設定と接続経路を確認してください。"
  actions := fun context host =>
    [Investigation.entity host,
      Investigation.step host.canonicalName
        "NFSの接続先とマウント設定を、同じ共有を使う他のホストと比較してください" "cat /proc/1/mounts",
      Investigation.step host.canonicalName
        "NFSの応答待ち、接続失敗、I/Oエラーの記録を確認してください"
        "sudo journalctl -k -n 100 --no-pager"] ++
    (if (context.observation host.id probeClientIo).any (fun o =>
        o.status = .stuck || o.status = .timeout) then
      ["I/O検査が完了していません。応答しないマウント先へのlsやdfを繰り返すと、" ++
          "応答待ちのプロセスが増える場合があります。まず以下の情報で待ちの状態を調べてください。",
        Investigation.step host.canonicalName "STATがDのプロセスと待機先を確認してください"
          "ps -eo pid,stat,wchan:32,comm",
        Investigation.step host.canonicalName
          ("待機中のプロセスのスタックを確認してください。" ++
            "<PID>は上で確認した数値に置き換えてください") "sudo cat /proc/<PID>/stack"]
    else [])

end Sentinel
