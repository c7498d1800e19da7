import Sentinel.Diagnosis.Investigation

/-!
# Services: one thing on a host is broken, and the host is not

Both rules require positive evidence that the host answers by some other means.

## Main definitions

* `sentinelAgentFailure`, `sshServiceFailure` — the rules.
-/

namespace Sentinel

/-- The agent has stopped while its host keeps answering. -/
def sentinelAgentFailure : HostRule where
  id := ⟨"service.sentinel_agent_failure"⟩
  description := "the Sentinel agent is not answering on a host that is otherwise healthy"
  applies := fun context host =>
    context.isBroken host.id .agent && context.isHealthy host.id .network &&
      -- with SSH down as well, something larger is happening
      !context.isBroken host.id .ssh
  kind := fun _ _ => Kind.sentinelAgentFailure
  confidence := fun _ _ => .high
  roots := fun _ host => [host.id]
  summary := fun _ host => host.canonicalName ++
    "からネットワーク経由で応答を得ていますが、Sentinel agentから正常な応答を得られていません。" ++
    "ホスト内の状態を取得できない可能性があります。"
  actions := fun _ host => [
    Investigation.entity host,
    Investigation.step host.canonicalName "agentが起動しているか、終了コードや起動失敗を確認してください"
      "sudo systemctl status sentinel-agent --no-pager -l",
    Investigation.step host.canonicalName
      "直近のログで設定の読み込み失敗、認証エラー、待受アドレスを確認してください"
      "sudo journalctl -u sentinel-agent -n 100 --no-pager",
    Investigation.step host.canonicalName
      "controllerに登録されたagentの接続先と実際の待受アドレス・ポートを比較してください" "sudo ss -lntp"]

/-- SSH has stopped while its host keeps answering. -/
def sshServiceFailure : HostRule where
  id := ⟨"service.ssh_failure"⟩
  description := "SSH is not answering on a host that is otherwise healthy"
  applies := fun context host =>
    context.isBroken host.id .ssh && context.isHealthy host.id .network
  kind := fun _ _ => Kind.sshServiceFailure
  -- a host without an agent is diagnosed from reachability alone
  confidence := fun context host => if context.isHealthy host.id .agent then .high else .medium
  roots := fun _ host => [host.id]
  summary := fun context host => host.canonicalName ++ "のSSH接続に失敗しています。" ++
    (if context.isHealthy host.id .agent then "Sentinel agentからは正常な応答を得られています"
      else "ネットワーク経由でホストからの応答は確認できています") ++
    "。SSHサービスと接続経路を確認してください。"
  actions := fun _ host => [
    Investigation.entity host,
    host.canonicalName ++ "にSSHで入れない場合は、コンソールやBMCからログインしてください。" ++
      "以下のホスト上の確認は、その接続先で行ってください。",
    Investigation.step host.canonicalName
      "SSHサービスの状態を確認してください。サービス名がsshの環境ではsshdをsshに置き換えてください"
      "sudo systemctl status sshd --no-pager -l",
    Investigation.step host.canonicalName "SSHの起動失敗や接続拒否の記録を確認してください"
      "sudo journalctl -u sshd -u ssh -n 100 --no-pager",
    Investigation.step host.canonicalName
      "実際のSSH待受ポートを確認し、controllerの接続先設定と比較してください" "sudo ss -lntp"]

end Sentinel
