import Sentinel.Diagnosis.Investigation

/-!
# Reachability: what several viewpoints together can justify

With one observer, "I cannot reach it" may mean a dead host or a broken path.  With
several independent ones, all of them failing says that nothing answers, and some of
them failing that a path is broken.

## Main definitions

* `Verdicts`, `verdictsByTarget` — what the remote observers of a host saw last.
* `hostUnreachable`, `pathSpecificNetworkFailure` — the rules.

## Main results

* `getElem?_verdictsByTarget` — the hosts somebody has a view of.
* `hostUnreachable.mem_evaluate` — when a host is found unreachable.
-/

namespace Sentinel

/-- What the observers of one target saw. -/
structure Verdicts where
  /-- Observers that reached the target. -/
  reached : Std.ExtTreeSet EntityId
  /-- Observers whose connection was completed, as opposed to refused. -/
  connected : Std.ExtTreeSet EntityId
  /-- Observers that did not reach it. -/
  failed : Std.ExtTreeSet EntityId

/-- Whether an observation says that the target answered; a refusal is an answer. -/
def hasReached (o : Observation) : Bool :=
  ((o.payload.get "host_responded").bind Json.asBool).getD (!o.status.isBad)

/-- Whether an observation says that the connection completed. -/
def hasConnected (o : Observation) : Bool :=
  (((o.payload.get "outcome").bind Json.asStr).map fun outcome => decide (outcome = "connected")).getD
    (!o.status.isBad)

/-- Whether an observation of a host counts: it is a conclusive one of the network, and
made by somebody else. -/
def remoteView (host : EntityId) (o : Observation) : Option EntityId :=
  if o.probeId ≠ probeNetwork ∨ !o.status.isConclusive then none
  else o.observerEntity.filter fun observer => observer ≠ host

namespace Verdicts

/-- Nobody has a view. -/
def none : Verdicts := ⟨∅, ∅, ∅⟩

/-- How many observers expressed a view. -/
def total (v : Verdicts) : ℕ := v.reached.size + v.failed.size

/-- Whether every observer failed, and there was more than one. -/
def unanimouslyUnreachable (v : Verdicts) : Bool := 2 ≤ v.failed.size && v.reached.isEmpty

/-- Whether observers disagree, which localises the fault to a path. -/
def disagree (v : Verdicts) : Bool := !v.failed.isEmpty && !v.reached.isEmpty

/-- Whether the disagreement is about a working connection. -/
def disagreeAboutAWorkingPath (v : Verdicts) : Bool := v.disagree && !v.connected.isEmpty

/-- Count one observation of a host. -/
def add (host : EntityId) (v : Verdicts) (o : Observation) : Verdicts :=
  match remoteView host o with
  | .none => v
  | some observer =>
    if hasReached o then
      { v with
        reached := v.reached.insert observer
        connected := if hasConnected o then v.connected.insert observer else v.connected }
    else { v with failed := v.failed.insert observer }

end Verdicts

/-- What the observers of one host saw last. -/
def verdictsOf (context : DiagnosisContext) (host : EntityId) : Verdicts :=
  (context.observations.forEntity host).foldl (Verdicts.add host) .none

/-- The observers' last verdicts on each active host somebody has a view of. -/
def verdictsByTarget (context : DiagnosisContext) : Std.ExtTreeMap EntityId Verdicts :=
  (context.entitiesOfType .host).foldl
    (fun byTarget host =>
      if 0 < (verdictsOf context host.id).total then
        byTarget.insert host.id (verdictsOf context host.id)
      else byTarget) ∅

theorem getElem?_foldl_verdicts (context : DiagnosisContext) (target : EntityId) (hosts : List ManagedEntity) :
    ∀ byTarget : Std.ExtTreeMap EntityId Verdicts,
      (hosts.foldl (fun byTarget host =>
        if 0 < (verdictsOf context host.id).total then
          byTarget.insert host.id (verdictsOf context host.id)
        else byTarget) byTarget)[target]? =
      if (∃ host ∈ hosts, host.id = target) ∧ 0 < (verdictsOf context target).total then
        some (verdictsOf context target)
      else byTarget[target]? := by
  induction hosts with
  | nil => intro byTarget; simp
  | cons host hosts ih =>
    intro byTarget
    rw [List.foldl_cons, ih]
    by_cases htarget : host.id = target
    · subst htarget
      by_cases htotal : 0 < (verdictsOf context host.id).total
      · simp [htotal]
      · simp [htotal]
    · have hexists : (∃ other ∈ host :: hosts, other.id = target) ↔
          ∃ other ∈ hosts, other.id = target := by simp [htarget]
      have hkeep : (if 0 < (verdictsOf context host.id).total then
          byTarget.insert host.id (verdictsOf context host.id) else byTarget)[target]? =
          byTarget[target]? := by
        split
        · rw [Std.ExtTreeMap.getElem?_insert_eq, if_neg htarget]
        · rfl
      simp only [hexists, hkeep]

/-- The hosts somebody has a view of, with what they saw. -/
theorem getElem?_verdictsByTarget {context : DiagnosisContext} {target : EntityId} {v : Verdicts} :
    (verdictsByTarget context)[target]? = some v ↔
      (∃ host ∈ context.entitiesOfType .host, host.id = target) ∧
        verdictsOf context target = v ∧ 0 < v.total := by
  rw [verdictsByTarget, getElem?_foldl_verdicts]
  constructor
  · intro h
    split at h
    · next hhost =>
      obtain rfl := Option.some.inj h
      exact ⟨hhost.1, rfl, hhost.2⟩
    · simp at h
  · rintro ⟨hhost, rfl, htotal⟩
    rw [if_pos ⟨hhost, htotal⟩]

theorem Verdicts.total_pos_of_unanimous {v : Verdicts} (h : v.unanimouslyUnreachable = true) :
    0 < v.total := by
  rw [unanimouslyUnreachable, Bool.and_eq_true, decide_eq_true_iff] at h
  rw [total]
  omega

/-- Where all observers failed, none disagrees. -/
theorem Verdicts.not_disagree_of_unanimous {v : Verdicts} (h : v.unanimouslyUnreachable = true) :
    v.disagree = false := by
  rw [unanimouslyUnreachable, Bool.and_eq_true] at h
  simp [disagree, h.2]

/-! ### The rules -/

/-- What nobody can reach. -/
def hostUnreachable.diagnosis (context : DiagnosisContext) (entity : ManagedEntity)
    (verdicts : Verdicts) : Diagnosis where
  diagnosisType := Kind.hostUnreachable
  affectedEntities := [entity.id]
  suspectedRootEntities := [entity.id]
  confidence := .high
  evidence := context.evidenceFor entity.id
  ruleId := ⟨"reachability.host_unreachable"⟩
  summary := entity.canonicalName ++ "について、観測した" ++ toString verdicts.failed.size ++
    "か所すべてからネットワーク応答を得られていません。電源の状態は、この結果だけでは分かりません。"
  recommendedActions := [
    Investigation.entity entity,
    Investigation.observations entity probeNetwork
      "監視元ごとの接続先・ポート・結果・観測時刻を確認してください",
    entity.canonicalName ++ "のコンソールやBMCで、電源状態、OSの応答、NICのリンク状態を確認してください。" ++
      "BMCにも接続できない場合は、管理ネットワークや共通のスイッチの状態を確認してください。"]

/-- Nothing can reach the host. -/
def hostUnreachable : DiagnosisRule where
  id := ⟨"reachability.host_unreachable"⟩
  description := "no independent observer can reach the host"
  evaluate := fun context =>
    (verdictsByTarget context).toList.filterMap fun entry =>
      if entry.2.unanimouslyUnreachable then
        (context.entity entry.1).map fun entity => hostUnreachable.diagnosis context entity entry.2
      else none

/-- **A host is found unreachable** exactly when all of at least two remote observers
failed. -/
theorem hostUnreachable.mem_evaluate {context : DiagnosisContext} {d : Diagnosis} :
    d ∈ hostUnreachable.evaluate context ↔
      ∃ host ∈ context.entitiesOfType .host,
        (verdictsOf context host.id).unanimouslyUnreachable = true ∧
        hostUnreachable.diagnosis context host (verdictsOf context host.id) = d := by
  rw [hostUnreachable, List.mem_filterMap]
  constructor
  · rintro ⟨⟨target, v⟩, hentry, hd⟩
    split at hd
    · next hunanimous =>
      obtain ⟨entity, hentity, rfl⟩ := Option.map_eq_some_iff.mp hd
      rw [Std.ExtTreeMap.mem_toList_iff_getElem?_eq_some] at hentry
      obtain ⟨⟨host, hhost, rfl⟩, rfl, -⟩ := getElem?_verdictsByTarget.mp hentry
      have hsame := (context.entity_of_mem hhost).1
      rw [hsame, Option.some.injEq] at hentity
      subst hentity
      exact ⟨host, hhost, hunanimous, rfl⟩
    · cases hd
  · rintro ⟨host, hhost, hunanimous, rfl⟩
    refine ⟨(host.id, verdictsOf context host.id), ?_, ?_⟩
    · rw [Std.ExtTreeMap.mem_toList_iff_getElem?_eq_some]
      exact getElem?_verdictsByTarget.mpr
        ⟨⟨host, hhost, rfl⟩, rfl, Verdicts.total_pos_of_unanimous hunanimous⟩
    · rw [if_pos hunanimous, (context.entity_of_mem hhost).1]
      rfl

/-- What some observers reach and others do not. -/
def pathSpecificNetworkFailure.diagnosis (context : DiagnosisContext) (entity : ManagedEntity)
    (verdicts : Verdicts) : Diagnosis :=
  let blind := "、".intercalate (context.names verdicts.failed.toList)
  let seeing := "、".intercalate (context.names verdicts.connected.toList)
  { diagnosisType := Kind.pathSpecificNetworkFailure
    affectedEntities := [entity.id]
    -- the path is at fault, so both ends are implicated
    suspectedRootEntities := verdicts.failed.toList ++ [entity.id]
    confidence := .high
    evidence := context.evidenceFor entity.id
    ruleId := ⟨"reachability.path_failure"⟩
    summary := entity.canonicalName ++ "には" ++ seeing ++ "から接続できますが、" ++ blind ++
      "からは接続できません。監視元によって結果が異なるため、接続できない側のネットワーク経路を確認してください。"
    recommendedActions := [
      Investigation.entity entity,
      Investigation.observations entity probeNetwork
        "接続できる監視元とできない監視元の接続先・ポート・結果・観測時刻を比較してください",
      Investigation.step "Sentinel controller" "peerの最終応答時刻と監視状態を確認してください"
        (Investigation.sentinel "peers"),
      Investigation.step ("接続に失敗している監視元（" ++ blind ++ "）")
        "IPアドレス、インターフェースの状態、対象ホストへの経路を確認してください" "ip -br address\nip route",
      "接続できない監視元から" ++ entity.canonicalName ++
        "までのファイアウォール・VLAN・スイッチ設定を、接続できる監視元と比較してください。" ++
        "接続先アドレスとポートは、上の観測結果を使ってください。"] }

/-- Some observers reach the host and others do not. -/
def pathSpecificNetworkFailure : DiagnosisRule where
  id := ⟨"reachability.path_failure"⟩
  description := "some observers reach the host and others do not, so the path is at fault"
  evaluate := fun context =>
    (verdictsByTarget context).toList.filterMap fun entry =>
      if entry.2.disagreeAboutAWorkingPath then
        (context.entity entry.1).map fun entity =>
          pathSpecificNetworkFailure.diagnosis context entity entry.2
      else none

end Sentinel
