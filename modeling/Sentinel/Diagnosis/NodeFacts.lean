import Sentinel.Diagnosis.Resources

/-!
# What the Slurm rules read

The rules about hosts read the last observation of a node and what the monitor makes of the
host, and of a node's record they show no more than its state, the reason given, its
counts and its name.  Two contexts that show the same of every node and agree on the rest
lead to the same conclusions, whatever observations these cite.

## Main definitions

* `Diagnosis.conclusion` — a diagnosis without the observations it cites.
* `slurmRules` — the rules about Slurm.
* `NodeFacts`, `NodeFacts.shown` — what is read of a node, and what of it is shown.
* `factsOf` — what is read of what was written of a node.
* `SameFacts` — contexts that tell the rules the same.

## Main results

* `SameFacts.concluded_eq` — **contexts that tell the rules the same lead to the same
  conclusions.**
-/

namespace Sentinel

/-- A diagnosis without the observations it cites, which are others in every cycle. -/
def Diagnosis.conclusion (d : Diagnosis) : Diagnosis := { d with evidence := [] }

/-- What a rule concludes, whatever it cites. -/
def DiagnosisRule.concluded (rule : DiagnosisRule) (context : DiagnosisContext) : List Diagnosis :=
  (rule.evaluate context).map Diagnosis.conclusion

/-- The rules about Slurm. -/
def slurmRules (entityId : EntityKey → EntityId) : List DiagnosisRule :=
  [slurmOnlyDegradation.toRule, (slurmdServiceFailure entityId).toRule, slurmControlPlaneFailure,
    resourceConfigurationMismatch.toRule]

namespace SlurmRules

/-! ### Nodes -/

/-- What the rules read of a node's record, with what stands for a field that is missing. -/
structure NodeFacts where
  /-- Whether it is drained. -/
  drained : Bool
  /-- Whether its daemon is silent. -/
  notResponding : Bool
  /-- Whether Slurm uses it. -/
  schedulable : Bool
  /-- Its state. -/
  state : String
  /-- Why it is drained. -/
  reason : String
  /-- Its name. -/
  name : Option String
  /-- How many GPUs it was configured with. -/
  gpus : Option ℕ
  /-- How many CPUs it was configured with. -/
  cpus : Option ℕ
  deriving DecidableEq, Repr

/-- What the rules read of the last observation of a host's node. -/
def facts (context : DiagnosisContext) (host : EntityId) : NodeFacts where
  drained := (context.payloadBool host probeNode "drained").getD false
  notResponding := (context.payloadBool host probeNode "not_responding").getD false
  schedulable := (context.payloadBool host probeNode "schedulable").getD true
  state := (context.payloadStr host probeNode "state").getD "不明"
  reason := (context.payloadStr host probeNode "reason").getD "理由の記録なし"
  name := context.payloadStr host probeNode "node_name"
  gpus := context.payloadU64 host probeNode "configured_gpu_count"
  cpus := context.payloadU64 host probeNode "cpu_total"

/-- What the rules read of what was written of a node, if anything was. -/
def factsOf (payload : Option Json) : NodeFacts where
  drained := ((payload.bind fun p => p.get "drained").bind Json.asBool).getD false
  notResponding := ((payload.bind fun p => p.get "not_responding").bind Json.asBool).getD false
  schedulable := ((payload.bind fun p => p.get "schedulable").bind Json.asBool).getD true
  state := ((payload.bind fun p => p.get "state").bind Json.asStr).getD "不明"
  reason := ((payload.bind fun p => p.get "reason").bind Json.asStr).getD "理由の記録なし"
  name := (payload.bind fun p => p.get "node_name").bind Json.asStr
  gpus := (payload.bind fun p => p.get "configured_gpu_count").bind Json.asU64
  cpus := (payload.bind fun p => p.get "cpu_total").bind Json.asU64

/-- The last observation of a host's node is read for what was written of it. -/
theorem facts_eq_factsOf (context : DiagnosisContext) (host : EntityId) :
    facts context host = factsOf ((context.observation host probeNode).map Observation.payload) := by
  unfold facts factsOf DiagnosisContext.payloadBool DiagnosisContext.payloadStr DiagnosisContext.payloadU64
    DiagnosisContext.payload
  cases context.observation host probeNode <;> rfl

/-- What is shown of a node. -/
structure Shown where
  /-- What is said of it where its host is healthy. -/
  complaint : Option (DiagnosisType × String)
  /-- The GPUs it was configured with. -/
  gpus : Option ℕ
  /-- The CPUs, unless there are none that could be missing. -/
  cpus : Option ℕ
  /-- Its name as a shell argument, where there is something to look at. -/
  argument : Option (Option String)
  deriving DecidableEq, Repr

namespace NodeFacts

variable (f : NodeFacts)

/-- What is said of a node where its host is healthy: that it is drained, in which state and
why, or else that its daemon has failed. -/
def complaint : Option (DiagnosisType × String) :=
  if f.drained && !f.notResponding then
    some (Kind.slurmOnlyDegradation,
      f.state ++ "で、新しいジョブの割り当てが停止されています。記録された理由は「" ++ f.reason)
  else if f.notResponding || (!f.schedulable && !f.drained) then
    some (Kind.slurmdServiceFailure, f.state)
  else none

variable {f} {text : String}

theorem complaint_eq_drained : f.complaint = some (Kind.slurmOnlyDegradation, text) ↔
    (f.drained && !f.notResponding) = true ∧
      f.state ++ "で、新しいジョブの割り当てが停止されています。記録された理由は「" ++ f.reason = text := by
  have hne : Kind.slurmdServiceFailure ≠ Kind.slurmOnlyDegradation := by decide
  rw [complaint]
  split
  · next h => simp [h]
  · next h =>
    split
    · simp [h, hne]
    · simp [h]

theorem complaint_eq_failed : f.complaint = some (Kind.slurmdServiceFailure, text) ↔
    (f.notResponding || (!f.schedulable && !f.drained)) = true ∧ f.state = text := by
  have hne : Kind.slurmOnlyDegradation ≠ Kind.slurmdServiceFailure := by decide
  rw [complaint]
  split
  · next h =>
    -- a drained node that answers is the other rule's business
    rw [Bool.and_eq_true, Bool.not_eq_true'] at h
    simp [h, hne]
  · split
    · next h => simp [h]
    · next h => simp [h]

variable (f)

/-- The CPUs a host could lack. -/
def countedCpus : Option ℕ := f.cpus.filter fun n => 0 < n

/-- What the rules can show of a node. -/
def shown : Shown where
  complaint := f.complaint
  gpus := f.gpus
  cpus := f.countedCpus
  argument :=
    if f.complaint.isSome || f.gpus.isSome || f.countedCpus.isSome then
      some (f.name.map Investigation.quote)
    else none

end NodeFacts

end SlurmRules

open SlurmRules

/-! ### Rules about hosts -/

section HostRules

variable {context context' : DiagnosisContext} {host : ManagedEntity}

/-- A rule about hosts concludes the same where it applies to the same hosts and says the
same of them. -/
theorem HostRule.concluded_congr {rule : HostRule}
    (hhosts : context'.entitiesOfType .host = context.entitiesOfType .host)
    (h : ∀ host ∈ context.entitiesOfType .host, rule.applies context' host = rule.applies context host ∧
      (rule.applies context host = true →
        (rule.diagnosis context' host).conclusion = (rule.diagnosis context host).conclusion)) :
    rule.toRule.concluded context' = rule.toRule.concluded context := by
  have hfilter : (context.entitiesOfType .host).filter (rule.applies context') =
      (context.entitiesOfType .host).filter (rule.applies context) :=
    List.filter_congr fun host hhost => (h host hhost).1
  rw [DiagnosisRule.concluded, DiagnosisRule.concluded, toRule, List.map_map, List.map_map, hhosts, hfilter]
  refine List.map_congr_left fun host hhost => ?_
  obtain ⟨hmem, happlies⟩ := List.mem_filter.mp hhost
  exact (h host hmem).2 happlies

/-- What a rule about hosts concludes, from what it says of the host. -/
theorem HostRule.conclusion_congr {rule : HostRule} (hkind : rule.kind context' host = rule.kind context host)
    (hconfidence : rule.confidence context' host = rule.confidence context host)
    (hroots : rule.roots context' host = rule.roots context host)
    (hsummary : rule.summary context' host = rule.summary context host)
    (hactions : rule.actions context' host = rule.actions context host) :
    (rule.diagnosis context' host).conclusion = (rule.diagnosis context host).conclusion := by
  simp only [diagnosis, Diagnosis.conclusion, hkind, hconfidence, hroots, hsummary, hactions]

theorem slurmOnlyDegradation_applies :
    slurmOnlyDegradation.applies context host = true ↔
      (∃ text, (facts context host.id).complaint = some (Kind.slurmOnlyDegradation, text)) ∧
        context.hostLooksHealthy host.id = true := by
  simp only [NodeFacts.complaint_eq_drained, exists_and_left, exists_eq', and_true]
  rw [← Bool.and_eq_true]
  rfl

/-- What is said of a drained node. -/
theorem slurmOnlyDegradation_summary {text : String}
    (h : (facts context host.id).complaint = some (Kind.slurmOnlyDegradation, text)) :
    slurmOnlyDegradation.summary context host = host.canonicalName ++
      "のネットワークとagentまたはSSHから応答を得ています。Slurmの状態は" ++ text ++ "」です。" := by
  rw [← (NodeFacts.complaint_eq_drained.mp h).2]
  simp only [slurmOnlyDegradation, state, facts, String.append_assoc]

theorem slurmdServiceFailure_applies {entityId : EntityKey → EntityId} :
    (slurmdServiceFailure entityId).applies context host = true ↔
      ((∃ text, (facts context host.id).complaint = some (Kind.slurmdServiceFailure, text)) ∧
        context.hostLooksHealthy host.id = true) ∧
        (!(verdictsByTarget context)[host.id]?.any Verdicts.disagree) = true := by
  simp only [NodeFacts.complaint_eq_failed, exists_and_left, exists_eq', and_true]
  rw [← Bool.and_eq_true, ← Bool.and_eq_true]
  rfl

/-- What is said of a node whose daemon has failed. -/
theorem slurmdServiceFailure_summary {entityId : EntityKey → EntityId} {text : String}
    (h : (facts context host.id).complaint = some (Kind.slurmdServiceFailure, text)) :
    (slurmdServiceFailure entityId).summary context host = host.canonicalName ++
      "のネットワークとagentまたはSSHから応答を得ていますが、Slurmでは" ++ text ++
      "のためジョブを割り当てられません。slurmdの応答・登録状態と、Slurmに記録された理由を確認してください。" := by
  rw [← (NodeFacts.complaint_eq_failed.mp h).2]
  rfl

theorem nodeDetails_congr (h : (facts context' host.id).name.map Investigation.quote =
    (facts context host.id).name.map Investigation.quote) :
    nodeDetails context' host = nodeDetails context host := by
  simp only [facts] at h
  unfold nodeDetails
  cases hname : context.payloadStr host.id probeNode "node_name" with
  | none =>
    rw [hname, Option.map_none, Option.map_eq_none_iff] at h
    rw [h]
  | some name =>
    rw [hname, Option.map_some, Option.map_eq_some_iff] at h
    obtain ⟨name', hname', hquote⟩ := h
    rw [hname']
    exact congrArg (fun argument => Investigation.step _ _ ("scontrol show node " ++ argument)) hquote

/-- The CPUs a host lacks, from those it could lack. -/
theorem filter_cpus : (ResourceMismatch.cpus context host).filter (fun n => n.2 < n.1) =
    ((host.metadata.get "hardware").bind fun hardware => (facts context host.id).countedCpus.bind fun a =>
      ((hardware.get "cpus").bind Json.asU64).map fun b => (a, b)).filter fun n => n.2 < n.1 := by
  change ((host.metadata.get "hardware").bind fun hardware =>
    (context.payloadU64 host.id probeNode "cpu_total").bind fun a =>
      ((hardware.get "cpus").bind Json.asU64).bind fun b => some (a, b)).filter _ =
    ((host.metadata.get "hardware").bind fun hardware =>
      ((context.payloadU64 host.id probeNode "cpu_total").filter fun n => 0 < n).bind fun a =>
        ((hardware.get "cpus").bind Json.asU64).map fun b => (a, b)).filter _
  cases host.metadata.get "hardware" with
  | none => rfl
  | some hardware =>
    cases context.payloadU64 host.id probeNode "cpu_total" with
    | none => rfl
    | some configured =>
      rw [Option.bind_some, Option.bind_some, Option.bind_some]
      generalize (hardware.get "cpus").bind Json.asU64 = observed
      rcases Nat.eq_zero_or_pos configured with rfl | hpos
      · cases observed <;> rfl
      · rw [Option.filter_some, if_pos (decide_eq_true hpos), Option.bind_some]
        cases observed <;> rfl

open ResourceMismatch in
/-- The GPUs of a host that reports them differ from those of its node. -/
theorem gpusDiffer_iff : GpusDiffer context host ↔ ∃ hardware ∈ host.metadata.get "hardware",
    ∃ a ∈ (facts context host.id).gpus, ∃ b ∈ (hardware.get "gpus").bind Json.asU64, a ≠ b := by
  change (∃ n ∈ (host.metadata.get "hardware").bind fun hardware =>
    (facts context host.id).gpus.bind fun a =>
      ((hardware.get "gpus").bind Json.asU64).bind fun b => some (a, b), n.1 ≠ n.2) ↔ _
  simp only [Option.mem_def, Option.bind_eq_some_iff, Option.some.injEq]
  constructor
  · rintro ⟨_, ⟨hardware, hhardware, a, ha, b, hb, rfl⟩, hne⟩
    exact ⟨hardware, hhardware, a, ha, b, hb, hne⟩
  · rintro ⟨hardware, hhardware, a, ha, b, hb, hne⟩
    exact ⟨(a, b), ⟨hardware, hhardware, a, ha, b, hb, rfl⟩, hne⟩

open ResourceMismatch in
/-- The CPUs of a host that reports them are fewer than those of its node. -/
theorem cpusExceed_iff : CpusExceed context host ↔ ∃ hardware ∈ host.metadata.get "hardware",
    ∃ a ∈ (facts context host.id).countedCpus, ∃ b ∈ (hardware.get "cpus").bind Json.asU64, b < a := by
  have hexceed : CpusExceed context host ↔
      ((cpus context host).filter fun n => n.2 < n.1).isSome = true := by
    simp [CpusExceed, Option.any_eq_true]
  rw [hexceed, filter_cpus, Option.isSome_filter, Option.any_eq_true]
  simp only [Option.mem_def, Option.bind_eq_some_iff, Option.map_eq_some_iff, decide_eq_true_eq]
  constructor
  · rintro ⟨_, ⟨hardware, hhardware, a, ha, b, hb, rfl⟩, hless⟩
    exact ⟨hardware, hhardware, a, ha, b, hb, hless⟩
  · rintro ⟨hardware, hhardware, a, ha, b, hb, hless⟩
    exact ⟨(a, b), ⟨hardware, hhardware, a, ha, b, hb, rfl⟩, hless⟩

/-- A host with a mismatch has a node that states a count. -/
theorem counts_of_applies (h : resourceConfigurationMismatch.applies context host = true) :
    ((facts context host.id).gpus.isSome || (facts context host.id).countedCpus.isSome) = true := by
  rw [Bool.or_eq_true]
  rcases ResourceMismatch.applies_iff.mp h with h | h
  · obtain ⟨-, -, a, ha, -⟩ := gpusDiffer_iff.mp h
    exact Or.inl (Option.isSome_of_mem ha)
  · obtain ⟨-, -, a, ha, -⟩ := cpusExceed_iff.mp h
    exact Or.inr (Option.isSome_of_mem ha)

/-! ### Contexts that tell the same -/

/-- Contexts that tell the rules about Slurm the same. -/
structure SameFacts (context context' : DiagnosisContext) : Prop where
  environment : context'.environment = context.environment
  inventory : context'.inventory = context.inventory
  component : ∀ e c, context'.component e c = context.component e c
  verdicts : ∀ host, verdictsOf context' host = verdictsOf context host
  shown : ∀ host, (facts context' host).shown = (facts context host).shown
  up : ∀ e, context'.payloadBool e probeController "up" = context.payloadBool e probeController "up"

namespace SameFacts

theorem entity (h : SameFacts context context') : context'.entity = context.entity := by
  funext id
  rw [DiagnosisContext.entity, DiagnosisContext.entity, h.inventory]

theorem entitiesOfType (h : SameFacts context context') (entityType : EntityType) :
    context'.entitiesOfType entityType = context.entitiesOfType entityType := by
  rw [DiagnosisContext.entitiesOfType, DiagnosisContext.entitiesOfType, h.inventory]

theorem hostLooksHealthy (h : SameFacts context context') :
    context'.hostLooksHealthy = context.hostLooksHealthy := by
  funext id
  simp only [DiagnosisContext.hostLooksHealthy, DiagnosisContext.isHealthy, h.component]

theorem verdictsByTarget (h : SameFacts context context') :
    verdictsByTarget context' = verdictsByTarget context := by
  simp only [Sentinel.verdictsByTarget, h.entitiesOfType, h.verdicts]

theorem complaint (h : SameFacts context context') (id : EntityId) :
    (facts context' id).complaint = (facts context id).complaint :=
  congrArg Shown.complaint (h.shown id)

theorem gpus (h : SameFacts context context') (id : EntityId) : (facts context' id).gpus = (facts context id).gpus :=
  congrArg Shown.gpus (h.shown id)

theorem countedCpus (h : SameFacts context context') (id : EntityId) :
    (facts context' id).countedCpus = (facts context id).countedCpus :=
  congrArg Shown.cpus (h.shown id)

/-- Where there is something to look at, the same node is named. -/
theorem nodeDetails (h : SameFacts context context')
    (hshown : ((facts context host.id).complaint.isSome || (facts context host.id).gpus.isSome ||
      (facts context host.id).countedCpus.isSome) = true) :
    SlurmRules.nodeDetails context' host = SlurmRules.nodeDetails context host := by
  have hargument : (facts context' host.id).shown.argument = (facts context host.id).shown.argument :=
    congrArg Shown.argument (h.shown host.id)
  simp only [NodeFacts.shown] at hargument
  rw [h.complaint, h.gpus, h.countedCpus, if_pos hshown, if_pos hshown, Option.some.injEq] at hargument
  exact nodeDetails_congr hargument

theorem onlyDegradation (h : SameFacts context context') :
    slurmOnlyDegradation.toRule.concluded context' = slurmOnlyDegradation.toRule.concluded context := by
  refine HostRule.concluded_congr (h.entitiesOfType .host) fun host _ => ⟨?_, fun happlies => ?_⟩
  · rw [Bool.eq_iff_iff, slurmOnlyDegradation_applies, slurmOnlyDegradation_applies, h.complaint, h.hostLooksHealthy]
  · obtain ⟨⟨text, htext⟩, -⟩ := slurmOnlyDegradation_applies.mp happlies
    have hdetails := SameFacts.nodeDetails h (by rw [htext]; rfl)
    refine HostRule.conclusion_congr rfl rfl rfl ?_ ?_
    · rw [slurmOnlyDegradation_summary htext, slurmOnlyDegradation_summary ((h.complaint host.id).trans htext)]
    · simp only [slurmOnlyDegradation, hdetails]

theorem serviceFailure (h : SameFacts context context') (entityId : EntityKey → EntityId) :
    (slurmdServiceFailure entityId).toRule.concluded context' =
      (slurmdServiceFailure entityId).toRule.concluded context := by
  refine HostRule.concluded_congr (h.entitiesOfType .host) fun host _ => ⟨?_, fun happlies => ?_⟩
  · rw [Bool.eq_iff_iff, slurmdServiceFailure_applies, slurmdServiceFailure_applies, h.complaint,
      h.hostLooksHealthy, h.verdictsByTarget]
  · obtain ⟨⟨⟨text, htext⟩, -⟩, -⟩ := slurmdServiceFailure_applies.mp happlies
    have hdetails := SameFacts.nodeDetails h (by rw [htext]; rfl)
    refine HostRule.conclusion_congr rfl rfl ?_ ?_ ?_
    · have hdaemon : slurmd context' host entityId = slurmd context host entityId := by
        rw [slurmd, slurmd, h.environment]
      change (if (context'.entity (slurmd context' host entityId)).isNone then [host.id]
        else [slurmd context' host entityId]) = _
      rw [hdaemon, h.entity]
      rfl
    · rw [slurmdServiceFailure_summary htext, slurmdServiceFailure_summary ((h.complaint host.id).trans htext)]
    · simp only [slurmdServiceFailure, hdetails]

theorem controlPlane (h : SameFacts context context') :
    slurmControlPlaneFailure.concluded context' = slurmControlPlaneFailure.concluded context := by
  have hfailed : ControlPlane.failed context' = ControlPlane.failed context := by
    funext scheduler
    simp only [ControlPlane.failed, h.up, h.component]
  rw [DiagnosisRule.concluded, DiagnosisRule.concluded, slurmControlPlaneFailure, List.map_map, List.map_map,
    h.entitiesOfType, hfailed]
  refine List.map_congr_left fun scheduler _ => ?_
  have hhealthy := h.hostLooksHealthy
  obtain ⟨environment, inventory, states, observations⟩ := context
  obtain ⟨environment', inventory', states', observations'⟩ := context'
  obtain rfl : inventory' = inventory := h.inventory
  simp only [Function.comp_apply, ControlPlane.diagnosis, Diagnosis.conclusion, ControlPlane.hostIsFine, hhealthy]
  rfl

theorem mismatch (h : SameFacts context context') :
    resourceConfigurationMismatch.toRule.concluded context' =
      resourceConfigurationMismatch.toRule.concluded context := by
  have hgpus : ∀ host, ResourceMismatch.gpus context' host = ResourceMismatch.gpus context host := by
    intro host
    have hpayload : context'.payloadU64 host.id probeNode "configured_gpu_count" =
      context.payloadU64 host.id probeNode "configured_gpu_count" := h.gpus host.id
    simp only [ResourceMismatch.gpus, ResourceMismatch.counts, hpayload]
  have hcpus : ∀ host, (ResourceMismatch.cpus context' host).filter (fun n => n.2 < n.1) =
      (ResourceMismatch.cpus context host).filter fun n => n.2 < n.1 := by
    intro host
    rw [filter_cpus, filter_cpus, h.countedCpus]
  have hmismatches : ∀ host, ResourceMismatch.mismatches context' host = ResourceMismatch.mismatches context host := by
    intro host
    simp only [ResourceMismatch.mismatches, hgpus, hcpus]
  refine HostRule.concluded_congr (h.entitiesOfType .host) fun host _ => ⟨?_, fun happlies => ?_⟩
  · simp only [resourceConfigurationMismatch, hmismatches]
  · have hdetails := SameFacts.nodeDetails h (by rw [Bool.or_assoc, counts_of_applies happlies, Bool.or_true])
    refine HostRule.conclusion_congr ?_ rfl rfl ?_ ?_
    · simp only [resourceConfigurationMismatch, hgpus, hmismatches]
    · simp only [resourceConfigurationMismatch, hmismatches]
    · simp only [resourceConfigurationMismatch, hdetails, hgpus, ← Option.isSome_filter, hcpus]

/-- **Contexts that tell the rules the same lead to the same conclusions.** -/
theorem concluded_eq (h : SameFacts context context') {entityId : EntityKey → EntityId} :
    ∀ rule ∈ slurmRules entityId, rule.concluded context' = rule.concluded context := by
  simp only [slurmRules, List.forall_mem_cons, List.not_mem_nil, false_implies, implies_true, and_true]
  exact ⟨h.onlyDegradation, h.serviceFailure entityId, h.controlPlane, h.mismatch⟩

end SameFacts

end HostRules

end Sentinel
