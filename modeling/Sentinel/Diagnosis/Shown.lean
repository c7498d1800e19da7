import Sentinel.Diagnosis.NodeFacts

/-!
# What the Slurm rules tell apart

Records of a node that are shown differently lead to different conclusions, about some
host: about one that looks healthy, if it is what is said of the node that differs, and
about one that reports the right hardware, if it is a count.

## Main definitions

* `hostWith` — a host that reports some hardware.
* `DiagnosisContext.Lone` — a context with one host, about which there is no doubt.
* `Watched` — contexts that tell the same of a host, whatever its hardware.

## Main results

* `Watched.shown_eq` — **where the rules conclude the same of hosts with any hardware, the
  same is shown of their nodes.**
-/

namespace Sentinel

open SlurmRules

/-- A host that reports some hardware. -/
def hostWith (e : EntityId) (hardware : Json) : ManagedEntity :=
  { ManagedEntity.new e .host "" with metadata := .obj [("hardware", hardware)] }

/-- What a host reports that counts its GPUs, or its CPUs, and nothing else. -/
def counted (field : String) (n : ℕ) : Json := .obj [(field, .num n)]

/-- A context with one host, which looks healthy, and about which the observers do not
disagree. -/
structure DiagnosisContext.Lone (context : DiagnosisContext) (host : ManagedEntity) : Prop where
  mem : ∀ other, other ∈ context.entitiesOfType .host ↔ other = host
  healthy : context.hostLooksHealthy host.id = true
  agreed : (verdictsByTarget context)[host.id]?.any Verdicts.disagree = false

/-- Facts as records have them: without a name there is nothing to show, and counts are
those that a payload holds. -/
structure SlurmRules.NodeFacts.Recorded (f : NodeFacts) : Prop where
  named : f.name = none → f.complaint = none ∧ f.gpus = none ∧ f.countedCpus = none
  gpus_lt : ∀ n, f.gpus = some n → n < 2 ^ 64
  cpus_lt : ∀ n, f.countedCpus = some n → n < 2 ^ 64

/-- Contexts with one host each, the same one up to its hardware, that tell the same facts
of its node. -/
structure Watched (e : EntityId) (f : NodeFacts) (context : Json → DiagnosisContext) : Prop where
  lone : ∀ hardware, (context hardware).Lone (hostWith e hardware)
  facts_eq : ∀ hardware, facts (context hardware) e = f

section Lone

variable {context context' : DiagnosisContext} {host : ManagedEntity} {rule : HostRule}

/-- What a rule concludes of the one host, it concludes wherever its conclusions are found. -/
theorem DiagnosisContext.Lone.conclusion_eq (h : context.Lone host) (h' : context'.Lone host)
    (hsame : ∀ d ∈ rule.toRule.concluded context, d ∈ rule.toRule.concluded context')
    (happlies : rule.applies context host = true) :
    rule.applies context' host = true ∧
      (rule.diagnosis context' host).conclusion = (rule.diagnosis context host).conclusion := by
  have hmem : (rule.diagnosis context host).conclusion ∈ rule.toRule.concluded context :=
    List.mem_map_of_mem (HostRule.mem_evaluate.mpr ⟨host, (h.mem host).mpr rfl, happlies, rfl⟩)
  obtain ⟨d, hd, hconclusion⟩ := List.mem_map.mp (hsame _ hmem)
  obtain ⟨other, hother, happlies', rfl⟩ := HostRule.mem_evaluate.mp hd
  obtain rfl := (h'.mem other).mp hother
  exact ⟨happlies', hconclusion⟩

theorem NodeFacts.kind_of_complaint {f : NodeFacts} {kind : DiagnosisType} {text : String}
    (h : f.complaint = some (kind, text)) : kind = Kind.slurmOnlyDegradation ∨ kind = Kind.slurmdServiceFailure := by
  unfold NodeFacts.complaint at h
  split at h
  · exact Or.inl (congrArg Prod.fst (Option.some.inj h)).symm
  · split at h
    · exact Or.inr (congrArg Prod.fst (Option.some.inj h)).symm
    · cases h

/-- The details of a node name it. -/
theorem quote_of_nodeDetails {name name' : String} (hname : (facts context host.id).name = some name)
    (hname' : (facts context' host.id).name = some name')
    (h : nodeDetails context' host = nodeDetails context host) :
    Investigation.quote name' = Investigation.quote name := by
  simp only [facts] at hname hname'
  simp only [nodeDetails, Investigation.step, hname, hname', Option.some_or, Option.getD_some] at h
  exact (String.append_right_inj _).mp ((String.append_right_inj _).mp h)

/-- A rule that looks at the node first leads to the same look at it. -/
theorem DiagnosisContext.Lone.details_eq (h : context.Lone host) (h' : context'.Lone host)
    (hsame : ∀ d ∈ rule.toRule.concluded context, d ∈ rule.toRule.concluded context')
    (hfirst : ∀ c : DiagnosisContext, (rule.actions c host).head? = some (nodeDetails c host))
    (happlies : rule.applies context host = true) : nodeDetails context' host = nodeDetails context host := by
  obtain ⟨-, hconclusion⟩ := h.conclusion_eq h' hsame happlies
  have hactions : (rule.actions context' host).head? = (rule.actions context host).head? :=
    congrArg (fun d => d.recommendedActions.head?) hconclusion
  rw [hfirst, hfirst] at hactions
  exact Option.some.inj hactions

end Lone

theorem asU64_natCast {n : ℕ} (hn : n < 2 ^ 64) : (Json.num n).asU64 = some n := by
  have hcount : (0 : ℤ) ≤ n ∧ (n : ℤ) < 2 ^ 64 := ⟨Int.natCast_nonneg n, by exact_mod_cast hn⟩
  rw [Json.asU64, if_pos hcount, Int.toNat_natCast]

theorem count_counted (field : String) {n : ℕ} (hn : n < 2 ^ 64) :
    ((counted field n).get field).bind Json.asU64 = some n := by
  have hget : (counted field n).get field = some (.num n) := by simp [counted, Json.get]
  rw [hget, Option.bind_some, asU64_natCast hn]

theorem count_counted_of_ne {field other : String} (h : field ≠ other) (n : ℕ) :
    ((counted field n).get other).bind Json.asU64 = none := by
  have hget : (counted field n).get other = none := by simp [counted, Json.get, h.symm]
  rw [hget, Option.bind_none]

theorem get_hardware (e : EntityId) (hardware : Json) :
    (hostWith e hardware).metadata.get "hardware" = some hardware := by
  simp [hostWith, Json.get]

namespace Watched

variable {e : EntityId} {f f' : NodeFacts} {context context' : Json → DiagnosisContext}
  {entityId : EntityKey → EntityId}

/-- What a node that counts its GPUs is found to lack. -/
theorem applies_gpus (h : Watched e f context) {n : ℕ} (hn : n < 2 ^ 64) :
    resourceConfigurationMismatch.applies (context (counted "gpus" n)) (hostWith e (counted "gpus" n)) = true ↔
      ∃ a, f.gpus = some a ∧ a ≠ n := by
  have hcount : ((counted "gpus" n).get "gpus").bind Json.asU64 = some n := count_counted "gpus" hn
  have hnone : ((counted "gpus" n).get "cpus").bind Json.asU64 = none := count_counted_of_ne (by decide) n
  have hfacts : facts (context (counted "gpus" n)) (hostWith e (counted "gpus" n)).id = f := h.facts_eq _
  rw [ResourceMismatch.applies_iff, gpusDiffer_iff, cpusExceed_iff, get_hardware, hfacts]
  simp [hcount, hnone]

/-- What a node that counts its CPUs is found to lack. -/
theorem applies_cpus (h : Watched e f context) {n : ℕ} (hn : n < 2 ^ 64) :
    resourceConfigurationMismatch.applies (context (counted "cpus" n)) (hostWith e (counted "cpus" n)) = true ↔
      ∃ a, f.countedCpus = some a ∧ n < a := by
  have hcount : ((counted "cpus" n).get "cpus").bind Json.asU64 = some n := count_counted "cpus" hn
  have hnone : ((counted "cpus" n).get "gpus").bind Json.asU64 = none := count_counted_of_ne (by decide) n
  have hfacts : facts (context (counted "cpus" n)) (hostWith e (counted "cpus" n)).id = f := h.facts_eq _
  rw [ResourceMismatch.applies_iff, gpusDiffer_iff, cpusExceed_iff, get_hardware, hfacts]
  simp [hcount, hnone]

section Same

variable (h : Watched e f context) (h' : Watched e f' context')
  (hsame : ∀ hardware, ∀ rule ∈ slurmRules entityId, ∀ d,
    d ∈ rule.concluded (context hardware) ↔ d ∈ rule.concluded (context' hardware))

include h h' hsame

/-- What is said of a node that is drained is said of it wherever the same is concluded. -/
theorem drained_of_eq {text : String} (hsaid : f.complaint = some (Kind.slurmOnlyDegradation, text)) :
    f'.complaint = some (Kind.slurmOnlyDegradation, text) ∧
      nodeDetails (context' .null) (hostWith e .null) = nodeDetails (context .null) (hostWith e .null) := by
  have hfacts : facts (context .null) (hostWith e .null).id = f := h.facts_eq .null
  have hfacts' : facts (context' .null) (hostWith e .null).id = f' := h'.facts_eq .null
  have hconcluded := fun d => (hsame .null slurmOnlyDegradation.toRule (by simp [slurmRules]) d).mp
  rw [← hfacts] at hsaid
  have happlies := slurmOnlyDegradation_applies.mpr ⟨⟨text, hsaid⟩, (h.lone .null).healthy⟩
  obtain ⟨happlies', hconclusion⟩ := (h.lone .null).conclusion_eq (h'.lone .null) hconcluded happlies
  obtain ⟨⟨text', htext'⟩, -⟩ := slurmOnlyDegradation_applies.mp happlies'
  have hsummary : slurmOnlyDegradation.summary _ _ = slurmOnlyDegradation.summary _ _ :=
    congrArg Diagnosis.summary hconclusion
  rw [slurmOnlyDegradation_summary hsaid, slurmOnlyDegradation_summary htext'] at hsummary
  rw [← hfacts', htext', (String.append_right_inj _).mp ((String.append_left_inj _).mp hsummary)]
  exact ⟨rfl, (h.lone .null).details_eq (h'.lone .null) hconcluded (fun _ => rfl) happlies⟩

/-- What is said of a node whose daemon has failed is said of it wherever the same is
concluded. -/
theorem failed_of_eq {text : String} (hsaid : f.complaint = some (Kind.slurmdServiceFailure, text)) :
    f'.complaint = some (Kind.slurmdServiceFailure, text) ∧
      nodeDetails (context' .null) (hostWith e .null) = nodeDetails (context .null) (hostWith e .null) := by
  have hfacts : facts (context .null) (hostWith e .null).id = f := h.facts_eq .null
  have hfacts' : facts (context' .null) (hostWith e .null).id = f' := h'.facts_eq .null
  have hconcluded := fun d => (hsame .null (slurmdServiceFailure entityId).toRule (by simp [slurmRules]) d).mp
  rw [← hfacts] at hsaid
  have happlies : (slurmdServiceFailure entityId).applies (context .null) (hostWith e .null) = true :=
    slurmdServiceFailure_applies.mpr
      ⟨⟨⟨text, hsaid⟩, (h.lone .null).healthy⟩, by rw [(h.lone .null).agreed]; rfl⟩
  obtain ⟨happlies', hconclusion⟩ := (h.lone .null).conclusion_eq (h'.lone .null) hconcluded happlies
  obtain ⟨⟨⟨text', htext'⟩, -⟩, -⟩ := slurmdServiceFailure_applies.mp happlies'
  have hsummary : (slurmdServiceFailure entityId).summary _ _ = (slurmdServiceFailure entityId).summary _ _ :=
    congrArg Diagnosis.summary hconclusion
  rw [slurmdServiceFailure_summary hsaid, slurmdServiceFailure_summary htext'] at hsummary
  rw [← hfacts', htext', (String.append_right_inj _).mp ((String.append_left_inj _).mp hsummary)]
  exact ⟨rfl, (h.lone .null).details_eq (h'.lone .null) hconcluded (fun _ => rfl) happlies⟩

/-- Whatever is said of a node is said of it wherever the same is concluded. -/
theorem complaint_of_eq {said : DiagnosisType × String} (hsaid : f.complaint = some said) :
    f'.complaint = some said ∧
      nodeDetails (context' .null) (hostWith e .null) = nodeDetails (context .null) (hostWith e .null) := by
  obtain ⟨kind, text⟩ := said
  rcases NodeFacts.kind_of_complaint hsaid with rfl | rfl
  · exact drained_of_eq h h' hsame hsaid
  · exact failed_of_eq h h' hsame hsaid

/-- A mismatch is found wherever the same is concluded, with the same details. -/
theorem mismatch_of_applies {hardware : Json}
    (happlies : resourceConfigurationMismatch.applies (context hardware) (hostWith e hardware) = true) :
    resourceConfigurationMismatch.applies (context' hardware) (hostWith e hardware) = true ∧
      nodeDetails (context' hardware) (hostWith e hardware) = nodeDetails (context hardware) (hostWith e hardware) := by
  have hconcluded := fun d =>
    (hsame hardware resourceConfigurationMismatch.toRule (by simp [slurmRules]) d).mp
  exact ⟨((h.lone hardware).conclusion_eq (h'.lone hardware) hconcluded happlies).1,
    (h.lone hardware).details_eq (h'.lone hardware) hconcluded (fun _ => rfl) happlies⟩

/-- A host that reports another count of GPUs gives the node's count away, and one that
reports this one settles it. -/
theorem gpus_of_eq (hrecorded : f.Recorded) {n : ℕ} (hn : f.gpus = some n) :
    f'.gpus = some n ∧ ∃ hardware,
      nodeDetails (context' hardware) (hostWith e hardware) = nodeDetails (context hardware) (hostWith e hardware) := by
  have hother : ∃ m, m < 2 ^ 64 ∧ n ≠ m := by
    by_cases hzero : n = 0
    · exact ⟨1, by norm_num, by omega⟩
    · exact ⟨0, by norm_num, hzero⟩
  obtain ⟨m, hm, hne⟩ := hother
  obtain ⟨happlies, hdetails⟩ := mismatch_of_applies h h' hsame ((h.applies_gpus hm).mpr ⟨n, hn, hne⟩)
  obtain ⟨n', hn', -⟩ := (h'.applies_gpus hm).mp happlies
  have hlt := hrecorded.gpus_lt n hn
  obtain rfl : n' = n := by
    by_contra hdiffer
    have hback := mismatch_of_applies h' h (fun hardware rule hrule d => (hsame hardware rule hrule d).symm)
      ((h'.applies_gpus hlt).mpr ⟨n', hn', hdiffer⟩)
    obtain ⟨a, ha, hdifferent⟩ := (h.applies_gpus hlt).mp hback.1
    exact hdifferent (Option.some.inj (ha.symm.trans hn))
  exact ⟨hn', _, hdetails⟩

/-- A host that lacks one CPU of a node's is told from one that lacks more. -/
theorem cpus_of_eq (hrecorded : f.Recorded) {n : ℕ} (hn : f.countedCpus = some n) :
    (∃ n', f'.countedCpus = some n' ∧ n ≤ n') ∧ ∃ hardware,
      nodeDetails (context' hardware) (hostWith e hardware) = nodeDetails (context hardware) (hostWith e hardware) := by
  have hpos : 0 < n := by
    have hfilter := (Option.filter_eq_some_iff.mp hn).2
    simpa using hfilter
  have hlt : n - 1 < 2 ^ 64 := Nat.lt_of_le_of_lt (Nat.sub_le n 1) (hrecorded.cpus_lt n hn)
  obtain ⟨happlies, hdetails⟩ := mismatch_of_applies h h' hsame
    ((h.applies_cpus hlt).mpr ⟨n, hn, Nat.sub_lt hpos Nat.one_pos⟩)
  obtain ⟨n', hn', hless⟩ := (h'.applies_cpus hlt).mp happlies
  exact ⟨⟨n', hn', by omega⟩, _, hdetails⟩

/-- Where something is shown of a node, it is looked at in the same way. -/
theorem details_of_something (hrecorded : f.Recorded)
    (hsomething : (f.complaint.isSome || f.gpus.isSome || f.countedCpus.isSome) = true) : ∃ hardware,
      nodeDetails (context' hardware) (hostWith e hardware) = nodeDetails (context hardware) (hostWith e hardware) := by
  rw [Bool.or_eq_true, Bool.or_eq_true] at hsomething
  rcases hsomething with (hcomplaint | hgpus) | hcpus
  · obtain ⟨said, hsaid⟩ := Option.isSome_iff_exists.mp hcomplaint
    exact ⟨.null, (complaint_of_eq h h' hsame hsaid).2⟩
  · obtain ⟨n, hn⟩ := Option.isSome_iff_exists.mp hgpus
    exact (gpus_of_eq h h' hsame hrecorded hn).2
  · obtain ⟨n, hn⟩ := Option.isSome_iff_exists.mp hcpus
    exact (cpus_of_eq h h' hsame hrecorded hn).2

/-- **Where the rules conclude the same of hosts with any hardware, the same is shown of
their nodes.** -/
theorem shown_eq (hrecorded : f.Recorded) (hrecorded' : f'.Recorded) : f'.shown = f.shown := by
  have hback := fun hardware rule hrule d => (hsame hardware rule hrule d).symm
  have hcomplaint : f'.complaint = f.complaint := Option.ext fun said =>
    ⟨fun hsaid => (complaint_of_eq h' h hback hsaid).1, fun hsaid => (complaint_of_eq h h' hsame hsaid).1⟩
  have hgpus : f'.gpus = f.gpus := Option.ext fun n =>
    ⟨fun hn => (gpus_of_eq h' h hback hrecorded' hn).1, fun hn => (gpus_of_eq h h' hsame hrecorded hn).1⟩
  have hcpus : f'.countedCpus = f.countedCpus := by
    cases hn : f.countedCpus with
    | none =>
      cases hn' : f'.countedCpus with
      | none => rfl
      | some n' =>
        obtain ⟨⟨n, hsome, -⟩, -⟩ := cpus_of_eq h' h hback hrecorded' hn'
        rw [hn] at hsome
        cases hsome
    | some n =>
      obtain ⟨⟨n', hn', hle⟩, -⟩ := cpus_of_eq h h' hsame hrecorded hn
      obtain ⟨⟨a, ha, hge⟩, -⟩ := cpus_of_eq h' h hback hrecorded' hn'
      obtain rfl := Option.some.inj (ha.symm.trans hn)
      rw [hn', Nat.le_antisymm hge hle]
  unfold NodeFacts.shown
  rw [hcomplaint, hgpus, hcpus]
  by_cases hsomething : (f.complaint.isSome || f.gpus.isSome || f.countedCpus.isSome) = true
  · -- something is said of the node on either side, so both name it
    have hname : f.name ≠ none := fun hnone => by
      obtain ⟨hc, hg, hp⟩ := hrecorded.named hnone
      rw [hc, hg, hp] at hsomething
      cases hsomething
    have hname' : f'.name ≠ none := fun hnone => by
      obtain ⟨hc, hg, hp⟩ := hrecorded'.named hnone
      rw [← hcomplaint, ← hgpus, ← hcpus, hc, hg, hp] at hsomething
      cases hsomething
    obtain ⟨name, hname⟩ := Option.ne_none_iff_exists'.mp hname
    obtain ⟨name', hname'⟩ := Option.ne_none_iff_exists'.mp hname'
    obtain ⟨hardware, hdetails⟩ := details_of_something h h' hsame hrecorded hsomething
    have hread : (facts (context hardware) (hostWith e hardware).id).name = some name :=
      (congrArg NodeFacts.name (h.facts_eq hardware)).trans hname
    have hread' : (facts (context' hardware) (hostWith e hardware).id).name = some name' :=
      (congrArg NodeFacts.name (h'.facts_eq hardware)).trans hname'
    have hquote := quote_of_nodeDetails hread hread' hdetails
    rw [hname, hname', Option.map_some, Option.map_some, hquote]
  · rw [if_neg hsomething, if_neg hsomething]

end Same

end Watched

end Sentinel
