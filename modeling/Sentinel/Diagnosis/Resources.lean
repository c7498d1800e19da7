import Sentinel.Controller.Diagnose

/-!
# Which resource disagrees

A node whose number of GPUs is not what the scheduler was told has a diagnosis of its own.
The rule decides which diagnosis it is by whether both numbers of GPUs are stated and by
how many disagreements there are, not by which one it is: too many CPUs alone, beside GPUs
that agree, count as a disagreement about GPUs.

## Main definitions

* `ResourceMismatch.GpusDiffer`, `ResourceMismatch.CpusExceed` — the two disagreements.

## Main results

* `namedAs_gpu_iff`, `namedAs_resource_iff` — when each diagnosis is concluded of a host.
* `resources_told_apart_iff` — the diagnoses tell the disagreements apart exactly where GPUs
  that agree are on no node with too many CPUs.
-/

namespace Sentinel

open ResourceMismatch

namespace ResourceMismatch

variable {context : DiagnosisContext} {host : ManagedEntity}

/-- Both numbers of GPUs are stated, and they differ. -/
def GpusDiffer (context : DiagnosisContext) (host : ManagedEntity) : Prop := ∃ n ∈ gpus context host, n.1 ≠ n.2

/-- Both numbers of CPUs are stated, and the scheduler was told of more than there are. -/
def CpusExceed (context : DiagnosisContext) (host : ManagedEntity) : Prop := ∃ n ∈ cpus context host, n.2 < n.1

instance : Decidable (GpusDiffer context host) := inferInstanceAs (Decidable (∃ n ∈ gpus context host, n.1 ≠ n.2))

instance : Decidable (CpusExceed context host) := inferInstanceAs (Decidable (∃ n ∈ cpus context host, n.2 < n.1))

theorem length_toList_filter {α : Type*} (o : Option α) (p : α → Bool) :
    (o.filter p).toList.length = if ∃ a ∈ o, p a = true then 1 else 0 := by
  cases o with
  | none => simp
  | some a => cases hp : p a <;> simp [Option.filter, hp]

/-- One disagreement is counted for each resource. -/
theorem length_mismatches (context : DiagnosisContext) (host : ManagedEntity) :
    (mismatches context host).length =
      (if GpusDiffer context host then 1 else 0) + if CpusExceed context host then 1 else 0 := by
  unfold mismatches GpusDiffer CpusExceed
  rw [List.length_append, List.length_map, List.length_map, length_toList_filter, length_toList_filter]
  simp only [decide_eq_true_eq]
  rfl

/-- The rule applies where there is a disagreement. -/
theorem applies_iff : resourceConfigurationMismatch.applies context host = true ↔
    GpusDiffer context host ∨ CpusExceed context host := by
  have hlength := length_mismatches context host
  change (!(mismatches context host).isEmpty) = true ↔ _
  rw [Bool.not_eq_true', ← Bool.not_eq_true, List.isEmpty_iff, ← List.length_eq_zero_iff, hlength]
  split_ifs <;> simp_all

end ResourceMismatch

variable {entityId : EntityKey → EntityId} {context : DiagnosisContext} {host : ManagedEntity}

/-- What the rule concludes of an active host. -/
theorem namedAs_mismatch_iff (hhost : host ∈ context.entitiesOfType .host) {kind : DiagnosisType}
    (hkind : kind ∈ [Kind.gpuConfigurationMismatch, Kind.resourceConfigurationMismatch]) :
    NamedAs (diagnose (builtinRules entityId) context) [kind] host.id ↔
      resourceConfigurationMismatch.applies context host = true ∧
        resourceConfigurationMismatch.kind context host = kind := by
  have hrule : (resourceConfigurationMismatch.toRule,
      [Kind.gpuConfigurationMismatch, Kind.resourceConfigurationMismatch]) ∈ concludes entityId := by
    simp [concludes]
  constructor
  · rintro ⟨d, hd, hd', hnames⟩
    have htype := List.mem_singleton.mp hd'
    have hd := (mem_diagnose_of_kind hrule (htype ▸ hkind)).mp hd
    obtain ⟨host', hhost', happlies, rfl⟩ := HostRule.mem_evaluate.mp hd
    -- an entity is known under its own identifier
    have hid : host.id = host'.id := List.mem_singleton.mp hnames
    have hsame : host = host' := by
      have hget := (DiagnosisContext.mem_entitiesOfType context).mp hhost
      have hget' := (DiagnosisContext.mem_entitiesOfType context).mp hhost'
      exact Option.some.inj (hget.1.symm.trans (hid ▸ hget'.1))
    subst hsame
    exact ⟨happlies, htype⟩
  · rintro ⟨happlies, htype⟩
    refine ⟨resourceConfigurationMismatch.diagnosis context host, ?_, List.mem_singleton.mpr htype,
      List.mem_singleton.mpr rfl⟩
    refine (mem_diagnose_of_kind hrule ?_).mpr (HostRule.mem_evaluate.mpr ⟨host, hhost, happlies, rfl⟩)
    change resourceConfigurationMismatch.kind context host ∈ _
    rw [htype]
    exact hkind

/-- Where GPUs are named: both numbers are stated, and one thing disagrees, whichever. -/
theorem namedAs_gpu_iff (hhost : host ∈ context.entitiesOfType .host) :
    NamedAs (diagnose (builtinRules entityId) context) [Kind.gpuConfigurationMismatch] host.id ↔
      (gpus context host).isSome = true ∧ Xor (GpusDiffer context host) (CpusExceed context host) := by
  have hne : Kind.resourceConfigurationMismatch ≠ Kind.gpuConfigurationMismatch := by decide
  have hlength := length_mismatches context host
  rw [namedAs_mismatch_iff hhost List.mem_cons_self, applies_iff]
  unfold resourceConfigurationMismatch
  simp only [ite_eq_left_iff, hne, imp_false, not_not, hlength]
  by_cases hgpus : GpusDiffer context host <;> by_cases hcpus : CpusExceed context host <;>
    simp [hgpus, hcpus, Xor]

/-- Where resources are named: too many CPUs beside GPUs that differ, or are not stated. -/
theorem namedAs_resource_iff (hhost : host ∈ context.entitiesOfType .host) :
    NamedAs (diagnose (builtinRules entityId) context) [Kind.resourceConfigurationMismatch] host.id ↔
      CpusExceed context host ∧ (gpus context host = none ∨ GpusDiffer context host) := by
  have hne : Kind.gpuConfigurationMismatch ≠ Kind.resourceConfigurationMismatch := by decide
  have hlength := length_mismatches context host
  have hstated : GpusDiffer context host → (gpus context host).isSome = true := by
    rintro ⟨n, hn, -⟩
    rw [Option.mem_def.mp hn]
    rfl
  rw [namedAs_mismatch_iff hhost (List.mem_cons_of_mem _ List.mem_cons_self), applies_iff]
  unfold resourceConfigurationMismatch
  simp only [ite_eq_right_iff, hne, imp_false, hlength]
  by_cases hgpus : GpusDiffer context host <;> by_cases hcpus : CpusExceed context host <;>
    simp [hgpus, hcpus, hstated]

/-- **The diagnoses tell the disagreements apart** — of GPUs only where both numbers are
stated and differ, of resources wherever nothing but the CPUs disagrees — exactly if no
active host has too many CPUs beside numbers of GPUs that agree. -/
theorem resources_told_apart_iff (entityId : EntityKey → EntityId) (context : DiagnosisContext) :
    (∀ host ∈ context.entitiesOfType .host,
      let named (kind : DiagnosisType) := NamedAs (diagnose (builtinRules entityId) context) [kind] host.id
      (named Kind.gpuConfigurationMismatch → GpusDiffer context host) ∧
        (CpusExceed context host ∧ ¬ GpusDiffer context host → named Kind.resourceConfigurationMismatch)) ↔
    ∀ host ∈ context.entitiesOfType .host, CpusExceed context host → ∀ n ∈ gpus context host, n.1 ≠ n.2 := by
  refine forall₂_congr fun host hhost => ?_
  dsimp only
  rw [namedAs_gpu_iff hhost, namedAs_resource_iff hhost]
  constructor
  · rintro ⟨hgpu, -⟩ hcpus n hn hsame
    have hagree : ¬ GpusDiffer context host := by
      rintro ⟨n', hn', hne⟩
      rw [Option.mem_unique hn' hn] at hne
      exact hne hsame
    have hstated : (gpus context host).isSome = true := by
      rw [Option.mem_def.mp hn]
      rfl
    exact hagree (hgpu ⟨hstated, Or.inr ⟨hcpus, hagree⟩⟩)
  · intro hdiffer
    refine ⟨fun ⟨hstated, hxor⟩ => ?_, fun ⟨hcpus, hagree⟩ => ⟨hcpus, ?_⟩⟩
    · rcases hxor with ⟨hgpus, -⟩ | ⟨hcpus, -⟩
      · exact hgpus
      · obtain ⟨n, hn⟩ := Option.isSome_iff_exists.mp hstated
        exact ⟨n, hn, hdiffer hcpus n hn⟩
    · cases hgpus : gpus context host with
      | none => exact Or.inl rfl
      | some n => exact absurd ⟨n, hgpus, hdiffer hcpus n hgpus⟩ hagree

/-- A node that has its four GPUs, and sixteen CPUs of the sixty-four that the scheduler was
told of: its GPUs are blamed. -/
theorem cpus_blamed_on_gpus :
    let host := { ManagedEntity.new ⟨⟨1⟩⟩ .host "node-a" with
      metadata := .obj [("hardware", .obj [("gpus", .num 4), ("cpus", .num 16)])] }
    let node : Observation := ⟨⟨⟨2⟩⟩, probeNode, ⟨⟨1⟩⟩, none, 0, .ok,
      .obj [("configured_gpu_count", .num 4), ("cpu_total", .num 64)]⟩
    let context : DiagnosisContext :=
      ⟨"lab", Inventory.new.insertEntity host, ∅, ObservationIndex.new.insertAll [node]⟩
    host ∈ context.entitiesOfType .host ∧ gpus context host = some (4, 4) ∧ cpus context host = some (64, 16) ∧
      NamedAs (diagnose (builtinRules fun _ => ⟨⟨0⟩⟩) context) [Kind.gpuConfigurationMismatch] host.id ∧
      ¬ NamedAs (diagnose (builtinRules fun _ => ⟨⟨0⟩⟩) context) [Kind.resourceConfigurationMismatch] host.id := by
  intro host node context
  have hhost : host ∈ context.entitiesOfType .host := by
    rw [DiagnosisContext.mem_entitiesOfType]
    exact ⟨Std.ExtTreeMap.getElem?_insert_self, rfl, rfl⟩
  have hgpus : gpus context host = some (4, 4) := by decide +kernel
  have hcpus : cpus context host = some (64, 16) := by decide +kernel
  have hexceed : CpusExceed context host := ⟨_, hcpus, by decide⟩
  have hagree : ¬ GpusDiffer context host := by
    rintro ⟨n, hn, hne⟩
    rw [hgpus, Option.mem_some] at hn
    exact hne (hn ▸ rfl)
  refine ⟨hhost, hgpus, hcpus, ?_, ?_⟩
  · rw [namedAs_gpu_iff hhost, hgpus]
    exact ⟨rfl, Or.inr ⟨hexceed, hagree⟩⟩
  · rw [namedAs_resource_iff hhost, hgpus]
    rintro ⟨-, hnone | hdiffer⟩
    · cases hnone
    · exact hagree hdiffer

end Sentinel
