import Sentinel.Diagnosis.Rules.Services
import Sentinel.Diagnosis.Rules.Slurm
import Sentinel.Diagnosis.Rules.Storage

/-!
# The diagnosis engine

Every rule that ships with the monitor is evaluated against the same context, and the
conclusions come back most confident first.

## Main definitions

* `builtinRules`, `diagnose` — the rules, and the pass over them.
* `concludes` — the rules, with what each can conclude.

## Main results

* `mem_diagnose_of_kind` — every kind of diagnosis is one rule's.
-/

namespace Sentinel

/-- The place of a confidence in the order from low to confirmed. -/
def Confidence.rank : Confidence → ℕ
  | low => 0
  | medium => 1
  | high => 2
  | confirmed => 3

/-- Run rules: the most confident conclusions first, and those alike in the order of
their kinds. -/
def diagnose (rules : List DiagnosisRule) (context : DiagnosisContext) : List Diagnosis :=
  (rules.flatMap fun rule => rule.evaluate context).sortBy fun d =>
    (toLex (3 - d.confidence.rank, d.diagnosisType.name) : ℕ ×ₗ String)

section Builtin

variable (entityId : EntityKey → EntityId)

/-- Every rule that ships with the monitor, in evaluation order, and what each can
conclude. -/
def concludes : List (DiagnosisRule × List DiagnosisType) := [
  (hostUnreachable, [Kind.hostUnreachable]),
  (pathSpecificNetworkFailure, [Kind.pathSpecificNetworkFailure]),
  (sentinelAgentFailure.toRule, [Kind.sentinelAgentFailure]),
  (sshServiceFailure.toRule, [Kind.sshServiceFailure]),
  (slurmOnlyDegradation.toRule, [Kind.slurmOnlyDegradation]),
  ((slurmdServiceFailure entityId).toRule, [Kind.slurmdServiceFailure]),
  (slurmControlPlaneFailure, [Kind.slurmControlPlaneFailure]),
  (resourceConfigurationMismatch.toRule,
    [Kind.gpuConfigurationMismatch, Kind.resourceConfigurationMismatch]),
  (storageServiceFailure.toRule, [Kind.nfsServiceFailure]),
  (sharedStorageFailure, [Kind.sharedStorageFailure]),
  (clientLocalStorageFailure.toRule, [Kind.nfsClientFailure])]

/-- Every rule that ships with the monitor, in evaluation order. -/
def builtinRules : List DiagnosisRule := (concludes entityId).map Prod.fst

end Builtin

variable {entityId : EntityKey → EntityId} {context : DiagnosisContext} {d : Diagnosis}

theorem mem_diagnose {rules : List DiagnosisRule} :
    d ∈ diagnose rules context ↔ ∃ rule ∈ rules, d ∈ rule.evaluate context := by
  rw [diagnose, List.mem_sortBy, List.mem_flatMap]

theorem HostRule.kind_of_mem {rule : HostRule} (h : d ∈ rule.toRule.evaluate context) :
    ∃ host, d.diagnosisType = rule.kind context host := by
  obtain ⟨host, -, -, rfl⟩ := HostRule.mem_evaluate.mp h
  exact ⟨host, rfl⟩

/-- No rule concludes anything else. -/
theorem kind_mem_of_concludes :
    ∀ p ∈ concludes entityId, ∀ d ∈ p.1.evaluate context, d.diagnosisType ∈ p.2 := by
  intro p hp d hd
  have hfilterMap : ∀ {ε : Type} {entries : List ε} {f : ε → Option Diagnosis} {k : DiagnosisType},
      (∀ entry d, f entry = some d → d.diagnosisType = k) → d ∈ entries.filterMap f →
      d.diagnosisType = k := by
    intro ε entries f k hf hmem
    obtain ⟨entry, -, hentry⟩ := List.mem_filterMap.mp hmem
    exact hf entry d hentry
  simp only [concludes, List.mem_cons, List.not_mem_nil, or_false] at hp
  rcases hp with rfl | rfl | rfl | rfl | rfl | rfl | rfl | rfl | rfl | rfl | rfl
  · obtain ⟨host, -, -, rfl⟩ := hostUnreachable.mem_evaluate.mp hd
    exact List.mem_singleton_self _
  · refine List.mem_singleton.mpr (hfilterMap ?_ hd)
    intro entry d hentry
    split at hentry
    · obtain ⟨entity, -, rfl⟩ := Option.map_eq_some_iff.mp hentry
      rfl
    · cases hentry
  · obtain ⟨host, hkind⟩ := HostRule.kind_of_mem hd
    exact List.mem_singleton.mpr hkind
  · obtain ⟨host, hkind⟩ := HostRule.kind_of_mem hd
    exact List.mem_singleton.mpr hkind
  · obtain ⟨host, hkind⟩ := HostRule.kind_of_mem hd
    exact List.mem_singleton.mpr hkind
  · obtain ⟨host, hkind⟩ := HostRule.kind_of_mem hd
    exact List.mem_singleton.mpr hkind
  · obtain ⟨scheduler, -, rfl⟩ := List.mem_map.mp hd
    exact List.mem_singleton_self _
  · obtain ⟨host, hkind⟩ := HostRule.kind_of_mem hd
    rw [hkind, resourceConfigurationMismatch]
    dsimp only
    split <;> simp
  · obtain ⟨host, hkind⟩ := HostRule.kind_of_mem hd
    exact List.mem_singleton.mpr hkind
  · dsimp only [sharedStorageFailure] at hd
    split at hd
    · cases hd
    · refine List.mem_singleton.mpr (hfilterMap ?_ hd)
      intro entry d hentry
      split at hentry
      · cases hentry
      · obtain ⟨entity, -, rfl⟩ := Option.map_eq_some_iff.mp hentry
        rfl
  · obtain ⟨host, hkind⟩ := HostRule.kind_of_mem hd
    exact List.mem_singleton.mpr hkind

/-- No two rules conclude the same. -/
theorem pairwise_concludes :
    (concludes entityId).Pairwise fun p q => ∀ kind ∈ p.2, kind ∉ q.2 := by
  have hkinds : ((concludes entityId).map Prod.snd).Pairwise
      fun kinds others => ∀ kind ∈ kinds, kind ∉ others := by
    change [[Kind.hostUnreachable], [Kind.pathSpecificNetworkFailure], [Kind.sentinelAgentFailure],
      [Kind.sshServiceFailure], [Kind.slurmOnlyDegradation], [Kind.slurmdServiceFailure],
      [Kind.slurmControlPlaneFailure],
      [Kind.gpuConfigurationMismatch, Kind.resourceConfigurationMismatch], [Kind.nfsServiceFailure],
      [Kind.sharedStorageFailure], [Kind.nfsClientFailure]].Pairwise
        fun kinds others => ∀ kind ∈ kinds, kind ∉ others
    decide +kernel
  rwa [List.pairwise_map] at hkinds

/-- **Every kind of diagnosis is one rule's.** -/
theorem mem_diagnose_of_kind {p : DiagnosisRule × List DiagnosisType}
    (hp : p ∈ concludes entityId) (hkind : d.diagnosisType ∈ p.2) :
    d ∈ diagnose (builtinRules entityId) context ↔ d ∈ p.1.evaluate context := by
  rw [mem_diagnose]
  constructor
  · rintro ⟨rule, hrule, hd⟩
    obtain ⟨q, hq, rfl⟩ := List.mem_map.mp hrule
    by_cases hpq : p = q
    · rw [hpq]; exact hd
    · have hsymm : Std.Symm fun p q : DiagnosisRule × List DiagnosisType =>
          ∀ kind ∈ p.2, kind ∉ q.2 := ⟨fun p q h kind hq hp => h kind hp hq⟩
      have hdisjoint := pairwise_concludes.forall hp hq hpq
      exact absurd (kind_mem_of_concludes q hq d hd) (hdisjoint _ hkind)
  · intro hd
    exact ⟨p.1, List.mem_map.mpr ⟨p, hp, rfl⟩, hd⟩

end Sentinel
