import Sentinel.Incident.Resume

/-!
# Which incidents are resumed

Stored incidents are taken in one after the other, and of two with one fingerprint one is
kept: an active one rather than one that is not, then the one that began later.  That is a
comparison of ranks, so the one kept has the greatest rank whatever the order.

## Main definitions

* `Incident.standing` — whether an incident is active, and when it began.

## Main results

* `keepsExisting_iff` — what is kept is compared by its standing.
* `IncidentEngine.seed_greatest` — an engine keeps an incident of greatest standing.
* `IncidentEngine.seed_spec` — **which incident is kept does not depend on the order.**
-/

namespace Sentinel

/-- Whether an incident is active, and when it began. -/
def Incident.standing (i : Incident) : Bool ×ₗ Timestamp := toLex (i.status.isActive, i.startedAt)

namespace IncidentEngine

variable {f : String} {i : Incident} {incidents incidents' : List Incident}

/-- What is kept is compared by its standing. -/
theorem keepsExisting_iff (existing incident : Incident) :
    keepsExisting existing incident = true ↔ incident.standing ≤ existing.standing := by
  unfold keepsExisting Incident.standing
  rw [Prod.Lex.toLex_le_toLex]
  cases existing.status.isActive <;> cases incident.status.isActive <;> simp

/-- **An engine keeps an incident of greatest standing**, and one for every fingerprint. -/
theorem seed_greatest (incidents : List Incident) (f : String) :
    match (new.seed incidents).incidents[f]? with
    | none => ∀ j ∈ incidents, j.fingerprint ≠ f
    | some i => i ∈ incidents ∧ i.fingerprint = f ∧
        ∀ j ∈ incidents, j.fingerprint = f → j.standing ≤ i.standing := by
  induction incidents using List.reverseRecOn with
  | nil => nofun
  | append_singleton incidents j ih =>
    have hseed : new.seed (incidents ++ [j]) = (new.seed incidents).seedOne j := List.foldl_concat _ _ _ _
    rw [hseed]
    by_cases hf : j.fingerprint = f
    · subst hf
      rw [seedOne_getElem?_self]
      cases hheld : (new.seed incidents).incidents[j.fingerprint]? with
      | none =>
        rw [hheld] at ih
        refine ⟨by simp, rfl, fun k hk hkf => ?_⟩
        rcases List.mem_append.mp hk with hk | hk
        · exact absurd hkf (ih k hk)
        · rw [List.mem_singleton.mp hk]
      | some i =>
        rw [hheld] at ih
        obtain ⟨hmem, hf, hgreatest⟩ := ih
        dsimp only
        by_cases hkeep : keepsExisting i j = true
        · rw [if_pos hkeep]
          refine ⟨List.mem_append_left _ hmem, hf, fun k hk hkf => ?_⟩
          rcases List.mem_append.mp hk with hk | hk
          · exact hgreatest k hk hkf
          · rw [List.mem_singleton.mp hk]
            exact (keepsExisting_iff i j).mp hkeep
        · rw [if_neg hkeep]
          rw [keepsExisting_iff, not_le] at hkeep
          refine ⟨by simp, rfl, fun k hk hkf => ?_⟩
          rcases List.mem_append.mp hk with hk | hk
          · exact (hgreatest k hk hkf).trans hkeep.le
          · rw [List.mem_singleton.mp hk]
    · rw [seedOne_getElem?_of_ne _ hf]
      cases hheld : (new.seed incidents).incidents[f]? with
      | none =>
        rw [hheld] at ih
        intro k hk
        rcases List.mem_append.mp hk with hk | hk
        · exact ih k hk
        · rwa [List.mem_singleton.mp hk]
      | some i =>
        rw [hheld] at ih
        obtain ⟨hmem, hf', hgreatest⟩ := ih
        refine ⟨List.mem_append_left _ hmem, hf', fun k hk hkf => ?_⟩
        rcases List.mem_append.mp hk with hk | hk
        · exact hgreatest k hk hkf
        · rw [List.mem_singleton.mp hk] at hkf
          exact absurd hkf hf

theorem of_seed (h : (new.seed incidents).incidents[f]? = some i) : i ∈ incidents ∧ i.fingerprint = f ∧
    ∀ j ∈ incidents, j.fingerprint = f → j.standing ≤ i.standing := by
  have hgreatest := seed_greatest incidents f
  rwa [h] at hgreatest

/-- Every fingerprint is kept. -/
theorem isSome_seed (h : i ∈ incidents) : (new.seed incidents).incidents[i.fingerprint]?.isSome = true := by
  have hgreatest := seed_greatest incidents i.fingerprint
  cases hheld : (new.seed incidents).incidents[i.fingerprint]? with
  | none =>
    rw [hheld] at hgreatest
    exact absurd rfl (hgreatest i h)
  | some j => rfl

/-- If no two incidents of a fingerprint are of one standing, the order does not count. -/
theorem seed_eq_of_perm (hperm : incidents'.Perm incidents)
    (huntied : ∀ i ∈ incidents, ∀ j ∈ incidents, i.fingerprint = j.fingerprint → i.standing = j.standing → i = j) :
    new.seed incidents' = new.seed incidents := by
  have hext : (new.seed incidents').incidents = (new.seed incidents).incidents := by
    refine Std.ExtTreeMap.ext_getElem? fun f => ?_
    cases hheld' : (new.seed incidents').incidents[f]? with
    | none =>
      cases hheld : (new.seed incidents).incidents[f]? with
      | none => rfl
      | some i =>
        obtain ⟨hmem, hf, -⟩ := of_seed hheld
        have hsome := isSome_seed (hperm.mem_iff.mpr hmem)
        rw [hf, hheld'] at hsome
        cases hsome
    | some j =>
      obtain ⟨hmem', hf', hgreatest'⟩ := of_seed hheld'
      rw [hperm.mem_iff] at hmem'
      cases hheld : (new.seed incidents).incidents[f]? with
      | none =>
        have hsome := isSome_seed hmem'
        rw [hf', hheld] at hsome
        cases hsome
      | some i =>
        obtain ⟨hmem, hf, hgreatest⟩ := of_seed hheld
        have hle := hgreatest' i (hperm.mem_iff.mpr hmem) hf
        rw [huntied i hmem j hmem' (hf.trans hf'.symm) (le_antisymm hle (hgreatest j hmem' hf'))]
  exact congrArg IncidentEngine.mk hext

/-- **Which incident is kept does not depend on the order**: each fingerprint has one of
greatest standing, an active one if there is one, and the same one for every order of the
list if no two tie. -/
theorem seed_spec (incidents : List Incident) :
    (∀ i ∈ incidents, (new.seed incidents).incidents[i.fingerprint]?.isSome = true) ∧
      (∀ f i, (new.seed incidents).incidents[f]? = some i →
        i ∈ incidents ∧ i.fingerprint = f ∧ ∀ j ∈ incidents, j.fingerprint = f →
          j.standing ≤ i.standing ∧ (j.status.isActive = true → i.status.isActive = true)) ∧
      ((∀ i ∈ incidents, ∀ j ∈ incidents,
          i.fingerprint = j.fingerprint → i.standing = j.standing → i = j) →
        ∀ incidents' : List Incident, incidents'.Perm incidents → new.seed incidents' = new.seed incidents) := by
  refine ⟨fun i hi => isSome_seed hi, fun f i h => ?_, fun huntied incidents' hperm => seed_eq_of_perm hperm huntied⟩
  obtain ⟨hmem, hf, hgreatest⟩ := of_seed h
  refine ⟨hmem, hf, fun j hj hjf => ⟨hgreatest j hj hjf, fun hactive => ?_⟩⟩
  have hle : j.status.isActive ≤ i.status.isActive := by
    rcases Prod.Lex.toLex_le_toLex.mp (hgreatest j hj hjf) with hlt | ⟨heq, -⟩
    · exact hlt.le
    · exact heq.le
  rw [hactive] at hle
  exact top_le_iff.mp hle

end IncidentEngine

end Sentinel
