import Sentinel.Notification.Basic

/-!
# What fingerprints tell apart

A fingerprint lists the identifiers that a diagnosis blames, or those that it affects if it
blames none, sorted and without repetition.  The text of an identifier has no commas, so the
list is recovered from its text.

## Main definitions

* `SameCause` — two diagnoses blame the same entities, or blame none and affect the same.

## Main results

* `identifiers_eq_iff` — a text of identifiers stands for a set.
* `fingerprint_eq_iff` — **two diagnoses have one fingerprint exactly if they have the same
  cause.**
-/

namespace Sentinel

/-- Two diagnoses blame the same entities; or they blame none, and affect the same. -/
def SameCause (a b : Diagnosis) : Prop :=
  (a.suspectedRootEntities ≠ [] ∧ b.suspectedRootEntities ≠ [] ∧
      ∀ e, e ∈ a.suspectedRootEntities ↔ e ∈ b.suspectedRootEntities) ∨
    (a.suspectedRootEntities = [] ∧ b.suspectedRootEntities = [] ∧
      ∀ e, e ∈ a.affectedEntities ↔ e ∈ b.affectedEntities)

section Fingerprint

/-- The text of some entities: their identifiers, with commas between them. -/
def identifiers (entities : List EntityId) : String :=
  ",".intercalate (entities.map fun e => e.uuid.toText).sortDedup

/-- Joined with commas, texts without commas are found by splitting. -/
theorem splitOn_intercalate_comma {l : List String} (hne : l ≠ []) (h : ∀ s ∈ l, ',' ∉ s.toList) :
    (",".intercalate l).toList.splitOn ',' = l.map String.toList := by
  rw [String.toList_intercalate]
  refine List.splitOn_intercalate ',' (fun part hpart => ?_) (by simpa using hne)
  obtain ⟨s, hs, rfl⟩ := List.mem_map.mp hpart
  exact h s hs

/-- Texts without commas are told apart when they are joined with commas. -/
theorem intercalate_comma_inj {l l' : List String} (h : ∀ s ∈ l, s ≠ "" ∧ ',' ∉ s.toList)
    (h' : ∀ s ∈ l', s ≠ "" ∧ ',' ∉ s.toList) (heq : ",".intercalate l = ",".intercalate l') : l = l' := by
  -- nothing is joined to a text only if there is nothing to join
  have hnil : ∀ l : List String, (∀ s ∈ l, s ≠ "" ∧ ',' ∉ s.toList) → ",".intercalate l = "" → l = [] := by
    intro l h hempty
    by_contra hne
    have hsplit := splitOn_intercalate_comma hne fun s hs => (h s hs).2
    rw [hempty, String.toList_empty, List.splitOn_nil] at hsplit
    obtain ⟨s, hs, htext⟩ : ∃ s ∈ l, s.toList = [] := List.mem_map.mp (hsplit ▸ List.mem_singleton_self [])
    exact (h s hs).1 (String.toList_eq_nil_iff.mp htext)
  by_cases hl : l = []
  · subst hl
    exact (hnil l' h' heq.symm).symm
  · by_cases hl' : l' = []
    · subst hl'
      exact hnil l h heq
    · have hsplit := splitOn_intercalate_comma hl fun s hs => (h s hs).2
      rw [heq, splitOn_intercalate_comma hl' fun s hs => (h' s hs).2] at hsplit
      exact (List.map_injective_iff.mpr (fun _ _ => String.toList_injective) hsplit).symm

/-- **A text of identifiers stands for a set.** -/
theorem identifiers_eq_iff {entities entities' : List EntityId} :
    identifiers entities = identifiers entities' ↔ ∀ e, e ∈ entities ↔ e ∈ entities' := by
  have hinj : Function.Injective fun e : EntityId => e.uuid.toText := by
    rintro ⟨u⟩ ⟨v⟩ h
    exact congrArg EntityId.mk (Uuid.toText_injective h)
  have htexts : ∀ entities : List EntityId, ∀ s ∈ (entities.map fun e => e.uuid.toText).sortDedup,
      s ≠ "" ∧ ',' ∉ s.toList := by
    intro entities s hs
    obtain ⟨e, -, rfl⟩ := List.mem_map.mp (List.mem_sortDedup.mp hs)
    exact ⟨Uuid.toText_ne_empty _, notMem_toText (by decide) (by decide) _⟩
  have hset : identifiers entities = identifiers entities' ↔
      (entities.map fun e => e.uuid.toText).sortDedup = (entities'.map fun e => e.uuid.toText).sortDedup :=
    ⟨intercalate_comma_inj (htexts entities) (htexts entities'), congrArg _⟩
  rw [hset, List.sortDedup_eq_iff]
  constructor
  · intro h e
    have he := h e.uuid.toText
    rwa [List.mem_map_of_injective hinj, List.mem_map_of_injective hinj] at he
  · intro h text
    simp only [List.mem_map, h]

/-- What is before the colon of a fingerprint. -/
theorem fingerprint_eq (d : Diagnosis) : fingerprint d =
    if d.suspectedRootEntities = [] then "affects:" ++ identifiers d.affectedEntities
    else "cause:" ++ identifiers d.suspectedRootEntities := by
  unfold fingerprint
  simp only [List.isEmpty_iff]
  rfl

/-- A cause is not written as what is affected. -/
theorem cause_ne_affects (s t : String) : "cause:" ++ s ≠ "affects:" ++ t := by
  intro h
  have hlist := congrArg String.toList h
  rw [String.toList_append, String.toList_append] at hlist
  exact absurd (List.cons.inj hlist).1 (by decide)

/-- **Two diagnoses have one fingerprint exactly if they have the same cause.** -/
theorem fingerprint_eq_iff (a b : Diagnosis) : fingerprint a = fingerprint b ↔ SameCause a b := by
  rw [fingerprint_eq, fingerprint_eq, SameCause]
  by_cases ha : a.suspectedRootEntities = []
  · by_cases hb : b.suspectedRootEntities = []
    · rw [if_pos ha, if_pos hb, String.append_right_inj, identifiers_eq_iff]
      simp [ha, hb]
    · rw [if_pos ha, if_neg hb]
      exact iff_of_false (cause_ne_affects _ _).symm (by simp [ha, hb])
  · by_cases hb : b.suspectedRootEntities = []
    · rw [if_neg ha, if_pos hb]
      exact iff_of_false (cause_ne_affects _ _) (by simp [ha, hb])
    · rw [if_neg ha, if_neg hb, String.append_right_inj, identifiers_eq_iff]
      simp [ha, hb]

end Fingerprint

end Sentinel
