import Mathlib

/-!
# Looking back

Somebody looks from time to time at what was written in the last stretch of time, of a
fixed length.  Nothing that is written between the first look and the last is missed
exactly if no two looks that follow each other lie further apart than that.

## Main definitions

* `List.Gapless` — nothing is missed.

## Main results

* `List.gapless_iff` — looks that are not too far apart.
-/

namespace List

variable {α : Type*} [LinearOrder α] [AddCommMonoid α] [IsOrderedAddMonoid α]

/-- What is written at any moment between two looks is seen: by one that comes later, but
not by more than the stretch looked back. -/
def Gapless (window : α) (looks : List α) : Prop :=
  ∀ m, (∃ a ∈ looks, a ≤ m) → (∃ b ∈ looks, m < b) → ∃ r ∈ looks, m < r ∧ r ≤ m + window

variable {window : α} {looks : List α}

/-- **Nothing is missed exactly if the looks are not too far apart.** -/
theorem gapless_iff (hwindow : 0 ≤ window) (hsorted : looks.Pairwise (· ≤ ·)) :
    looks.Gapless window ↔ looks.IsChain fun a b => b ≤ a + window := by
  induction looks with
  | nil => exact iff_of_true (fun m ⟨a, ha, _⟩ => absurd ha not_mem_nil) isChain_nil
  | cons a looks ih =>
    obtain ⟨hfirst, hrest⟩ := pairwise_cons.mp hsorted
    cases looks with
    | nil =>
      refine iff_of_true ?_ (isChain_singleton _)
      rintro m ⟨c, hc, hle⟩ ⟨d, hd, hlt⟩
      rw [mem_singleton.mp hc] at hle
      rw [mem_singleton.mp hd] at hlt
      exact absurd hle (not_le.mpr hlt)
    | cons b looks =>
      have hab : a ≤ b := hfirst b mem_cons_self
      have hb : ∀ r ∈ b :: looks, b ≤ r := fun r hr =>
        (mem_cons.mp hr).elim (fun heq => heq.ge) ((pairwise_cons.mp hrest).1 r)
      rw [isChain_cons_cons, ← ih hrest]
      constructor
      · intro h
        refine ⟨?_, fun m hbefore hafter => ?_⟩
        · -- what is written just after the first look is seen by the second at the earliest
          rcases hab.eq_or_lt with rfl | hlt
          · exact le_add_of_nonneg_right hwindow
          · obtain ⟨r, hr, hmr, hle⟩ := h a ⟨a, mem_cons_self, le_rfl⟩ ⟨b, mem_cons_of_mem _ mem_cons_self, hlt⟩
            rcases mem_cons.mp hr with rfl | hr
            · exact absurd hmr (lt_irrefl _)
            · exact (hb r hr).trans hle
        · obtain ⟨c, hc, hcm⟩ := hbefore
          obtain ⟨d, hd, hmd⟩ := hafter
          obtain ⟨r, hr, hmr, hle⟩ := h m ⟨c, mem_cons_of_mem _ hc, hcm⟩ ⟨d, mem_cons_of_mem _ hd, hmd⟩
          rcases mem_cons.mp hr with rfl | hr
          · exact absurd (hmr.trans_le ((hfirst c hc).trans hcm)) (lt_irrefl _)
          · exact ⟨r, hr, hmr, hle⟩
      · rintro ⟨hgap, h⟩ m ⟨c, hc, hcm⟩ ⟨d, hd, hmd⟩
        have ham : a ≤ m := (mem_cons.mp hc).elim (fun heq => heq ▸ hcm) fun hc => (hfirst c hc).trans hcm
        rcases lt_or_ge m b with hmb | hbm
        · exact ⟨b, mem_cons_of_mem _ mem_cons_self, hmb, hgap.trans (add_le_add_left ham window)⟩
        · rcases mem_cons.mp hd with rfl | hd
          · exact absurd (ham.trans_lt hmd) (lt_irrefl _)
          · obtain ⟨r, hr, hmr, hle⟩ := h m ⟨b, mem_cons_self, hbm⟩ ⟨d, hd, hmd⟩
            exact ⟨r, mem_cons_of_mem _ hr, hmr, hle⟩

end List
