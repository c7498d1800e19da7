import Mathlib

/-!
# Runs of equal outcomes in a list

A hysteresis rule changes its mind after so many consecutive outcomes of one
kind.  This file says what such a rule remembers of a list of outcomes: how many
of the last ones are of a kind, whether somewhere so many in a row were, and
whether a long enough row of one kind still *stands*, that is, has not been
answered by a long enough row of the other.

## Main definitions

* `List.trailing p xs` — how many of the last elements satisfy `p`.
* `List.HasRun p n xs` — somewhere `n` consecutive elements satisfy `p`.
* `List.Stands p n q m xs` — `n` consecutive elements satisfy `p`, and no `m`
  consecutive ones after them satisfy `q`.
* `UInt32.saturatingAdd` — the addition a run counter uses, which stops at the
  greatest value.

## Main results

* `List.stands_concat` — what one more element does to a standing run.
* `List.hasRun_iff_infix` — `HasRun` as a block in the middle of the list.
-/

namespace List

variable {α : Type*} {p q : α → Bool} {n m : ℕ} {xs ys : List α} {z : α}

/-! ### Trailing elements -/

/-- How many of the last elements satisfy `p`. -/
def trailing (p : α → Bool) (xs : List α) : ℕ := (xs.rtakeWhile p).length

@[simp] theorem trailing_nil (p : α → Bool) : trailing p [] = 0 := rfl

theorem trailing_concat (p : α → Bool) (xs : List α) (z : α) :
    trailing p (xs ++ [z]) = if p z then trailing p xs + 1 else 0 := by
  unfold trailing
  split
  · next h => rw [rtakeWhile_concat_pos _ _ _ h, length_append, length_singleton]
  · next h => rw [rtakeWhile_concat_neg _ _ _ h, length_nil]

theorem trailing_le_length (p : α → Bool) (xs : List α) : trailing p xs ≤ xs.length :=
  (rtakeWhile_suffix p xs).length_le

/-- A list that ends in an element of the other kind has no trailing run. -/
theorem trailing_eq_zero_of_disjoint (hpq : ∀ x, p x = true → q x = false)
    (h : 1 ≤ trailing p xs) : trailing q xs = 0 := by
  induction xs using List.reverseRecOn with
  | nil => simp at h
  | append_singleton xs z _ =>
    rw [trailing_concat] at h ⊢
    split at h
    · next hz => rw [if_neg (by rw [hpq z hz]; simp)]
    · omega

theorem trailing_append (p : α → Bool) (xs ys : List α) :
    trailing p (xs ++ ys) = if trailing p ys = ys.length then trailing p xs + ys.length
      else trailing p ys := by
  induction ys using List.reverseRecOn with
  | nil => simp
  | append_singleton ys z ih =>
    rw [← append_assoc, trailing_concat, trailing_concat, ih, length_append, length_singleton]
    have := trailing_le_length p ys
    split
    · split
      · rw [if_pos (by omega)]; omega
      · rw [if_neg (by omega)]
    · rw [if_neg (by omega)]

/-! ### A run somewhere in the list -/

/-- Somewhere in the list `n` consecutive elements satisfy `p`. -/
def HasRun (p : α → Bool) (n : ℕ) (xs : List α) : Prop :=
  ∃ ys zs, xs = ys ++ zs ∧ n ≤ trailing p ys

theorem hasRun_concat : HasRun p n (xs ++ [z]) ↔ HasRun p n xs ∨ n ≤ trailing p (xs ++ [z]) := by
  constructor
  · rintro ⟨ys, zs, h, hn⟩
    rcases eq_nil_or_concat zs with rfl | ⟨zs, w, rfl⟩
    · rw [append_nil] at h
      exact Or.inr (h ▸ hn)
    · rw [concat_eq_append, ← append_assoc] at h
      exact Or.inl ⟨ys, zs, (append_inj' h rfl).1, hn⟩
  · rintro (⟨ys, zs, rfl, hn⟩ | hn)
    · exact ⟨ys, zs ++ [z], append_assoc ys zs [z], hn⟩
    · exact ⟨xs ++ [z], [], (append_nil _).symm, hn⟩

theorem hasRun_nil : HasRun p n [] ↔ n = 0 := by
  constructor
  · rintro ⟨ys, zs, h, hle⟩
    rw [(append_eq_nil_iff.mp h.symm).1, trailing_nil] at hle
    exact Nat.le_zero.mp hle
  · rintro rfl
    exact ⟨[], [], rfl, Nat.zero_le _⟩

theorem not_hasRun_nil (hn : 1 ≤ n) : ¬ HasRun p n [] := by
  rw [hasRun_nil]
  omega

/-- A run is a block of the list all of whose elements satisfy `p`. -/
theorem hasRun_iff_infix : HasRun p n xs ↔
    ∃ before block after, xs = before ++ block ++ after ∧ n ≤ block.length ∧
      ∀ x ∈ block, p x = true := by
  constructor
  · rintro ⟨ys, zs, rfl, hn⟩
    refine ⟨ys.rdropWhile p, ys.rtakeWhile p, zs, ?_, hn, fun x => mem_rtakeWhile_imp⟩
    rw [rdropWhile_append_rtakeWhile]
  · rintro ⟨before, block, after, rfl, hn, hall⟩
    refine ⟨before ++ block, after, rfl, ?_⟩
    have hblock : trailing p block = block.length := by
      rw [trailing, rtakeWhile_eq_self_iff.mpr hall]
    rw [trailing_append, if_pos hblock]
    omega

/-! ### A run that still stands -/

/-- `n` consecutive elements satisfy `p`, and after them no `m` consecutive
elements satisfy `q`. -/
def Stands (p : α → Bool) (n : ℕ) (q : α → Bool) (m : ℕ) (xs : List α) : Prop :=
  ∃ ys zs, xs = ys ++ zs ∧ n ≤ trailing p ys ∧ ¬ HasRun q m zs

theorem not_stands_nil (hn : 1 ≤ n) : ¬ Stands p n q m [] := by
  rintro ⟨ys, zs, h, hle, -⟩
  rw [(append_eq_nil_iff.mp h.symm).1, trailing_nil] at hle
  omega

/-- **One more element.**  A run of `p` stands after one more element when that
element completes one, or when one stood before and the element does not
complete a run of `q` that answers it. -/
theorem stands_concat (hpq : ∀ x, p x = true → q x = false) (hn : 1 ≤ n) (hm : 1 ≤ m) :
    Stands p n q m (xs ++ [z]) ↔
      n ≤ trailing p (xs ++ [z]) ∨ (Stands p n q m xs ∧ trailing q (xs ++ [z]) < m) := by
  constructor
  · rintro ⟨ys, zs, h, hle, hrun⟩
    rcases eq_nil_or_concat zs with rfl | ⟨zs, w, rfl⟩
    · rw [append_nil] at h
      exact Or.inl (h ▸ hle)
    · rw [concat_eq_append] at h hrun
      rw [← append_assoc] at h
      obtain ⟨hxs, hw⟩ := append_inj' h rfl
      have hw : z = w := by simpa using hw
      subst hw
      rw [hasRun_concat, not_or] at hrun
      refine Or.inr ⟨⟨ys, zs, hxs, hle, hrun.1⟩, ?_⟩
      -- the trailing run of `q` cannot reach back into `ys`, which ends in `p`
      have hys : trailing q ys = 0 := trailing_eq_zero_of_disjoint hpq (le_trans hn hle)
      rw [hxs, append_assoc, trailing_append, hys]
      split <;> omega
  · rintro (hle | ⟨⟨ys, zs, rfl, hle, hrun⟩, hlt⟩)
    · exact ⟨xs ++ [z], [], (append_nil _).symm, hle, not_hasRun_nil hm⟩
    · refine ⟨ys, zs ++ [z], append_assoc ys zs [z], hle, ?_⟩
      rw [hasRun_concat, not_or]
      refine ⟨hrun, ?_⟩
      rw [append_assoc, trailing_append] at hlt
      split at hlt <;> omega

/-! ### Runs of a mapped list -/

variable {β : Type*} (f : β → α)

theorem trailing_map (p : α → Bool) (xs : List β) :
    trailing p (xs.map f) = trailing (p ∘ f) xs := by
  induction xs using List.reverseRecOn with
  | nil => rfl
  | append_singleton xs z ih =>
    rw [map_append, map_singleton, trailing_concat, trailing_concat, ih]
    rfl

theorem hasRun_map {xs : List β} : HasRun p n (xs.map f) ↔ HasRun (p ∘ f) n xs := by
  constructor
  · rintro ⟨ys, zs, h, hn⟩
    obtain ⟨ys', zs', rfl, rfl, rfl⟩ := map_eq_append_iff.mp h
    exact ⟨ys', zs', rfl, trailing_map f p ys' ▸ hn⟩
  · rintro ⟨ys, zs, rfl, hn⟩
    exact ⟨ys.map f, zs.map f, map_append, (trailing_map f p ys).symm ▸ hn⟩

theorem stands_map {xs : List β} :
    Stands p n q m (xs.map f) ↔ Stands (p ∘ f) n (q ∘ f) m xs := by
  constructor
  · rintro ⟨ys, zs, h, hn, hrun⟩
    obtain ⟨ys', zs', rfl, rfl, rfl⟩ := map_eq_append_iff.mp h
    exact ⟨ys', zs', rfl, trailing_map f p ys' ▸ hn, fun hq => hrun ((hasRun_map f).mpr hq)⟩
  · rintro ⟨ys, zs, rfl, hn, hrun⟩
    exact ⟨ys.map f, zs.map f, map_append, (trailing_map f p ys).symm ▸ hn,
      fun hq => hrun ((hasRun_map f).mp hq)⟩

end List

/-! ### Counters that saturate -/

namespace UInt32

/-- Addition that stops at the greatest value instead of wrapping around. -/
def saturatingAdd (a b : UInt32) : UInt32 := UInt32.ofNat (min (a.toNat + b.toNat) (2 ^ 32 - 1))

theorem toNat_saturatingAdd (a b : UInt32) :
    (a.saturatingAdd b).toNat = min (a.toNat + b.toNat) (2 ^ 32 - 1) := by
  rw [saturatingAdd, UInt32.toNat_ofNat_of_lt']
  rw [UInt32.size]
  omega

/-- A counter that saturates passes the same thresholds as one that does not:
the greatest threshold is the greatest value. -/
theorem le_iff_of_toNat_eq_min {t a : UInt32} {n : ℕ} (h : a.toNat = min n (2 ^ 32 - 1)) :
    t ≤ a ↔ t.toNat ≤ n := by
  have := t.toNat_lt
  rw [UInt32.le_iff_toNat_le, h]
  omega

end UInt32
