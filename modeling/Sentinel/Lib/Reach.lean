import Mathlib

/-!
# Steps and distances

Following a successor function from one point: how many steps lead from `a` to `b`,
and how few.

## Main definitions

* `Steps next n a b` — `n` steps lead from `a` to `b`.
* `AtDistance next n a b` — `n` steps do, and no fewer.

## Main results

* `atDistance_succ_iff` — the points one further out are the successors of the points
  at a distance that are not nearer.
* `exists_atDistance_of_steps` — what can be reached is at some distance.
* `exists_steps_iff` — what can be reached, as a closure.
* `atDistance_reverse_iff` — the distance the other way is the same.
-/

variable {α : Type*} {next : α → List α} {a b c : α} {n m : ℕ}

/-- `n` steps lead from `a` to `b`. -/
inductive Steps (next : α → List α) : ℕ → α → α → Prop
  /-- No step leads nowhere else. -/
  | refl (a : α) : Steps next 0 a a
  /-- One more step at the end. -/
  | snoc {n : ℕ} {a b c : α} (h : Steps next n a b) (hc : c ∈ next b) : Steps next (n + 1) a c

/-- `n` steps lead from `a` to `b`, and no fewer. -/
def AtDistance (next : α → List α) (n : ℕ) (a b : α) : Prop :=
  Steps next n a b ∧ ∀ m < n, ¬ Steps next m a b

/-- A point is at one distance only. -/
theorem AtDistance.unique (h : AtDistance next n a b) (h' : AtDistance next m a b) : n = m := by
  have hle : ∀ {k l : ℕ}, Steps next k a b → AtDistance next l a b → l ≤ k :=
    fun hk hl => Nat.le_of_not_lt fun hlt => hl.2 _ hlt hk
  exact le_antisymm (hle h'.1 h) (hle h.1 h')

@[simp] theorem steps_zero_iff : Steps next 0 a b ↔ b = a := by
  constructor
  · intro h
    cases h
    rfl
  · rintro rfl
    exact .refl b

@[simp] theorem atDistance_zero_iff : AtDistance next 0 a b ↔ b = a := by
  simp [AtDistance]

/-- What can be reached is at some distance. -/
theorem exists_atDistance_of_steps (h : Steps next n a b) : ∃ m ≤ n, AtDistance next m a b := by
  classical
  have hex : ∃ m, Steps next m a b := ⟨n, h⟩
  exact ⟨Nat.find hex, Nat.find_min' hex h, Nat.find_spec hex, fun m hm => Nat.find_min hex hm⟩

/-- One further out are the successors of the points at a distance that are not
nearer. -/
theorem atDistance_succ_iff : AtDistance next (n + 1) a b ↔
    (∃ c, AtDistance next n a c ∧ b ∈ next c) ∧ ∀ m ≤ n, ¬ AtDistance next m a b := by
  constructor
  · rintro ⟨hsteps, hmin⟩
    refine ⟨?_, fun m hm h => hmin m (by omega) h.1⟩
    cases hsteps with
    | snoc h hb =>
      -- a shorter way to the last point but one would give a shorter way here
      exact ⟨_, ⟨h, fun m hm h' => hmin (m + 1) (by omega) (h'.snoc hb)⟩, hb⟩
  · rintro ⟨⟨c, hc, hb⟩, hmin⟩
    refine ⟨hc.1.snoc hb, fun m hm h => ?_⟩
    obtain ⟨k, hk, h⟩ := exists_atDistance_of_steps h
    exact hmin k (by omega) h

/-- Where no point is at a distance, none is further out. -/
theorem not_atDistance_of_le (hnone : ∀ b, ¬ AtDistance next n a b) (hle : n ≤ m) :
    ¬ AtDistance next m a b := by
  induction m, hle using Nat.le_induction generalizing b with
  | base => exact hnone b
  | succ m _ ih =>
    intro h
    obtain ⟨⟨c, hc, -⟩, -⟩ := atDistance_succ_iff.mp h
    exact ih hc

/-- One more step at the front. -/
theorem Steps.cons (hb : b ∈ next a) (h : Steps next n b c) : Steps next (n + 1) a c := by
  induction h with
  | refl b => exact (Steps.refl a).snoc hb
  | snoc _ hc ih => exact (ih hb).snoc hc

/-- What can be reached in some number of steps. -/
theorem exists_steps_iff : (∃ n, Steps next n a b) ↔ Relation.ReflTransGen (fun a b => b ∈ next a) a b := by
  constructor
  · rintro ⟨n, h⟩
    induction h with
    | refl a => exact .refl
    | snoc _ hc ih => exact ih.tail hc
  · intro h
    induction h with
    | refl => exact ⟨0, .refl a⟩
    | tail _ hc ih =>
      obtain ⟨n, h⟩ := ih
      exact ⟨n + 1, h.snoc hc⟩

/-- The steps of a way, taken the other way. -/
theorem Steps.reverse {back : α → List α} (hback : ∀ a b, b ∈ next a → a ∈ back b)
    (h : Steps next n a b) : Steps back n b a := by
  induction h with
  | refl a => exact .refl a
  | snoc _ hc ih => exact .cons (hback _ _ hc) ih

/-- **The distance the other way is the same.** -/
theorem atDistance_reverse_iff {back : α → List α} (hback : ∀ a b, b ∈ next a ↔ a ∈ back b) :
    AtDistance next n a b ↔ AtDistance back n b a := by
  have hsteps : ∀ m, Steps next m a b ↔ Steps back m b a := fun m =>
    ⟨Steps.reverse fun x y => (hback x y).mp, Steps.reverse fun x y => (hback y x).mpr⟩
  simp only [AtDistance, hsteps]
