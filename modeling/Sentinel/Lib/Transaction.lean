import Mathlib

/-!
# Transactions

A transaction runs statements one after the other.  A statement fails where it is not
permitted, or for a reason of its own, and then the transaction leaves nothing behind.

## Main definitions

* `Statement` — what a statement needs, and what it does.
* `transaction` — statements run all or not at all.

## Main results

* `transaction_of_failed` — a transaction that fails changes nothing.
* `transaction_of_committed` — one that commits has done what its statements do.
-/

/-- One statement of a transaction. -/
structure Statement (σ : Type*) where
  /-- Whether the constraints permit it. -/
  permits : σ → Bool
  /-- What it does. -/
  effect : σ → σ

variable {σ : Type*} {fault : ℕ → Bool} {statements : List (Statement σ)} {s : σ}

/-- The states that statements lead to. -/
def effects (statements : List (Statement σ)) (s : σ) : σ :=
  statements.foldl (fun s statement => statement.effect s) s

@[simp] theorem effects_nil : effects [] s = s := rfl

@[simp] theorem effects_cons (statement : Statement σ) :
    effects (statement :: statements) s = effects statements (statement.effect s) := rfl

theorem effects_append (more : List (Statement σ)) :
    effects (statements ++ more) s = effects more (effects statements s) := List.foldl_append

/-- Statements one after the other, for each element of a list. -/
theorem effects_flatMap {α : Type*} (statements : α → List (Statement σ)) (l : List α) :
    ∀ s : σ, effects (l.flatMap statements) s = l.foldl (fun s a => effects (statements a) s) s := by
  induction l with
  | nil => intro s; rfl
  | cons a l ih =>
    intro s
    rw [List.flatMap_cons, effects_append, ih, List.foldl_cons]

/-- Statements that each write one part of the state write it together. -/
theorem effects_map_part {α τ : Type*} {f : α → Statement σ} (get : σ → τ) (put : σ → τ → σ) (g : τ → α → τ)
    (heffect : ∀ a s, (f a).effect s = put s (g (get s) a)) (hput : ∀ s, put s (get s) = s)
    (hget : ∀ s x, get (put s x) = x) (hagain : ∀ s x y, put (put s x) y = put s y) (l : List α) :
    ∀ s, effects (l.map f) s = put s (l.foldl g (get s)) := by
  induction l with
  | nil => intro s; exact (hput s).symm
  | cons a l ih =>
    intro s
    rw [List.map_cons, effects_cons, ih, heffect, hget, hagain, List.foldl_cons]

/-- Run statements, the first of them with the given number; `none` if one fails. -/
def runStatements (fault : ℕ → Bool) : ℕ → List (Statement σ) → σ → Option σ
  | _, [], s => some s
  | n, statement :: rest, s =>
    if fault n || !statement.permits s then none else runStatements fault (n + 1) rest (statement.effect s)

/-- Run statements in a transaction: what is there after it, and whether it committed. -/
def transaction (fault : ℕ → Bool) (statements : List (Statement σ)) (s : σ) : σ × Bool :=
  match runStatements fault 0 statements s with
  | some committed => (committed, true)
  | none => (s, false)

theorem runStatements_eq_some (statements : List (Statement σ)) :
    ∀ {n : ℕ} {s committed : σ}, runStatements fault n statements s = some committed →
      committed = effects statements s := by
  induction statements with
  | nil =>
    intro n s committed h
    exact (Option.some.inj h).symm
  | cons statement rest ih =>
    intro n s committed h
    rw [runStatements] at h
    split at h
    · cases h
    · exact ih h

/-- **A transaction that fails changes nothing.** -/
theorem transaction_of_failed (h : (transaction fault statements s).2 = false) :
    (transaction fault statements s).1 = s := by
  unfold transaction at h ⊢
  cases hrun : runStatements fault 0 statements s with
  | none => rfl
  | some committed =>
    rw [hrun] at h
    cases h

/-- **A transaction that commits** has done what its statements do. -/
theorem transaction_of_committed (h : (transaction fault statements s).2 = true) :
    (transaction fault statements s).1 = effects statements s := by
  unfold transaction at h ⊢
  cases hrun : runStatements fault 0 statements s with
  | none =>
    rw [hrun] at h
    cases h
  | some committed => exact runStatements_eq_some statements hrun

/-- What every statement keeps, they keep together. -/
theorem effects_invariant {P : σ → Prop} (hkeep : ∀ statement ∈ statements, ∀ s, P s → P (statement.effect s))
    (hs : P s) : P (effects statements s) := by
  induction statements generalizing s with
  | nil => exact hs
  | cons statement rest ih =>
    rw [List.forall_mem_cons] at hkeep
    exact ih hkeep.2 (hkeep.1 s hs)
