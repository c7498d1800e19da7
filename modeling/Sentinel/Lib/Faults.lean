import Sentinel.Lib.Transaction

/-!
# Procedures whose operations may fail

A procedure works on what is in memory and on a store.  Its steps on the store are
operations, and each of them may fail; the procedure then ends without an answer, unless
the failure is caught.  What it has changed in memory stays changed.  In a transaction,
what was done to the store is undone if an operation fails, or the commit does.

## Main definitions

* `Faulty` — procedures; `Faulty.operation`, `Faulty.transaction`, `Faulty.attempt`.
* `Faulty.Heeds` — a procedure that ends without an answer if an operation of it failed.
* `Faulty.Ensures` — what holds after a procedure, with an answer or without.

## Main results

* `Heeds.bind`, `Heeds.transaction` and the like — how procedures that heed failures are
  put together.
* `Ensures.bind`, `Ensures.transaction` and the like — the rules for what holds after one.
-/

/-- What is in memory, and what is stored. -/
structure Held (μ σ : Type*) where
  /-- What is in memory. -/
  memory : μ
  /-- What is stored. -/
  store : σ

/-- A procedure: given which operations fail and how many there were before, its answer,
how many there were then, and what is held then. -/
def Faulty (μ σ : Type*) (α : Type*) := (ℕ → Bool) → ℕ → Held μ σ → Option α × ℕ × Held μ σ

/-- A statement on a part of a store. -/
def Statement.within {σ τ : Type*} (get : σ → τ) (put : σ → τ → σ) (statement : Statement τ) : Statement σ where
  permits := fun s => statement.permits (get s)
  effect := fun s => put s (statement.effect (get s))

/-- Statements on a part of a store change that part. -/
theorem effects_within {σ τ : Type*} {get : σ → τ} {put : σ → τ → σ} (hput : ∀ s, put s (get s) = s)
    (hget : ∀ s x, get (put s x) = x) (hagain : ∀ s x y, put (put s x) y = put s y)
    (statements : List (Statement τ)) (s : σ) :
    effects (statements.map (Statement.within get put)) s = put s (effects statements (get s)) :=
  effects_map_part get put (fun t statement => statement.effect t) (fun _ _ => rfl) hput hget hagain statements s

namespace Faulty

universe u

variable {μ σ : Type*} {α β : Type u}

/-! ### Procedures -/

instance : Monad (Faulty μ σ) where
  pure a := fun _ n h => (some a, n, h)
  bind m f := fun fault n h =>
    match m fault n h with
    | (some a, n, h) => f a fault n h
    | (none, n, h) => (none, n, h)

/-- End without an answer. -/
def fail : Faulty μ σ α := fun _ n h => (none, n, h)

/-- What is in memory. -/
def memory : Faulty μ σ μ := fun _ n h => (some h.memory, n, h)

/-- Change what is in memory. -/
def modify (f : μ → μ) : Faulty μ σ Unit := fun _ n h => (some (), n, { h with memory := f h.memory })

/-- An operation on the store; it also fails where the store refuses it. -/
def operation (f : σ → Option (α × σ)) : Faulty μ σ α := fun fault n h =>
  if fault n then (none, n + 1, h)
  else
    match f h.store with
    | none => (none, n + 1, h)
    | some (a, s) => (some a, n + 1, { h with store := s })

/-- An operation that only reads. -/
def read (f : σ → α) : Faulty μ σ α := operation fun s => some (f s, s)

/-- An operation that runs a statement. -/
def execute (statement : Statement σ) : Faulty μ σ Unit :=
  operation fun s => if statement.permits s then some ((), statement.effect s) else none

/-- Catch the failure of a procedure. -/
def attempt (m : Faulty μ σ α) : Faulty μ σ (Option α) := fun fault n h =>
  let (a, n, h) := m fault n h
  (some a, n, h)

/-- A transaction: it is begun and committed by operations of their own. -/
def transaction (m : Faulty μ σ α) : Faulty μ σ α := fun fault n h =>
  if fault n then (none, n + 1, h)
  else
    match m fault (n + 1) h with
    | (none, n, h') => (none, n, { h' with store := h.store })
    | (some a, n, h') => if fault n then (none, n + 1, { h' with store := h.store }) else (some a, n + 1, h')

variable {m : Faulty μ σ α} {f : α → Faulty μ σ β} {fault : ℕ → Bool} {n n' : ℕ} {h h' : Held μ σ}

theorem bind_of_some {a : α} (hm : m fault n h = (some a, n', h')) : (m >>= f) fault n h = f a fault n' h' := by
  change (match m fault n h with
    | (some a, n, h) => f a fault n h
    | (none, n, h) => (none, n, h)) = _
  rw [hm]

theorem bind_of_none (hm : m fault n h = (none, n', h')) : (m >>= f) fault n h = (none, n', h') := by
  change (match m fault n h with
    | (some a, n, h) => f a fault n h
    | (none, n, h) => (none, n, h)) = _
  rw [hm]

/-- A procedure whose answer is changed. -/
theorem bind_pure_run (g : α → β) :
    (m >>= fun a => pure (g a)) fault n h = ((m fault n h).1.map g, (m fault n h).2) := by
  rcases hm : m fault n h with ⟨_ | a, n', h'⟩
  · exact bind_of_none hm
  · exact bind_of_some hm

/-! ### Heeding failures -/

/-- If an operation of it fails, the procedure ends without an answer. -/
def Heeds (m : Faulty μ σ α) : Prop :=
  ∀ fault n h, n ≤ (m fault n h).2.1 ∧
    ((m fault n h).1.isSome = true → ∀ k, n ≤ k → k < (m fault n h).2.1 → fault k = false)

theorem Heeds.pure (a : α) : (pure a : Faulty μ σ α).Heeds :=
  fun _ n _ => ⟨le_refl n, fun _ _ hle hlt => absurd hlt (not_lt.mpr hle)⟩

theorem Heeds.fail : (fail : Faulty μ σ α).Heeds := fun _ n _ => ⟨le_refl n, fun h => by cases h⟩

theorem Heeds.memory : (memory : Faulty μ σ μ).Heeds :=
  fun _ n _ => ⟨le_refl n, fun _ _ hle hlt => absurd hlt (not_lt.mpr hle)⟩

theorem Heeds.modify (f : μ → μ) : (modify f : Faulty μ σ Unit).Heeds :=
  fun _ n _ => ⟨le_refl n, fun _ _ hle hlt => absurd hlt (not_lt.mpr hle)⟩

theorem Heeds.operation (f : σ → Option (α × σ)) : (operation f : Faulty μ σ α).Heeds := by
  intro fault n h
  unfold Faulty.operation
  cases hfault : fault n with
  | true => exact ⟨Nat.le_succ n, fun h => by cases h⟩
  | false =>
    rw [if_neg Bool.false_ne_true]
    cases f h.store with
    | none => exact ⟨Nat.le_succ n, fun h => by cases h⟩
    | some result =>
      refine ⟨Nat.le_succ n, fun _ k hle hlt => ?_⟩
      rw [Nat.le_antisymm (Nat.le_of_lt_succ hlt) hle]
      exact hfault

theorem Heeds.read (f : σ → α) : (read f : Faulty μ σ α).Heeds := .operation _

theorem Heeds.execute (statement : Statement σ) : (execute statement : Faulty μ σ Unit).Heeds := .operation _

theorem Heeds.bind (hm : m.Heeds) (hf : ∀ a, (f a).Heeds) : (m >>= f).Heeds := by
  intro fault n h
  obtain ⟨hle, hsome⟩ := hm fault n h
  rcases hrun : m fault n h with ⟨_ | a, n', h'⟩
  · rw [bind_of_none hrun]
    rw [hrun] at hle
    exact ⟨hle, fun h => by cases h⟩
  · rw [bind_of_some hrun]
    rw [hrun] at hle hsome
    obtain ⟨hle', hsome'⟩ := hf a fault n' h'
    refine ⟨hle.trans hle', fun hanswer k hk hlt => ?_⟩
    rcases lt_or_ge k n' with hbefore | hafter
    · exact hsome rfl k hk hbefore
    · exact hsome' hanswer k hafter hlt

/-- Procedures for the elements of a list, one after the other. -/
theorem Heeds.mapM {γ : Type*} {f : γ → Faulty μ σ α} (hf : ∀ c, (f c).Heeds) (l : List γ) :
    (l.mapM' f).Heeds := by
  induction l with
  | nil => exact .pure []
  | cons c l ih => exact (hf c).bind fun a => ih.bind fun as => .pure (a :: as)

theorem Heeds.forM {γ : Type*} {f : γ → Faulty μ σ PUnit} (hf : ∀ c, (f c).Heeds) (l : List γ) :
    (l.forM f).Heeds := by
  induction l with
  | nil => exact .pure _
  | cons c l ih => exact (hf c).bind fun _ => ih

theorem Heeds.foldlM {γ : Type*} {f : α → γ → Faulty μ σ α} (hf : ∀ a c, (f a c).Heeds) (l : List γ) :
    ∀ a, (l.foldlM f a).Heeds := by
  induction l with
  | nil => exact .pure
  | cons c l ih =>
    intro a
    rw [List.foldlM_cons]
    exact (hf a c).bind ih

theorem Heeds.transaction (hm : m.Heeds) : m.transaction.Heeds := by
  intro fault n h
  unfold Faulty.transaction
  cases hbegin : fault n with
  | true => exact ⟨Nat.le_succ n, fun h => by cases h⟩
  | false =>
    rw [if_neg Bool.false_ne_true]
    obtain ⟨hle, hsome⟩ := hm fault (n + 1) h
    rcases hrun : m fault (n + 1) h with ⟨_ | a, n', h'⟩
    · rw [hrun] at hle
      exact ⟨(Nat.le_succ n).trans hle, fun h => by cases h⟩
    · rw [hrun] at hle hsome
      dsimp only at hle hsome ⊢
      cases hcommit : fault n' with
      | true => exact ⟨by rw [if_pos rfl]; show n ≤ n' + 1; omega, fun h => by cases h⟩
      | false =>
        rw [if_neg Bool.false_ne_true]
        refine ⟨by show n ≤ n' + 1; omega, fun _ k hk hlt => ?_⟩
        rcases Nat.eq_or_lt_of_le hk with rfl | hk
        · exact hbegin
        · rcases Nat.eq_or_lt_of_le (Nat.le_of_lt_succ hlt) with rfl | hlt
          · exact hcommit
          · exact hsome rfl k hk hlt

/-- A failure that is caught is heeded if the procedure then ends without an answer. -/
theorem Heeds.attempt {f : Option α → Faulty μ σ β} (hm : m.Heeds) (hf : ∀ a, (f a).Heeds)
    (hnone : ∀ fault n h, (f none fault n h).1 = none) : (m.attempt >>= f).Heeds := by
  intro fault n h
  obtain ⟨hle, hsome⟩ := hm fault n h
  rcases hrun : m fault n h with ⟨answer, n', h'⟩
  rw [hrun] at hle hsome
  have hattempt : m.attempt fault n h = (some answer, n', h') := by
    unfold Faulty.attempt
    rw [hrun]
  rw [bind_of_some hattempt]
  obtain ⟨hle', hsome'⟩ := hf answer fault n' h'
  refine ⟨hle.trans hle', fun hanswer k hk hlt => ?_⟩
  cases answer with
  | none =>
    rw [hnone] at hanswer
    cases hanswer
  | some a =>
    rcases lt_or_ge k n' with hbefore | hafter
    · exact hsome rfl k hk hbefore
    · exact hsome' hanswer k hafter hlt

/-! ### What holds afterwards -/

/-- Begun with what is held, a procedure ends with an answer and `ok`, or without one and
`err`, whatever fails. -/
def Ensures (m : Faulty μ σ α) (h : Held μ σ) (ok : α → Held μ σ → Prop) (err : Held μ σ → Prop) : Prop :=
  ∀ fault n, (∀ a, (m fault n h).1 = some a → ok a (m fault n h).2.2) ∧
    ((m fault n h).1 = none → err (m fault n h).2.2)

variable {ok : α → Held μ σ → Prop} {err : Held μ σ → Prop}

theorem Ensures.imp {ok' : α → Held μ σ → Prop} {err' : Held μ σ → Prop} (hm : m.Ensures h ok err)
    (hok : ∀ a h', ok a h' → ok' a h') (herr : ∀ h', err h' → err' h') : m.Ensures h ok' err' :=
  fun fault n => ⟨fun a ha => hok _ _ ((hm fault n).1 a ha), fun hnone => herr _ ((hm fault n).2 hnone)⟩

theorem Ensures.pure {a : α} (hok : ok a h) : (pure a : Faulty μ σ α).Ensures h ok err :=
  fun _ _ => ⟨fun b hb => Option.some.inj hb ▸ hok, fun hnone => by cases hnone⟩

theorem Ensures.fail (herr : err h) : (fail : Faulty μ σ α).Ensures h ok err :=
  fun _ _ => ⟨fun _ hb => (by cases hb), fun _ => herr⟩

theorem Ensures.memory {ok : μ → Held μ σ → Prop} (hok : ok h.memory h) :
    (memory : Faulty μ σ μ).Ensures h ok err :=
  fun _ _ => ⟨fun _ hb => Option.some.inj hb ▸ hok, fun hnone => by cases hnone⟩

theorem Ensures.modify {ok : Unit → Held μ σ → Prop} {f : μ → μ} (hok : ok () { h with memory := f h.memory }) :
    (modify f : Faulty μ σ Unit).Ensures h ok err :=
  fun _ _ => ⟨fun _ _ => hok, fun hnone => by cases hnone⟩

theorem Ensures.operation {f : σ → Option (α × σ)} (herr : err h)
    (hok : ∀ a s, f h.store = some (a, s) → ok a { h with store := s }) :
    (operation f : Faulty μ σ α).Ensures h ok err := by
  intro fault n
  unfold Faulty.operation
  split
  · exact ⟨fun _ hb => (by cases hb), fun _ => herr⟩
  · cases hf : f h.store with
    | none => exact ⟨fun _ hb => (by cases hb), fun _ => herr⟩
    | some result =>
      obtain ⟨a, s⟩ := result
      exact ⟨fun b hb => Option.some.inj hb ▸ hok a s hf, fun hnone => by cases hnone⟩

theorem Ensures.read {f : σ → α} (herr : err h) (hok : ok (f h.store) h) :
    (read f : Faulty μ σ α).Ensures h ok err := by
  refine .operation herr fun a s hs => ?_
  obtain ⟨rfl, rfl⟩ := Prod.mk.inj (Option.some.inj hs)
  exact hok

theorem Ensures.bind {ok : β → Held μ σ → Prop}
    (hm : m.Ensures h (fun a h' => (f a).Ensures h' ok err) err) : (m >>= f).Ensures h ok err := by
  intro fault n
  obtain ⟨hsome, hnone⟩ := hm fault n
  rcases hrun : m fault n h with ⟨_ | a, n', h'⟩
  · rw [bind_of_none hrun]
    rw [hrun] at hnone
    exact ⟨fun _ hb => (by cases hb), fun _ => hnone rfl⟩
  · rw [bind_of_some hrun]
    rw [hrun] at hsome
    exact hsome a rfl fault n'

/-- What is done to the store by a transaction that fails is undone. -/
theorem Ensures.transaction (herr : err h)
    (hm : m.Ensures h (fun a h' => ok a h' ∧ err { h' with store := h.store })
      fun h' => err { h' with store := h.store }) : m.transaction.Ensures h ok err := by
  intro fault n
  unfold Faulty.transaction
  split
  · exact ⟨fun _ hb => (by cases hb), fun _ => herr⟩
  · obtain ⟨hsome, hnone⟩ := hm fault (n + 1)
    rcases hrun : m fault (n + 1) h with ⟨_ | a, n', h'⟩
    · rw [hrun] at hnone
      exact ⟨fun _ hb => (by cases hb), fun _ => hnone rfl⟩
    · rw [hrun] at hsome
      obtain ⟨hok, herr'⟩ := hsome a rfl
      dsimp only
      split
      · exact ⟨fun _ hb => (by cases hb), fun _ => herr'⟩
      · exact ⟨fun _ hb => Option.some.inj hb ▸ hok, fun h => by cases h⟩

theorem Ensures.attempt {ok : Option α → Held μ σ → Prop}
    (hm : m.Ensures h (fun a h' => ok (some a) h') fun h' => ok none h') : m.attempt.Ensures h ok err := by
  intro fault n
  obtain ⟨hsome, hnone⟩ := hm fault n
  unfold Faulty.attempt
  rcases hrun : m fault n h with ⟨answer, n', h'⟩
  rw [hrun] at hsome hnone
  refine ⟨fun b hb => ?_, fun h => by cases h⟩
  rw [← Option.some.inj hb]
  cases answer with
  | none => exact hnone rfl
  | some a => exact hsome a rfl

/-- What every element's procedure keeps, they keep together. -/
theorem Ensures.mapM {γ : Type*} {f : γ → Faulty μ σ α} {kept : Held μ σ → Prop}
    (hf : ∀ c h, kept h → (f c).Ensures h (fun _ => kept) err) (l : List γ) :
    ∀ h, kept h → (l.mapM' f).Ensures h (fun _ => kept) err := by
  induction l with
  | nil => exact fun h hkept => .pure hkept
  | cons c l ih =>
    intro h hkept
    refine .bind ((hf c h hkept).imp (fun a h' hkept' => .bind ?_) fun _ herr => herr)
    exact (ih h' hkept').imp (fun as h'' hkept'' => .pure hkept'') fun _ herr => herr

theorem Ensures.foldlM {γ : Type*} {f : α → γ → Faulty μ σ α} {kept : Held μ σ → Prop}
    (hf : ∀ a c h, kept h → (f a c).Ensures h (fun _ => kept) err) (l : List γ) :
    ∀ a h, kept h → (l.foldlM f a).Ensures h (fun _ => kept) err := by
  induction l with
  | nil => exact fun a h hkept => .pure hkept
  | cons c l ih =>
    intro a h hkept
    rw [List.foldlM_cons]
    exact .bind ((hf a c h hkept).imp (fun b h' hkept' => ih b h' hkept') fun _ herr => herr)

/-- Statements do what they do, one after the other. -/
theorem Ensures.execute_all {ok : PUnit → Held μ σ → Prop} (statements : List (Statement σ)) :
    ∀ h : Held μ σ, (∀ s, err { h with store := s }) →
      ok ⟨⟩ { h with store := effects statements h.store } →
        (statements.forM Faulty.execute).Ensures h ok err := by
  induction statements with
  | nil => exact fun h _ hok => .pure hok
  | cons statement statements ih =>
    intro h herr hok
    refine .bind (.operation (herr h.store) fun _ s hs => ?_)
    split at hs
    · obtain ⟨-, rfl⟩ := Prod.mk.inj (Option.some.inj hs)
      exact ih _ herr hok
    · cases hs

end Faulty
