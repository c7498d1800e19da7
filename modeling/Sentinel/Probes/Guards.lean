import Sentinel.Probes.Runner

/-!
# Slots and their guards

Who takes a slot holds a guard, and the slot comes back when the guard is dropped, however
its task ends.  Taking a slot makes an entry for its key before it is known whether there is
a slot to take; an entry that comes down to zero goes.

## Main definitions

* `OutstandingGuard.acquire` — what taking a slot does to the counters.
* `Slots`, `Slots.step` — the counters and the guards that are live.
* `Slots.Exact` — every counter is the number of live guards of its key.

## Main results

* `OutstandingGuard.acquire_eq` — with a limit of at least one, a refusal changes nothing.
* `Slots.Exact.step`, `Slots.exact_run` — counters stay exact.
* `Slots.run_spec` — **no slot is leaked or granted twice.**
-/

namespace Sentinel

/-- What slots are counted by. -/
abbrev SlotKey := ProbeId × EntityId

namespace OutstandingGuard

/-- Take a slot: make an entry for the key, and count one more if the limit is not reached.
Whether it was taken is told beside the counters. -/
def acquire (counters : Counters) (key : SlotKey) (limit : ℕ) : Counters × Bool :=
  let entered := match counters[key]? with
    | some _ => counters
    | none => counters.insert key 0
  let count := entered.outstanding key
  if limit ≤ count then (entered, false) else (entered.insert key (count + 1), true)

end OutstandingGuard

/-- How a task that holds a guard ends; the guard is dropped in the same way. -/
inductive Ending
  /-- The probe returned. -/
  | finished
  /-- The task was cancelled. -/
  | cancelled
  /-- The probe panicked. -/
  | panicked
  deriving DecidableEq

/-- What happens to the slots. -/
inductive SlotEvent
  /-- A guard is asked for, with a limit of at least one. -/
  | acquire (key : SlotKey) (limit : ℕ+)
  /-- A live guard is dropped. -/
  | drop (n : ℕ) (ending : Ending)

/-- The counters, and the keys of the guards that are live. -/
structure Slots where
  /-- How many slots are taken. -/
  counters : Counters
  /-- The live guards. -/
  live : List SlotKey

namespace Slots

/-- No slot is taken. -/
def new : Slots := ⟨∅, []⟩

/-- What an event does. -/
def step (slots : Slots) : SlotEvent → Slots
  | .acquire key limit =>
    let (counters, granted) := OutstandingGuard.acquire slots.counters key limit
    ⟨counters, if granted then slots.live ++ [key] else slots.live⟩
  | .drop n _ =>
    match slots.live[n]? with
    | none => slots
    | some key => ⟨slots.counters.release key, slots.live.eraseIdx n⟩

/-- The slots after some events. -/
def run (log : List SlotEvent) : Slots := log.foldl step new

/-- Whether a guard that is asked for is granted. -/
def granted (slots : Slots) (key : SlotKey) (limit : ℕ+) : Bool := (OutstandingGuard.acquire slots.counters key limit).2

/-- Every counter is the number of live guards of its key; one that would be zero is not there. -/
def Exact (slots : Slots) : Prop :=
  ∀ key, slots.counters[key]? = if slots.live.count key = 0 then none else some (slots.live.count key)

section Exact

variable {slots : Slots} {key other : SlotKey}

theorem exact_new : new.Exact := fun _ => rfl

theorem Exact.outstanding (h : slots.Exact) (key : SlotKey) : slots.counters.outstanding key = slots.live.count key := by
  rw [Counters.outstanding, h key]
  split
  · next hzero => rw [hzero]; rfl
  · rfl

/-- With a limit of at least one a refusal changes nothing, as an entry of zero is never left. -/
theorem Exact.acquire_eq (h : slots.Exact) (key : SlotKey) (limit : ℕ+) :
    OutstandingGuard.acquire slots.counters key limit =
      if slots.live.count key < limit then (slots.counters.insert key (slots.live.count key + 1), true)
      else (slots.counters, false) := by
  have hkey := h key
  unfold OutstandingGuard.acquire
  by_cases hzero : slots.live.count key = 0
  · rw [if_pos hzero] at hkey
    have htwice : (slots.counters.insert key 0).insert key 1 = slots.counters.insert key 1 := by
      refine Std.ExtTreeMap.ext_getElem? fun other => ?_
      rw [Std.ExtTreeMap.getElem?_insert_eq, Std.ExtTreeMap.getElem?_insert_eq, Std.ExtTreeMap.getElem?_insert_eq]
      split <;> rfl
    have hentered : Counters.outstanding (slots.counters.insert key 0) key = 0 := by
      rw [Counters.outstanding_insert, if_pos rfl]
    simp only [hkey, hentered, hzero]
    rw [if_neg (not_le.mpr limit.pos), if_pos limit.pos, htwice]
  · rw [if_neg hzero] at hkey
    simp only [hkey, h.outstanding key]
    by_cases hlt : slots.live.count key < limit
    · rw [if_neg (not_le.mpr hlt), if_pos hlt]
    · rw [if_pos (not_lt.mp hlt), if_neg hlt]

theorem Exact.granted_iff (h : slots.Exact) (key : SlotKey) (limit : ℕ+) :
    slots.granted key limit = true ↔ slots.live.count key < limit := by
  rw [granted, h.acquire_eq]
  split
  · next hlt => exact iff_of_true rfl hlt
  · next hlt => exact iff_of_false Bool.false_ne_true hlt

/-- Dropping a guard leaves the others. -/
theorem count_eraseIdx {live : List SlotKey} {n : ℕ} (hn : live[n]? = some key) (other : SlotKey) :
    live.count other = (live.eraseIdx n).count other + if key = other then 1 else 0 := by
  obtain ⟨hlt, rfl⟩ := List.getElem?_eq_some_iff.mp hn
  rw [← (List.getElem_cons_eraseIdx_perm hlt).count_eq, List.count_cons]
  simp only [beq_iff_eq]

/-- **A counter stays the number of live guards**, whether a guard is granted, refused or
dropped. -/
theorem Exact.step (h : slots.Exact) (event : SlotEvent) : (slots.step event).Exact := by
  cases event with
  | acquire key limit =>
    rw [Slots.step, h.acquire_eq]
    by_cases hlt : slots.live.count key < limit
    · rw [if_pos hlt]
      intro other
      change (slots.counters.insert key _)[other]? = if (slots.live ++ [key]).count other = 0 then none
        else some ((slots.live ++ [key]).count other)
      rw [Std.ExtTreeMap.getElem?_insert_eq, List.count_append, List.count_singleton]
      by_cases hkey : key = other
      · subst hkey
        simp
      · have hother : (if (key == other) = true then 1 else 0) = 0 := if_neg (by simpa using hkey)
        rw [if_neg hkey, hother, Nat.add_zero]
        exact h other
    · rw [if_neg hlt]
      exact h
  | drop n ending =>
    rw [Slots.step]
    cases hn : slots.live[n]? with
    | none => exact h
    | some key =>
      have hcount := count_eraseIdx hn
      have hself := hcount key
      rw [if_pos rfl] at hself
      have hheld : slots.counters[key]? = some ((slots.live.eraseIdx n).count key + 1) := by
        rw [h key, hself, if_neg (Nat.succ_ne_zero _)]
      intro other
      change (slots.counters.release key)[other]? = if (slots.live.eraseIdx n).count other = 0 then none
        else some ((slots.live.eraseIdx n).count other)
      rw [Counters.release, hheld]
      dsimp only
      rw [Nat.add_sub_cancel]
      by_cases hkey : key = other
      · subst hkey
        split
        · exact Std.ExtTreeMap.getElem?_erase_self
        · exact Std.ExtTreeMap.getElem?_insert_self
      · have hother := hcount other
        rw [if_neg hkey, Nat.add_zero] at hother
        rw [← hother, ← h other]
        split
        · rw [Std.ExtTreeMap.getElem?_erase, if_neg (by simpa using hkey)]
        · rw [Std.ExtTreeMap.getElem?_insert_eq, if_neg hkey]

theorem exact_run (log : List SlotEvent) : (run log).Exact := by
  induction log using List.reverseRecOn with
  | nil => exact exact_new
  | append_singleton log event ih =>
    rw [run, List.foldl_concat]
    exact ih.step event

/-- **No slot is leaked or granted twice**: at any time a counter is the number of live guards
of its key, and is not there if there are none; a guard is granted exactly while fewer than
the limit are live, and then the counter is within the limit; and a guard that is dropped is
counted. -/
theorem run_spec (log : List SlotEvent) :
    (∀ key, (run log).counters[key]? =
        if (run log).live.count key = 0 then none else some ((run log).live.count key)) ∧
      (∀ key limit, (run log).granted key limit = true ↔ (run log).live.count key < limit) ∧
      (∀ key limit, (run log).granted key limit = true →
        ∃ count ≤ (limit : ℕ), (run (log ++ [.acquire key limit])).counters[key]? = some count) ∧
      (∀ key limit, (run log).granted key limit = false → run (log ++ [.acquire key limit]) = run log) ∧
      ∀ (n : ℕ) (key : SlotKey), (run log).live[n]? = some key →
        ∃ count, (run log).counters[key]? = some (count + 1) := by
  have hexact := exact_run log
  have hlast : ∀ event, run (log ++ [event]) = (run log).step event := fun event => List.foldl_concat _ _ _ _
  refine ⟨hexact, hexact.granted_iff, fun key limit hgranted => ?_, fun key limit hrefused => ?_, fun n key hn => ?_⟩
  · rw [hexact.granted_iff] at hgranted
    refine ⟨(run log).live.count key + 1, hgranted, ?_⟩
    rw [hlast, Slots.step, hexact.acquire_eq, if_pos hgranted]
    exact Std.ExtTreeMap.getElem?_insert_self
  · have hlimit : ¬ (run log).live.count key < limit := by
      rw [← hexact.granted_iff, hrefused]
      exact Bool.false_ne_true
    rw [hlast, Slots.step, hexact.acquire_eq, if_neg hlimit]
    rfl
  · have hself := count_eraseIdx hn key
    rw [if_pos rfl] at hself
    exact ⟨_, by rw [hexact key, hself, if_neg (Nat.succ_ne_zero _)]⟩

end Exact

end Slots

end Sentinel
