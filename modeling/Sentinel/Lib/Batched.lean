import Mathlib

/-!
# A queue served in batches

A queue is served a batch at a time from its head.  Of a batch some elements are taken and
the others put back where they were; a batch of which any was put back is the last one of
its turn.  Elements that are never taken pile up at the head, and once they fill a batch
nothing behind them is ever reached.

## Main definitions

* `Batched.turn` — what is left of a queue after a turn.
* `Batched.Stuck` — an element that is behind a batch of such as are never taken.

## Main results

* `Batched.turn_rounds` — a turn ends.
* `Batched.exists_taken_iff` — when a turn takes anything.
* `Batched.cleared_iff` — turns take everything that can be taken exactly if nothing is
  stuck.
-/

namespace Batched

variable {α : Type*} (n : ℕ) (ok : α → Bool)

/-- What is left of a batch. -/
def leftOver (queue : List α) : List α := (queue.take n).filter fun a => !ok a

/-- What some rounds of a turn leave. -/
def rounds : ℕ → List α → List α
  | 0, queue => queue
  | k + 1, queue =>
    if queue.take n = [] then queue
    else if leftOver n ok queue = [] then rounds k (queue.drop n)
    else leftOver n ok queue ++ queue.drop n

/-- What a turn leaves: a round that is not the last one takes an element, so there are no
more rounds than elements. -/
def turn (queue : List α) : List α := rounds n ok (queue.length + 1) queue

variable {n} {ok} {queue : List α}

theorem rounds_succ (k : ℕ) (queue : List α) :
    rounds n ok (k + 1) queue =
      if queue.take n = [] then queue
      else if leftOver n ok queue = [] then rounds n ok k (queue.drop n)
      else leftOver n ok queue ++ queue.drop n := rfl

theorem leftOver_eq_nil : leftOver n ok queue = [] ↔ ∀ a ∈ queue.take n, ok a = true := by
  rw [leftOver, List.filter_eq_nil_iff]
  simp only [Bool.not_eq_true', Bool.not_eq_false]

/-- More rounds make no difference. -/
theorem turn_rounds (k : ℕ) : ∀ {queue : List α}, queue.length < k → rounds n ok k queue = turn n ok queue := by
  have hmore : ∀ j {queue : List α}, queue.length < j → rounds n ok (j + 1) queue = rounds n ok j queue := by
    intro j
    induction j with
    | zero => intro queue h; omega
    | succ j ih =>
      intro queue h
      rw [rounds_succ (j + 1) queue, rounds_succ j queue]
      split
      · rfl
      split
      · next hbatch _ =>
        apply ih
        have hpos := List.length_pos_of_ne_nil hbatch
        rw [List.length_take] at hpos
        rw [List.length_drop]
        omega
      · rfl
  intro queue h
  induction k with
  | zero => omega
  | succ k ih =>
    rcases Nat.lt_or_ge queue.length k with hk | hk
    · rw [hmore k hk, ih hk]
    · have heq : k = queue.length := by omega
      rw [heq]
      rfl

/-- A turn only takes elements, and only such as can be taken. -/
theorem sublist_rounds (k : ℕ) :
    ∀ queue : List α, (rounds n ok k queue).Sublist queue ∧
      (rounds n ok k queue).filter (fun a => !ok a) = queue.filter fun a => !ok a := by
  induction k with
  | zero => intro queue; exact ⟨List.Sublist.refl _, rfl⟩
  | succ k ih =>
    intro queue
    rw [rounds_succ]
    split
    · exact ⟨List.Sublist.refl _, rfl⟩
    split
    · next hleft =>
      obtain ⟨hsub, hfilter⟩ := ih (queue.drop n)
      refine ⟨hsub.trans (List.drop_sublist n queue), ?_⟩
      rw [hfilter]
      conv_rhs => rw [← List.take_append_drop n queue, List.filter_append]
      exact (congrArg (· ++ _) hleft).symm
    · have hsub : (leftOver n ok queue ++ queue.drop n).Sublist (queue.take n ++ queue.drop n) :=
        List.filter_sublist.append (List.Sublist.refl _)
      rw [List.take_append_drop] at hsub
      refine ⟨hsub, ?_⟩
      conv_rhs => rw [← List.take_append_drop n queue, List.filter_append]
      rw [List.filter_append, leftOver, List.filter_filter]
      simp only [Bool.and_self]

/-- An element that can be taken is behind a whole batch of such as cannot. -/
def Stuck (n : ℕ) (ok : α → Bool) (queue : List α) : Prop :=
  ∃ before a after, queue = before ++ a :: after ∧ ok a = true ∧ n ≤ (before.filter fun b => !ok b).length

/-- What is stuck was stuck before elements were taken. -/
theorem Stuck.of_sublist {left : List α} (h : Stuck n ok left) (hsub : left.Sublist queue) : Stuck n ok queue := by
  obtain ⟨before, a, after, rfl, ha, hbefore⟩ := h
  obtain ⟨before', rest, rfl, hsub', hrest⟩ := List.append_sublist_iff.mp hsub
  obtain ⟨skipped, after', rfl, hmem, -⟩ := List.cons_sublist_iff.mp hrest
  obtain ⟨first, last, rfl⟩ := List.append_of_mem hmem
  refine ⟨before' ++ first, a, last ++ after', ?_, ha, ?_⟩
  · rw [List.append_assoc, List.append_assoc, List.cons_append]
  · rw [List.filter_append, List.length_append]
    exact hbefore.trans ((hsub'.filter _).length_le.trans (Nat.le_add_right _ _))

/-- **What is stuck stays stuck.** -/
theorem Stuck.rounds (k : ℕ) : ∀ {queue : List α}, Stuck n ok queue → Stuck n ok (rounds n ok k queue) := by
  induction k with
  | zero => intro queue h; exact h
  | succ k ih =>
    intro queue h
    rw [rounds_succ]
    split
    · exact h
    · next hbatch =>
      obtain ⟨before, a, after, rfl, ha, hbefore⟩ := h
      have hle : n ≤ before.length := hbefore.trans (List.length_filter_le _ _)
      have htake : (before ++ a :: after).take n = before.take n := List.take_append_of_le_length hle
      have hdrop : (before ++ a :: after).drop n = before.drop n ++ a :: after := List.drop_append_of_le_length hle
      split
      · next hleft =>
        -- all of the batch is taken, so those that cannot be are behind it
        rw [hdrop]
        refine ih ⟨before.drop n, a, after, rfl, ha, ?_⟩
        rw [leftOver, htake] at hleft
        have hsplit := congrArg (fun l : List α => (l.filter fun b => !ok b).length) (List.take_append_drop n before)
        simp only [List.filter_append, List.length_append, hleft, List.length_nil, zero_add] at hsplit
        rw [hsplit]
        exact hbefore
      · rw [hdrop, leftOver, htake]
        refine ⟨(before.take n).filter (fun b => !ok b) ++ before.drop n, a, after, by simp, ha, ?_⟩
        rw [List.filter_append, List.filter_filter]
        simp only [Bool.and_self]
        rw [← List.filter_append, List.take_append_drop]
        exact hbefore

/-- **A turn takes something exactly if something of its first batch can be taken.** -/
theorem exists_taken_iff :
    ((turn n ok queue).countP ok < queue.countP ok) ↔ ∃ a ∈ queue.take n, ok a = true := by
  have hle : ∀ k queue, (rounds n ok k queue).countP ok ≤ queue.countP ok :=
    fun k queue => (sublist_rounds k queue).1.countP_le
  have hsplit : queue.countP ok = (queue.take n).countP ok + (queue.drop n).countP ok := by
    rw [← List.countP_append, List.take_append_drop]
  rw [turn, rounds_succ]
  split
  · next hbatch =>
    rw [hbatch]
    simp
  · next hbatch =>
    split
    · next hleft =>
      obtain ⟨a, ha⟩ := List.exists_mem_of_ne_nil _ hbatch
      refine iff_of_true ?_ ⟨a, ha, leftOver_eq_nil.mp hleft a ha⟩
      have hpos : 0 < (queue.take n).countP ok := List.countP_pos_iff.mpr ⟨a, ha, leftOver_eq_nil.mp hleft a ha⟩
      have hrest := hle queue.length (queue.drop n)
      omega
    · have hnone : (leftOver n ok queue).countP ok = 0 := by
        rw [List.countP_eq_zero]
        intro a ha
        have hfilter := (List.mem_filter.mp ha).2
        rw [Bool.not_eq_true'] at hfilter
        rw [hfilter]
        exact Bool.false_ne_true
      rw [List.countP_append, hnone, hsplit, ← List.countP_pos_iff]
      omega

/-- If nothing is stuck, a turn takes something while there is something to take. -/
theorem taken_of_not_stuck (h : ¬ Stuck n ok queue) (hsome : ∃ a ∈ queue, ok a = true) :
    ∃ a ∈ queue.take n, ok a = true := by
  obtain ⟨a, hfind⟩ := Option.isSome_iff_exists.mp (List.find?_isSome.mpr hsome)
  obtain ⟨ha, before, after, rfl, hbefore⟩ := List.find?_eq_some_iff_append.mp hfind
  have hall : before.filter (fun b => !ok b) = before := List.filter_eq_self.mpr hbefore
  have hlt : before.length < n := by
    by_contra hge
    exact h ⟨before, a, after, rfl, ha, by rw [hall]; omega⟩
  refine ⟨a, ?_, ha⟩
  rw [List.take_append, List.mem_append]
  right
  obtain ⟨m, hm⟩ := Nat.exists_eq_add_of_lt hlt
  have hroom : n - before.length = m + 1 := by omega
  rw [hroom, List.take_succ_cons]
  exact List.mem_cons_self

/-- **Turns take everything that can be taken exactly if nothing is stuck.** -/
theorem cleared_iff (queue : List α) :
    (∃ k, ∀ a ∈ (turn n ok)^[k] queue, ok a = false) ↔ ¬ Stuck n ok queue := by
  constructor
  · rintro ⟨k, hnone⟩ hstuck
    have hstays : Stuck n ok ((turn n ok)^[k] queue) := by
      clear hnone
      induction k generalizing queue with
      | zero => exact hstuck
      | succ k ih => exact ih _ (hstuck.rounds _)
    obtain ⟨before, a, after, heq, ha, -⟩ := hstays
    rw [hnone a (heq ▸ List.mem_append_right _ List.mem_cons_self)] at ha
    cases ha
  · intro hfree
    induction hcount : queue.countP ok using Nat.strong_induction_on generalizing queue with
    | _ count ih =>
      by_cases hsome : ∃ a ∈ queue, ok a = true
      · have hless := exists_taken_iff.mpr (taken_of_not_stuck hfree hsome)
        rw [hcount] at hless
        obtain ⟨k, hk⟩ := ih _ hless (turn n ok queue)
          (fun hstuck => hfree (hstuck.of_sublist (sublist_rounds _ queue).1)) rfl
        exact ⟨k + 1, hk⟩
      · refine ⟨0, fun a ha => ?_⟩
        rw [← Bool.not_eq_true]
        exact fun hok => hsome ⟨a, ha, hok⟩

end Batched
