import Sentinel.Controller.Builtin
import Sentinel.Inventory

/-!
# Running probes

The runner allows so many executions of a probe against one target at a time: an
execution takes a slot when it starts and gives it back when its future ends.  The
probe that touches an NFS mount runs one `stat` on a thread of its own and waits for
it until a deadline.  A `stat` on a hung mount cannot be cancelled: past the deadline
the future ends, and the thread stays in the kernel.

So the slot comes back while the thread is gone, and the next run takes another one.

## Main definitions

* `acquire`, `release` — the slots.
* `ProbeExecution`, `ProbeRunner`, `ProbeRunner.step` — what happens to executions.

## Main results

* `ProbeRunner.Consistent.step`, `ProbeRunner.consistent_run` — the slots taken are
  the executions that wait.
* `ProbeRunner.one_thread_iff` — when a hung mount costs one thread.
-/

namespace Sentinel

/-! ### Slots -/

/-- How many executions are outstanding, by probe and target. -/
abbrev Counters := Std.ExtTreeMap (ProbeId × EntityId) ℕ

namespace Counters

variable (counters : Counters) (key : ProbeId × EntityId)

/-- The executions outstanding. -/
def outstanding : ℕ := counters[key]?.getD 0

/-- Take a slot, unless the limit is reached. -/
def acquire (limit : ℕ) : Option Counters :=
  if limit ≤ counters.outstanding key then none
  else some (counters.insert key (counters.outstanding key + 1))

/-- Give a slot back; an entry that has come down to zero goes. -/
def release : Counters :=
  match counters[key]? with
  | none => counters
  | some count => if count - 1 = 0 then counters.erase key else counters.insert key (count - 1)

variable {counters key}

theorem outstanding_insert (count : ℕ) (other : ProbeId × EntityId) :
    outstanding (counters.insert key count) other =
      if key = other then count else counters.outstanding other := by
  rw [outstanding, Std.ExtTreeMap.getElem?_insert_eq]
  split
  · rfl
  · rfl

theorem outstanding_release (other : ProbeId × EntityId) :
    (counters.release key).outstanding other =
      if key = other then counters.outstanding key - 1 else counters.outstanding other := by
  rw [release]
  cases hcount : counters[key]? with
  | none =>
    by_cases h : key = other
    · subst h
      simp [outstanding, hcount]
    · simp [h]
  | some count =>
    have hsame : counters.outstanding key = count := by rw [outstanding, hcount]; rfl
    dsimp only
    rw [hsame]
    split
    · next hzero =>
      rw [outstanding, Std.ExtTreeMap.getElem?_erase]
      simp only [Std.LawfulEqOrd.compare_eq_iff_eq]
      split
      · rw [hzero]; rfl
      · rfl
    · exact outstanding_insert _ other

end Counters

/-! ### Executions -/

/-- One execution of the probe that touches a mount. -/
structure ProbeExecution where
  /-- What the mount is of. -/
  target : EntityId
  /-- Whether its future still waits for the `stat`, and holds its slot. -/
  waiting : Bool
  /-- Whether the thread of the `stat` is still blocked. -/
  blocked : Bool
  /-- Whether the run still waits for the observation. -/
  awaited : Bool
  deriving DecidableEq

/-- How many executions of the probe may be outstanding against one target. -/
def maxOutstanding : ℕ := 1

/-- The runner, and the executions it started. -/
structure ProbeRunner where
  /-- The slots taken. -/
  counters : Counters
  /-- The executions, in the order they started. -/
  executions : List ProbeExecution

/-- What happens to a runner. -/
inductive RunnerEvent
  /-- A run against a target is asked for. -/
  | start (target : EntityId)
  /-- The `stat` of an execution returns. -/
  | answer (n : ℕ)
  /-- The deadline of an execution passes. -/
  | deadline (n : ℕ)
  /-- The runner's own timeout passes, and the execution is left to itself. -/
  | timeout (n : ℕ)

namespace ProbeRunner

/-- A runner with nothing in flight. -/
def new : ProbeRunner := ⟨∅, []⟩

/-- The future of an execution ends and gives its slot back, if it has not before. -/
def finish (counters : Counters) (e : ProbeExecution) : Counters :=
  if e.waiting then counters.release (probeClientIo, e.target) else counters

/-- What an event does. -/
def step (runner : ProbeRunner) : RunnerEvent → ProbeRunner
  | .start target =>
    match runner.counters.acquire (probeClientIo, target) maxOutstanding with
    | none => runner
    | some counters => ⟨counters, runner.executions ++ [⟨target, true, true, true⟩]⟩
  | .answer n =>
    match runner.executions[n]? with
    | none => runner
    | some e =>
      ⟨finish runner.counters e, runner.executions.set n { e with waiting := false, blocked := false }⟩
  | .deadline n =>
    match runner.executions[n]? with
    | none => runner
    | some e => ⟨finish runner.counters e, runner.executions.set n { e with waiting := false }⟩
  | .timeout n =>
    match runner.executions[n]? with
    | none => runner
    | some e => ⟨runner.counters, runner.executions.set n { e with awaited := false }⟩

/-- The runner after some events. -/
def run (log : List RunnerEvent) : ProbeRunner := log.foldl step new

/-- The executions against a target that wait. -/
def waitingOn (runner : ProbeRunner) (target : EntityId) : ℕ :=
  runner.executions.countP fun e => e.waiting && e.target = target

/-- The threads blocked on a target. -/
def blockedOn (runner : ProbeRunner) (target : EntityId) : ℕ :=
  runner.executions.countP fun e => e.blocked && e.target = target

/-- The threads blocked on a target that nothing waits for any more. -/
def abandonedOn (runner : ProbeRunner) (target : EntityId) : ℕ :=
  runner.executions.countP fun e => (e.blocked && !e.waiting) && e.target = target

/-- The slots taken are those of the executions that wait, and what waits is blocked. -/
structure Consistent (runner : ProbeRunner) : Prop where
  /-- The slots. -/
  slots : ∀ target, runner.counters.outstanding (probeClientIo, target) = runner.waitingOn target
  /-- What waits is blocked. -/
  blocked : ∀ e ∈ runner.executions, e.waiting = true → e.blocked = true

variable {runner : ProbeRunner} {target : EntityId}

/-- A blocked thread is waited for, or abandoned. -/
theorem Consistent.blockedOn_eq (h : runner.Consistent) (target : EntityId) :
    runner.blockedOn target = runner.waitingOn target + runner.abandonedOn target := by
  have hsplit : ∀ l : List ProbeExecution, (∀ e ∈ l, e.waiting = true → e.blocked = true) →
      (l.countP fun e => e.blocked && e.target = target) =
        (l.countP fun e => e.waiting && e.target = target) +
          l.countP fun e => (e.blocked && !e.waiting) && e.target = target := by
    intro l
    induction l with
    | nil => intro _; rfl
    | cons e l ih =>
      intro hl
      rw [List.forall_mem_cons] at hl
      have hhead := hl.1
      simp only [List.countP_cons, ih hl.2]
      revert hhead
      cases e.waiting <;> cases e.blocked <;> by_cases ht : e.target = target <;> simp [ht] <;> omega
  exact hsplit _ h.blocked

/-- Counting after one execution has changed. -/
theorem countP_set_eq {n : ℕ} {e : ProbeExecution} (he : runner.executions[n]? = some e)
    (e' : ProbeExecution) (p : ProbeExecution → Bool) :
    (runner.executions.set n e').countP p + (if p e then 1 else 0) =
      runner.executions.countP p + if p e' then 1 else 0 := by
  obtain ⟨hlt, rfl⟩ := List.getElem?_eq_some_iff.mp he
  have hpos : (if p runner.executions[n] then 1 else 0) ≤ runner.executions.countP p := by
    split
    · next hp => exact List.countP_pos_iff.mpr ⟨_, List.getElem_mem hlt, hp⟩
    · exact Nat.zero_le _
  rw [List.countP_set hlt]
  omega

theorem consistent_new : new.Consistent :=
  ⟨fun target => by simp [new, Counters.outstanding, waitingOn], fun e he => by cases he⟩

/-- Whether it ends by its answer or by its deadline, an execution gives back the slot it
holds. -/
theorem Consistent.finish (h : runner.Consistent) {n : ℕ} {e e' : ProbeExecution}
    (he : runner.executions[n]? = some e) (hwaiting : e'.waiting = false) :
    Consistent ⟨finish runner.counters e, runner.executions.set n e'⟩ := by
  refine ⟨fun target => ?_, fun x hx hxwaiting => ?_⟩
  · have hcount := countP_set_eq he e' fun e => e.waiting && e.target = target
    have hslots := h.slots target
    rw [waitingOn] at hslots
    change (ProbeRunner.finish runner.counters e).outstanding (probeClientIo, target) =
      (runner.executions.set n e').countP fun e => e.waiting && e.target = target
    rw [ProbeRunner.finish]
    rw [hwaiting] at hcount
    cases hheld : e.waiting with
    | false =>
      rw [hheld] at hcount
      rw [if_neg Bool.false_ne_true, hslots]
      exact (Nat.add_right_cancel hcount).symm
    | true =>
      rw [if_pos rfl, Counters.outstanding_release]
      by_cases ht : e.target = target
      · simp only [hheld, ht, decide_true, Bool.and_self, if_true, Bool.false_and,
          Bool.false_eq_true, if_false] at hcount
        rw [if_pos (by rw [ht]), ht, hslots]
        omega
      · simp only [ht, decide_false, Bool.and_false, Bool.false_eq_true, if_false] at hcount
        rw [if_neg fun h => ht (Prod.mk.inj h).2, hslots]
        exact (Nat.add_right_cancel hcount).symm
  · rcases List.mem_or_eq_of_mem_set hx with hx | rfl
    · exact h.blocked x hx hxwaiting
    · rw [hwaiting] at hxwaiting
      cases hxwaiting

/-- **The slots taken stay those of the executions that wait.** -/
theorem Consistent.step (h : runner.Consistent) (event : RunnerEvent) : (runner.step event).Consistent := by
  cases event with
  | start target =>
    rw [ProbeRunner.step, Counters.acquire]
    split
    · exact h
    · next counters hacquired =>
      split at hacquired
      · cases hacquired
      obtain rfl := Option.some.inj hacquired
      refine ⟨fun other => ?_, fun e he => ?_⟩
      · change _ = (runner.executions ++ [_]).countP _
        rw [Counters.outstanding_insert, h.slots, h.slots, List.countP_append]
        by_cases ht : target = other
        · simp [ht, waitingOn]
        · simp [ht, waitingOn]
      · rcases List.mem_append.mp he with he | he
        · exact h.blocked e he
        · rw [List.mem_singleton.mp he]
          exact fun _ => rfl
  | answer n =>
    rw [ProbeRunner.step]
    split
    · exact h
    · next e he => exact h.finish he rfl
  | deadline n =>
    rw [ProbeRunner.step]
    split
    · exact h
    · next e he => exact h.finish he rfl
  | timeout n =>
    rw [ProbeRunner.step]
    split
    · exact h
    · next e he =>
      refine ⟨fun target => ?_, fun x hx hxwaiting => ?_⟩
      · have hcount := countP_set_eq he { e with awaited := false } fun e => e.waiting && e.target = target
        rw [h.slots]
        exact (Nat.add_right_cancel hcount).symm
      · rcases List.mem_or_eq_of_mem_set hx with hx | rfl
        · exact h.blocked x hx hxwaiting
        · exact h.blocked e (List.mem_of_getElem? he) hxwaiting

theorem consistent_run (log : List RunnerEvent) : (run log).Consistent := by
  induction log using List.reverseRecOn with
  | nil => exact consistent_new
  | append_singleton log event ih =>
    rw [run, List.foldl_append]
    exact ih.step event

theorem run_concat (log : List RunnerEvent) (event : RunnerEvent) :
    run (log ++ [event]) = (run log).step event := by
  rw [run, List.foldl_append]
  rfl

/-- **No more executions wait than there are slots.** -/
theorem Consistent.waitingOn_step_le (h : runner.Consistent) (event : RunnerEvent)
    (hle : runner.waitingOn target ≤ maxOutstanding) : (runner.step event).waitingOn target ≤ maxOutstanding := by
  have hset : ∀ {n : ℕ} {e e' : ProbeExecution} {counters : Counters}, runner.executions[n]? = some e →
      e'.target = e.target → (e'.waiting = true → e.waiting = true) →
      waitingOn ⟨counters, runner.executions.set n e'⟩ target ≤ maxOutstanding := by
    intro n e e' counters he htarget hwaiting
    have hcount := countP_set_eq he e' fun e => e.waiting && e.target = target
    rw [waitingOn] at hle ⊢
    rw [htarget] at hcount
    revert hwaiting hcount
    cases e.waiting <;> cases e'.waiting <;> by_cases ht : e.target = target <;> simp [ht] <;> omega
  cases event with
  | start other =>
    rw [ProbeRunner.step, Counters.acquire, h.slots]
    split
    · exact hle
    · next counters hacquired =>
      split at hacquired
      · cases hacquired
      next hfree =>
      by_cases ht : other = target
      · rw [ht, not_le] at hfree
        rw [waitingOn, List.countP_append]
        rw [waitingOn] at hfree
        simpa [ht] using hfree
      · simpa [waitingOn, ht] using hle
  | answer n =>
    rw [ProbeRunner.step]
    split
    · exact hle
    · next e he => exact hset he rfl fun h => by cases h
  | deadline n =>
    rw [ProbeRunner.step]
    split
    · exact hle
    · next e he => exact hset he rfl fun h => by cases h
  | timeout n =>
    rw [ProbeRunner.step]
    split
    · exact hle
    · next e he => exact hset he rfl id

/-! ### Blocked threads -/

/-- Only a run that starts blocks one more thread. -/
theorem blockedOn_step_le (runner : ProbeRunner) (target : EntityId) {event : RunnerEvent}
    (hevent : event ≠ .start target) : (runner.step event).blockedOn target ≤ runner.blockedOn target := by
  have hset : ∀ {n : ℕ} {e e' : ProbeExecution} {counters : Counters}, runner.executions[n]? = some e →
      e'.target = e.target → (e'.blocked = true → e.blocked = true) →
      blockedOn ⟨counters, runner.executions.set n e'⟩ target ≤ runner.blockedOn target := by
    intro n e e' counters he htarget hblocked
    have hcount := countP_set_eq he e' fun e => e.blocked && e.target = target
    rw [blockedOn, blockedOn]
    rw [htarget] at hcount
    revert hblocked hcount
    cases e.blocked <;> cases e'.blocked <;> by_cases ht : e.target = target <;> simp [ht] <;> omega
  cases event with
  | start other =>
    rw [step]
    split
    · exact le_rfl
    · have hother : ¬ other = target := fun h => hevent (h ▸ rfl)
      simp [blockedOn, hother]
  | answer n =>
    rw [step]
    split
    · exact le_rfl
    · next e he => exact hset he rfl fun h => by cases h
  | deadline n =>
    rw [step]
    split
    · exact le_rfl
    · next e he => exact hset he rfl id
  | timeout n =>
    rw [step]
    split
    · exact le_rfl
    · next e he => exact hset he rfl id

/-- A run is refused exactly while an execution waits, and else blocks a thread. -/
theorem Consistent.blockedOn_start (h : runner.Consistent) (target : EntityId) :
    (runner.step (.start target)).blockedOn target =
      if runner.waitingOn target = 0 then runner.blockedOn target + 1 else runner.blockedOn target := by
  rw [ProbeRunner.step, Counters.acquire, h.slots, maxOutstanding]
  by_cases hwaiting : runner.waitingOn target = 0
  · simp [hwaiting, blockedOn]
  · rw [if_pos (Nat.one_le_iff_ne_zero.mpr hwaiting), if_neg hwaiting]

/-- **A hung mount costs one thread**, all along a run, exactly when no run starts while a
`stat` whose deadline has passed is still blocked. -/
theorem one_thread_iff (target : EntityId) (log : List RunnerEvent) :
    (∀ seen, seen <+: log → (run seen).blockedOn target ≤ maxOutstanding) ↔
      ∀ seen, seen ++ [.start target] <+: log → (run seen).abandonedOn target = 0 := by
  constructor
  · intro hbounded seen hseen
    have hbefore := hbounded seen ((List.prefix_append _ _).trans hseen)
    have hafter := hbounded _ hseen
    rw [run_concat, (consistent_run seen).blockedOn_start] at hafter
    rw [(consistent_run seen).blockedOn_eq] at hbefore hafter
    rw [maxOutstanding] at hbefore hafter
    split at hafter <;> omega
  · intro hnone seen
    induction seen using List.reverseRecOn with
    | nil => intro _; simp [run, new, blockedOn, maxOutstanding]
    | append_singleton seen event ih =>
      intro hseen
      have hbefore := ih ((List.prefix_append _ _).trans hseen)
      rw [run_concat]
      by_cases hevent : event = .start target
      · subst hevent
        have hzero := hnone seen hseen
        rw [(consistent_run seen).blockedOn_start]
        split
        · next hwaiting =>
          rw [(consistent_run seen).blockedOn_eq, hwaiting, hzero]
          exact le_rfl
        · exact hbefore
      · exact (blockedOn_step_le _ target hevent).trans hbefore

/-- **A second thread for a hung mount**: the deadline of the first run passes, and the
next one starts. -/
theorem second_thread_after_deadline :
    let target : EntityId := ⟨⟨1⟩⟩
    (run [.start target, .deadline 0, .timeout 0, .start target]).blockedOn target = 2 ∧
      maxOutstanding = 1 := by
  decide +kernel

end ProbeRunner

end Sentinel
