import Sentinel.Lib.Runs
import Sentinel.State.Health

/-!
# Debouncing

Two consecutive bad results to warn, three to declare an outage, two good ones to
recover: those are the defaults, and every probe may bring its own thresholds.
The debouncer keeps a verdict and two counters.  What it makes of a list of
outcomes has a closed description: its verdict is the one whose run of outcomes
was long enough last and still stands.

## Main definitions

* `DebouncePolicy`, `Debouncer` — the thresholds, and the verdict they guard.
* `Debouncer.observe`, `Debouncer.force` — one outcome, or a verdict set directly.
* `Debouncer.feed` — a list of outcomes, oldest first.

## Main results

* `Debouncer.feed_consecutiveFailures`, `Debouncer.feed_consecutiveSuccesses` —
  the counters are the trailing runs, saturated.
* `Debouncer.health_feed_eq_healthy`, `Debouncer.health_feed_eq_unavailable`,
  `Debouncer.health_feed_bad` — which run stands behind each verdict.
* `Debouncer.health_feed_eq` — the verdict from the last run and the verdict before it.
-/

namespace Sentinel

/-- How many consecutive results are needed to change health. -/
structure DebouncePolicy where
  /-- Bad observations before reporting degraded. -/
  warningThreshold : UInt32
  /-- Bad observations before reporting unavailable. -/
  criticalThreshold : UInt32
  /-- Good observations before returning to healthy. -/
  recoveryThreshold : UInt32
  deriving DecidableEq, Repr

namespace DebouncePolicy

/-- Two to warn, three to declare an outage, two to recover. -/
def default : DebouncePolicy where
  warningThreshold := 2
  criticalThreshold := 3
  recoveryThreshold := 2

/-- A policy that reacts to every single observation. -/
def immediate : DebouncePolicy where
  warningThreshold := 1
  criticalThreshold := 1
  recoveryThreshold := 1

/-- Thresholds that ask for evidence at all, a warning no later than an
outage. -/
structure Sound (policy : DebouncePolicy) : Prop where
  one_le_warning : 1 ≤ policy.warningThreshold.toNat
  warning_le_critical : policy.warningThreshold.toNat ≤ policy.criticalThreshold.toNat
  one_le_recovery : 1 ≤ policy.recoveryThreshold.toNat

theorem Sound.one_le_critical {policy : DebouncePolicy} (h : policy.Sound) :
    1 ≤ policy.criticalThreshold.toNat :=
  h.one_le_warning.trans h.warning_le_critical

theorem sound_default : default.Sound := ⟨by decide, by decide, by decide⟩

theorem sound_immediate : immediate.Sound := ⟨by decide, by decide, by decide⟩

end DebouncePolicy

/-- Tracks consecutive outcomes for one component and derives its health. -/
structure Debouncer where
  /-- The thresholds. -/
  policy : DebouncePolicy
  /-- Current health. -/
  health : Health
  /-- Consecutive bad observations so far. -/
  consecutiveFailures : UInt32
  /-- Consecutive good observations so far. -/
  consecutiveSuccesses : UInt32
  deriving DecidableEq, Repr

namespace Debouncer

/-- A debouncer starting from a known health. -/
def startingAt (policy : DebouncePolicy) (health : Health) : Debouncer where
  policy := policy
  health := health
  consecutiveFailures := 0
  consecutiveSuccesses := 0

/-- Move to a health, answering the previous one if that is a change. -/
def transitionTo (d : Debouncer) (next : Health) : Debouncer × Option Health :=
  if next = d.health then (d, none) else ({ d with health := next }, some d.health)

/-- The verdict the counters and the previous verdict add up to. -/
def next (d : Debouncer) : Health :=
  if d.policy.criticalThreshold ≤ d.consecutiveFailures then .unavailable
  else if d.policy.warningThreshold ≤ d.consecutiveFailures then
    if d.health = .unavailable then .unavailable else .degraded
  else if d.policy.recoveryThreshold ≤ d.consecutiveSuccesses then .healthy
  -- not enough evidence yet: hold the previous verdict
  else d.health

/-- Count one outcome. -/
def count (d : Debouncer) (bad : Bool) : Debouncer :=
  if bad then
    { d with
      consecutiveSuccesses := 0
      consecutiveFailures := d.consecutiveFailures.saturatingAdd 1 }
  else
    { d with
      consecutiveFailures := 0
      consecutiveSuccesses := d.consecutiveSuccesses.saturatingAdd 1 }

/-- Feed one outcome; answers the previous health if it changed. -/
def observe (d : Debouncer) (bad : Bool) : Debouncer × Option Health :=
  (d.count bad).transitionTo (d.count bad).next

/-- Set health directly, bypassing the thresholds. -/
def force (d : Debouncer) (health : Health) : Debouncer × Option Health :=
  { d with consecutiveFailures := 0, consecutiveSuccesses := 0 }.transitionTo health

/-! ### What one outcome does -/

theorem transitionTo_fst (d : Debouncer) (h : Health) :
    (d.transitionTo h).1 = { d with health := h } := by
  unfold transitionTo
  split
  · next heq => rw [heq]
  · rfl

theorem observe_fst (d : Debouncer) (bad : Bool) :
    (d.observe bad).1 = { d.count bad with health := (d.count bad).next } :=
  transitionTo_fst _ _

/-- Forcing a health starts afresh from it. -/
theorem force_fst (d : Debouncer) (h : Health) : (d.force h).1 = startingAt d.policy h :=
  transitionTo_fst _ _

@[simp] theorem count_policy (d : Debouncer) (bad : Bool) : (d.count bad).policy = d.policy := by
  cases bad <;> rfl

@[simp] theorem count_health (d : Debouncer) (bad : Bool) : (d.count bad).health = d.health := by
  cases bad <;> rfl

@[simp] theorem observe_policy (d : Debouncer) (bad : Bool) :
    (d.observe bad).1.policy = d.policy := by
  rw [observe_fst]; exact count_policy d bad

@[simp] theorem observe_health (d : Debouncer) (bad : Bool) :
    (d.observe bad).1.health = (d.count bad).next := by
  rw [observe_fst]

@[simp] theorem observe_consecutiveFailures (d : Debouncer) (bad : Bool) :
    (d.observe bad).1.consecutiveFailures =
      if bad then d.consecutiveFailures.saturatingAdd 1 else 0 := by
  rw [observe_fst]; cases bad <;> rfl

@[simp] theorem observe_consecutiveSuccesses (d : Debouncer) (bad : Bool) :
    (d.observe bad).1.consecutiveSuccesses =
      if bad then 0 else d.consecutiveSuccesses.saturatingAdd 1 := by
  rw [observe_fst]; cases bad <;> rfl

/-! ### What a list of outcomes does -/

/-- Feed a list of outcomes, oldest first. -/
def feed (d : Debouncer) (outcomes : List Bool) : Debouncer :=
  outcomes.foldl (fun d bad => (d.observe bad).1) d

@[simp] theorem feed_nil (d : Debouncer) : d.feed [] = d := rfl

theorem feed_concat (d : Debouncer) (outcomes : List Bool) (bad : Bool) :
    d.feed (outcomes ++ [bad]) = ((d.feed outcomes).observe bad).1 := by
  rw [feed, List.foldl_append]; rfl

@[simp] theorem feed_policy (d : Debouncer) (outcomes : List Bool) :
    (d.feed outcomes).policy = d.policy := by
  induction outcomes using List.reverseRecOn with
  | nil => rfl
  | append_singleton outcomes bad ih => rw [feed_concat, observe_policy, ih]

variable (policy : DebouncePolicy) (start : Health) (outcomes : List Bool)

/-- **The failure counter is the trailing run of bad outcomes**, saturated. -/
theorem feed_consecutiveFailures :
    ((startingAt policy start).feed outcomes).consecutiveFailures.toNat =
      min (outcomes.trailing id) (2 ^ 32 - 1) := by
  induction outcomes using List.reverseRecOn with
  | nil => rfl
  | append_singleton outcomes bad ih =>
    rw [feed_concat, observe_consecutiveFailures, List.trailing_concat]
    cases bad with
    | false => rfl
    | true =>
      simp only [if_true, id, UInt32.toNat_saturatingAdd, ih]
      change min (_ + 1) _ = _
      omega

/-- **The success counter is the trailing run of good outcomes**, saturated. -/
theorem feed_consecutiveSuccesses :
    ((startingAt policy start).feed outcomes).consecutiveSuccesses.toNat =
      min (outcomes.trailing not) (2 ^ 32 - 1) := by
  induction outcomes using List.reverseRecOn with
  | nil => rfl
  | append_singleton outcomes bad ih =>
    rw [feed_concat, observe_consecutiveSuccesses, List.trailing_concat]
    cases bad with
    | true => rfl
    | false =>
      simp only [Bool.false_eq_true, if_false, Bool.not_false, if_true,
        UInt32.toNat_saturatingAdd, ih]
      change min (_ + 1) _ = _
      omega

/-- Whatever the debouncer started from, outcomes that lead to the same verdict
lead to the same debouncer: the counters count outcomes only. -/
theorem feed_eq_of_health_eq {start' : Health}
    (h : ((startingAt policy start).feed outcomes).health =
      ((startingAt policy start').feed outcomes).health) :
    (startingAt policy start).feed outcomes = (startingAt policy start').feed outcomes := by
  have hf := (feed_consecutiveFailures policy start outcomes).trans
    (feed_consecutiveFailures policy start' outcomes).symm
  have hs := (feed_consecutiveSuccesses policy start outcomes).trans
    (feed_consecutiveSuccesses policy start' outcomes).symm
  have hp := (feed_policy (startingAt policy start) outcomes).trans
    (feed_policy (startingAt policy start') outcomes).symm
  generalize (startingAt policy start).feed outcomes = d at *
  generalize (startingAt policy start').feed outcomes = d' at *
  obtain ⟨p, health, failures, successes⟩ := d
  obtain ⟨p', health', failures', successes'⟩ := d'
  simp only [Debouncer.mk.injEq]
  exact ⟨hp, h, UInt32.toNat_inj.mp hf, UInt32.toNat_inj.mp hs⟩

/-- One more outcome, with the counters read as trailing runs. -/
theorem health_feed_concat (bad : Bool) :
    ((startingAt policy start).feed (outcomes ++ [bad])).health =
      if policy.criticalThreshold.toNat ≤ (outcomes ++ [bad]).trailing id then .unavailable
      else if policy.warningThreshold.toNat ≤ (outcomes ++ [bad]).trailing id then
        if ((startingAt policy start).feed outcomes).health = .unavailable then .unavailable
        else .degraded
      else if policy.recoveryThreshold.toNat ≤ (outcomes ++ [bad]).trailing not then .healthy
      else ((startingAt policy start).feed outcomes).health := by
  have hf := feed_consecutiveFailures policy start (outcomes ++ [bad])
  have hs := feed_consecutiveSuccesses policy start (outcomes ++ [bad])
  rw [feed_concat, observe_fst] at hf hs
  have hf := fun t => UInt32.le_iff_of_toNat_eq_min (t := t) hf
  have hs := fun t => UInt32.le_iff_of_toNat_eq_min (t := t) hs
  dsimp only at hf hs
  rw [feed_concat, observe_health, next, count_policy, count_health, feed_policy]
  simp only [hf, hs]
  rfl

variable {policy start}

theorem not_and_id : ∀ b : Bool, not b = true → id b = false := by decide

theorem id_and_not : ∀ b : Bool, id b = true → not b = false := by decide

/-- An outcome is bad or good: at most one of the trailing runs is not empty. -/
theorem trailing_eq_zero (outcomes : List Bool) :
    outcomes.trailing id = 0 ∨ outcomes.trailing not = 0 := by
  rcases Nat.eq_zero_or_pos (outcomes.trailing id) with h | h
  · exact Or.inl h
  · exact Or.inr (List.trailing_eq_zero_of_disjoint id_and_not h)

/-- **Healthy** is the verdict exactly when enough good outcomes in a row stand
unanswered by enough bad ones. -/
theorem health_feed_eq_healthy (hp : policy.Sound) (hstart : start ≠ .healthy) :
    ((startingAt policy start).feed outcomes).health = .healthy ↔
      outcomes.Stands not policy.recoveryThreshold.toNat id policy.warningThreshold.toNat := by
  induction outcomes using List.reverseRecOn with
  | nil =>
    exact iff_of_false hstart (List.not_stands_nil hp.one_le_recovery)
  | append_singleton outcomes bad ih =>
    rw [List.stands_concat not_and_id hp.one_le_recovery hp.one_le_warning, ← ih,
      health_feed_concat]
    have hwc := hp.warning_le_critical
    have hw := hp.one_le_warning
    have hr := hp.one_le_recovery
    have hz := trailing_eq_zero (outcomes ++ [bad])
    split
    · exact iff_of_false (by decide) (by omega)
    · split
      · refine iff_of_false ?_ (by omega)
        split <;> decide
      · split
        · exact iff_of_true rfl (Or.inl ‹_›)
        · exact ⟨fun h => Or.inr ⟨h, by omega⟩, fun h => (h.resolve_left ‹_›).1⟩

/-- **Unavailable** is the verdict exactly when `criticalThreshold` bad outcomes
in a row stand unanswered by a recovery. -/
theorem health_feed_eq_unavailable (hp : policy.Sound) (hstart : start ≠ .unavailable) :
    ((startingAt policy start).feed outcomes).health = .unavailable ↔
      outcomes.Stands id policy.criticalThreshold.toNat not policy.recoveryThreshold.toNat := by
  induction outcomes using List.reverseRecOn with
  | nil => exact iff_of_false hstart (List.not_stands_nil hp.one_le_critical)
  | append_singleton outcomes bad ih =>
    rw [List.stands_concat id_and_not hp.one_le_critical hp.one_le_recovery, ← ih,
      health_feed_concat]
    have hwc := hp.warning_le_critical
    have hw := hp.one_le_warning
    have hr := hp.one_le_recovery
    have hz := trailing_eq_zero (outcomes ++ [bad])
    split
    · exact iff_of_true rfl (Or.inl ‹_›)
    · split
      · split
        · next hprev => exact iff_of_true rfl (Or.inr ⟨hprev, by omega⟩)
        · next hprev => exact iff_of_false (by decide) (by rintro (h | h); exacts [by omega, hprev h.1])
      · split
        · exact iff_of_false (by decide) (by omega)
        · exact ⟨fun h => Or.inr ⟨h, by omega⟩, fun h => (h.resolve_left ‹_›).1⟩

/-- **At least degraded** is the verdict exactly when `warningThreshold` bad
outcomes in a row stand unanswered by a recovery. -/
theorem health_feed_bad (hp : policy.Sound) (hstart : start.severityRank < 4) :
    4 ≤ ((startingAt policy start).feed outcomes).health.severityRank ↔
      outcomes.Stands id policy.warningThreshold.toNat not policy.recoveryThreshold.toNat := by
  induction outcomes using List.reverseRecOn with
  | nil => exact iff_of_false (Nat.not_le.mpr hstart) (List.not_stands_nil hp.one_le_warning)
  | append_singleton outcomes bad ih =>
    rw [List.stands_concat id_and_not hp.one_le_warning hp.one_le_recovery, ← ih,
      health_feed_concat]
    have hwc := hp.warning_le_critical
    have hw := hp.one_le_warning
    have hr := hp.one_le_recovery
    have hz := trailing_eq_zero (outcomes ++ [bad])
    split
    · exact iff_of_true (by decide) (Or.inl (by omega))
    · split
      · refine iff_of_true ?_ (Or.inl ‹_›)
        split <;> decide
      · split
        · exact iff_of_false (by decide) (by omega)
        · exact ⟨fun h => Or.inr ⟨h, by omega⟩, fun h => (h.resolve_left ‹_›).1⟩

/-- A verdict that no run of outcomes decides is the one the debouncer started
from. -/
theorem health_feed_of_undecided
    (hok : ¬ outcomes.HasRun not policy.recoveryThreshold.toNat)
    (hbad : ¬ outcomes.HasRun id policy.warningThreshold.toNat)
    (hwc : policy.warningThreshold.toNat ≤ policy.criticalThreshold.toNat) :
    ((startingAt policy start).feed outcomes).health = start := by
  induction outcomes using List.reverseRecOn with
  | nil => rfl
  | append_singleton outcomes bad ih =>
    rw [List.hasRun_concat, not_or] at hok hbad
    rw [health_feed_concat, if_neg (by omega), if_neg hbad.2, if_neg hok.2, ih hok.1 hbad.1]

/-! ### The verdict and the last run -/

/-- All but a trailing run, and the run. -/
theorem rdropWhile_append_replicate {p : Bool → Bool} {b : Bool} (hp : ∀ z, p z = true ↔ z = b)
    (outcomes : List Bool) :
    outcomes.rdropWhile p ++ List.replicate (outcomes.trailing p) b = outcomes ∧
      (outcomes.rdropWhile p).trailing p = 0 := by
  induction outcomes using List.reverseRecOn with
  | nil => exact ⟨rfl, rfl⟩
  | append_singleton outcomes z ih =>
    rw [List.trailing_concat]
    split
    · next hz =>
      rw [List.rdropWhile_concat_pos _ _ _ hz, List.replicate_succ', ← List.append_assoc, ih.1, (hp z).mp hz]
      exact ⟨rfl, ih.2⟩
    · next hz =>
      rw [List.rdropWhile_concat_neg _ _ _ hz, List.trailing_concat, if_neg hz]
      exact ⟨List.append_nil _, rfl⟩

theorem trailing_append_replicate {p : Bool → Bool} {b : Bool} (hb : p b = true) {earlier : List Bool}
    (hearlier : earlier.trailing p = 0) (n : ℕ) :
    (earlier ++ List.replicate n b).trailing p = n := by
  induction n with
  | zero => rwa [List.replicate_zero, List.append_nil]
  | succ n ih => rw [List.replicate_succ', ← List.append_assoc, List.trailing_concat, if_pos hb, ih]

/-- A run of bad outcomes after others. -/
theorem health_feed_bads (hp : policy.Sound) (start : Health) {earlier : List Bool}
    (hearlier : earlier.trailing id = 0) (n : ℕ) :
    ((startingAt policy start).feed (earlier ++ List.replicate n true)).health =
      if policy.criticalThreshold.toNat ≤ n then .unavailable
      else if policy.warningThreshold.toNat ≤ n then
        if ((startingAt policy start).feed earlier).health = .unavailable then .unavailable else .degraded
      else ((startingAt policy start).feed earlier).health := by
  have hwc := hp.warning_le_critical
  have hw := hp.one_le_warning
  have hr := hp.one_le_recovery
  induction n with
  | zero => rw [if_neg (by omega), if_neg (by omega), List.replicate_zero, List.append_nil]
  | succ n ih =>
    have hbad : (earlier ++ List.replicate (n + 1) true).trailing id = n + 1 :=
      trailing_append_replicate rfl hearlier (n + 1)
    have hgood : (earlier ++ List.replicate (n + 1) true).trailing not = 0 :=
      List.trailing_eq_zero_of_disjoint id_and_not (by omega)
    rw [List.replicate_succ', ← List.append_assoc] at hbad hgood ⊢
    rw [health_feed_concat, hbad, hgood, ih]
    split
    · rfl
    · rw [if_neg (by omega : ¬ policy.criticalThreshold.toNat ≤ n),
        if_neg (by omega : ¬ policy.recoveryThreshold.toNat ≤ 0)]
      by_cases hwarned : policy.warningThreshold.toNat ≤ n
      · have hwarned' : policy.warningThreshold.toNat ≤ n + 1 := by omega
        by_cases hbefore : ((startingAt policy start).feed earlier).health = .unavailable
        · simp [hbefore, hwarned, hwarned']
        · simp [hbefore, hwarned, hwarned']
      · rw [if_neg hwarned]

/-- A run of good outcomes after others. -/
theorem health_feed_goods (hp : policy.Sound) (start : Health) {earlier : List Bool}
    (hearlier : earlier.trailing not = 0) (n : ℕ) :
    ((startingAt policy start).feed (earlier ++ List.replicate n false)).health =
      if policy.recoveryThreshold.toNat ≤ n then .healthy
      else ((startingAt policy start).feed earlier).health := by
  have hwc := hp.warning_le_critical
  have hw := hp.one_le_warning
  have hr := hp.one_le_recovery
  induction n with
  | zero => rw [if_neg (by omega), List.replicate_zero, List.append_nil]
  | succ n ih =>
    have hgood : (earlier ++ List.replicate (n + 1) false).trailing not = n + 1 :=
      trailing_append_replicate rfl hearlier (n + 1)
    have hbad : (earlier ++ List.replicate (n + 1) false).trailing id = 0 :=
      List.trailing_eq_zero_of_disjoint not_and_id (by omega)
    rw [List.replicate_succ', ← List.append_assoc] at hbad hgood ⊢
    rw [health_feed_concat, hbad, hgood, ih, if_neg (by omega), if_neg (by omega)]
    split
    · rfl
    · rw [if_neg (by omega : ¬ policy.recoveryThreshold.toNat ≤ n)]

/-- A verdict of unavailable stands until enough good outcomes in a row have come. -/
theorem health_feed_unavailable_append (outcomes : List Bool)
    (hdown : ((startingAt policy start).feed outcomes).health = .unavailable) (more : List Bool) :
    (∀ later, later <+: more → later ≠ [] → (outcomes ++ later).trailing not < policy.recoveryThreshold.toNat) →
      ((startingAt policy start).feed (outcomes ++ more)).health = .unavailable := by
  induction more using List.reverseRecOn with
  | nil => intro _; rwa [List.append_nil]
  | append_singleton more bad ih =>
    intro hshort
    have hbefore := ih fun later hlater hne => hshort later (hlater.trans (List.prefix_append _ _)) hne
    have hlast := hshort (more ++ [bad]) List.prefix_rfl (by simp)
    rw [← List.append_assoc] at hlast ⊢
    rw [health_feed_concat, hbefore, if_pos rfl, if_neg (Nat.not_le.mpr hlast)]
    split
    · rfl
    split <;> rfl

/-- **The verdict is that of the last run**, however many outcomes came before: unavailable
after enough bad ones in a row, degraded after fewer unless it was unavailable before them,
healthy after enough good ones, and else what it was before the run.  A verdict of
unavailable stands until enough good outcomes in a row have come. -/
theorem health_feed_eq (hp : policy.Sound) (start : Health) (outcomes : List Bool) :
    let verdict (outcomes : List Bool) := ((startingAt policy start).feed outcomes).health
    let bads := outcomes.trailing id
    let goods := outcomes.trailing not
    (verdict outcomes =
      if policy.criticalThreshold.toNat ≤ bads then .unavailable
      else if policy.warningThreshold.toNat ≤ bads then
        if verdict (outcomes.rdropWhile id) = .unavailable then .unavailable else .degraded
      else if policy.recoveryThreshold.toNat ≤ goods then .healthy
      else if 0 < bads then verdict (outcomes.rdropWhile id)
      else verdict (outcomes.rdropWhile not)) ∧
    ∀ more, verdict outcomes = .unavailable →
      (∀ later, later <+: more → later ≠ [] →
        (outcomes ++ later).trailing not < policy.recoveryThreshold.toNat) →
      verdict (outcomes ++ more) = .unavailable := by
  intro verdict bads goods
  refine ⟨?_, fun more hdown => health_feed_unavailable_append outcomes hdown more⟩
  have hw := hp.one_le_warning
  have hwc := hp.warning_le_critical
  have hr := hp.one_le_recovery
  rcases Nat.eq_zero_or_pos bads with hbads | hbads
  · -- the last run is one of good outcomes
    obtain ⟨hsplit, hearlier⟩ := rdropWhile_append_replicate (p := not) (b := false) (by decide) outcomes
    have hgoods := health_feed_goods hp start hearlier goods
    rw [hsplit] at hgoods
    rw [hbads, if_neg (by omega), if_neg (by omega), if_neg (Nat.lt_irrefl 0)]
    exact hgoods
  · obtain ⟨hsplit, hearlier⟩ := rdropWhile_append_replicate (p := id) (b := true) (by decide) outcomes
    have hbad := health_feed_bads hp start hearlier bads
    have hgoods : goods = 0 := List.trailing_eq_zero_of_disjoint id_and_not hbads
    rw [hsplit] at hbad
    rw [hgoods, if_neg (by omega : ¬ policy.recoveryThreshold.toNat ≤ 0), if_pos hbads]
    exact hbad

/-- Two bad outcomes under the defaults. -/
theorem health_feed_two_bad :
    ((startingAt .default .healthy).feed [false, true, true]).health = .degraded := by
  refine (health_feed_eq DebouncePolicy.sound_default .healthy [false, true, true]).1.trans ?_
  decide

end Debouncer

end Sentinel
