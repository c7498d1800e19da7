import Sentinel.Controller.Batches
import Sentinel.Lib.Batched

/-!
# Flushing the spool

A flush sends batches from the head of the spool and stops at the first answer that
rejects anything.  Rejected rows stay where they are, so the next flush begins with them
again: the rows behind them are reached only while they do not fill a batch.

## Main definitions

* `Agent.flush` — the loop over batches.
* `Answers` — a controller that answers every request, rejecting what it cannot accept.

## Main results

* `Agent.flushRounds_enough` — the loop ends, whatever is answered.
* `Agent.sortBy_flush` — in replay order, a flush is a turn at a queue.
* `Agent.flush_delivers_iff` — when flushes deliver everything that can be.
-/

namespace Sentinel

/-- An agent, as far as it delivers. -/
structure Agent where
  /-- The agent's identity, once registered. -/
  agentId : Option Uuid
  /-- The current session, once registered. -/
  sessionId : Option Uuid
  /-- The observation queue. -/
  spool : Spool
  /-- Observations waiting to be delivered. -/
  spooled : ℕ
  /-- Why the last attempt to reach the controller failed. -/
  lastError : Option String

namespace Agent

section Loop

variable {C : Type*} (answer : C → List Observation → Except String (C × ObservationBatchResponse))

/-- Some rounds of the loop, and how many observations were accepted. -/
def flushRounds : ℕ → C → Agent → ℕ → C × Agent × ℕ
  | 0, controller, agent, delivered => (controller, agent, delivered)
  | rounds + 1, controller, agent, delivered =>
    let batch := agent.spool.peek maxBatch
    if batch.isEmpty then (controller, agent, delivered)
    else
      match answer controller batch with
      | .error error => (controller, { agent with lastError := some error }, delivered)
      | .ok (controller, response) =>
        -- duplicates are acknowledged too: the controller already has them
        let agent := { agent with
          spool := agent.spool.acknowledge (confirmed batch response)
          lastError := none }
        if response.rejected.isEmpty then
          flushRounds rounds controller agent (delivered + response.accepted)
        else (controller, agent, delivered + response.accepted)

/-- Try to deliver everything in the spool.  A round after which the loop goes on removes
its batch, so there are no more of them than rows. -/
def flush (controller : C) (agent : Agent) : C × Agent × ℕ :=
  match agent.agentId, agent.sessionId with
  | some _, some _ =>
    let (controller, agent, delivered) :=
      flushRounds answer (agent.spool.rows.length + 1) controller agent 0
    (controller, { agent with spooled := agent.spool.rows.length }, delivered)
  -- not registered yet
  | _, _ => (controller, { agent with spooled := agent.spool.rows.length }, 0)

/-- One flush after another. -/
def flushed (state : C × Agent) : C × Agent :=
  ((flush answer state.1 state.2).1, (flush answer state.1 state.2).2.1)

end Loop

end Agent

/-! ### What an answer leaves in the spool -/

/-- A controller that answers every request about some rows, and rejects of each what it
does not accept. -/
structure Answers {C : Type*} (answer : C → List Observation → Except String (C × ObservationBatchResponse))
    (serves : C → Prop) (rows : List Observation) (accepts : Observation → Bool) : Prop where
  answers : ∀ {controller : C} {batch : List Observation}, serves controller → batch ⊆ rows →
    ∃ after response, answer controller batch = .ok (after, response) ∧ serves after ∧
      response.rejected.map RejectedObservation.id =
        (batch.filter fun o => !accepts o).map fun o => o.id.uuid.toText

namespace Spool

variable {spool : Spool} {accepts : Observation → Bool} {response : ObservationBatchResponse} {n : ℕ}

theorem sortBy_acknowledge (spool : Spool) (ids : List ObservationId) :
    (spool.acknowledge ids).rows.sortBy replayKey =
      (spool.rows.sortBy replayKey).filter fun o => o.id ∉ ids :=
  (List.filter_sortBy spool.replayKey_injOn _).symm

/-- What is confirmed of a batch is what is not rejected. -/
theorem mem_confirmed {batch : List Observation}
    (hrejected : response.rejected.map RejectedObservation.id =
      (batch.filter fun o => !accepts o).map fun o => o.id.uuid.toText)
    (hinj : ∀ a ∈ batch, ∀ b ∈ batch, a.id = b.id → a = b) {o : Observation} (ho : o ∈ batch) :
    o.id ∈ confirmed batch response ↔ accepts o = true := by
  rw [confirmed, hrejected, List.mem_map]
  constructor
  · rintro ⟨a, ha, hid⟩
    obtain ⟨ha, hnot⟩ := List.mem_filter.mp ha
    rw [hinj a ha o ho hid, decide_eq_true_iff] at hnot
    by_contra hrejects
    exact hnot (List.mem_map.mpr ⟨o, List.mem_filter.mpr ⟨ho, by simpa using hrejects⟩, rfl⟩)
  · intro haccepts
    refine ⟨o, List.mem_filter.mpr ⟨ho, decide_eq_true ?_⟩, rfl⟩
    intro hmem
    obtain ⟨a, ha, htext⟩ := List.mem_map.mp hmem
    obtain ⟨ha, hrejects⟩ := List.mem_filter.mp ha
    rw [hinj a ha o ho (ObservationId.toText_inj htext), haccepts] at hrejects
    cases hrejects

/-- **One answer**: the rows rejected are put back before the rest. -/
theorem sortBy_acknowledge_confirmed
    (hrejected : response.rejected.map RejectedObservation.id =
      ((spool.peek n).filter fun o => !accepts o).map fun o => o.id.uuid.toText) :
    (spool.acknowledge (confirmed (spool.peek n) response)).rows.sortBy replayKey =
      Batched.leftOver n accepts (spool.rows.sortBy replayKey) ++ (spool.rows.sortBy replayKey).drop n := by
  have hpeek : spool.peek n = (spool.rows.sortBy replayKey).take n := rfl
  have hsplit := List.take_append_drop n (spool.rows.sortBy replayKey)
  have hnodup := spool.nodup_sortBy replayKey
  have hinj : ∀ a ∈ spool.rows.sortBy replayKey, ∀ b ∈ spool.rows.sortBy replayKey, a.id = b.id → a = b :=
    fun a ha b hb h => List.inj_on_of_nodup_map hnodup ha hb h
  have hinj' : ∀ a ∈ spool.peek n, ∀ b ∈ spool.peek n, a.id = b.id → a = b :=
    fun a ha b hb => hinj a (List.mem_of_mem_take ha) b (List.mem_of_mem_take hb)
  rw [sortBy_acknowledge]
  conv_lhs => rw [← hsplit, List.filter_append]
  refine congrArg₂ (· ++ ·) ?_ ?_
  · refine List.filter_congr fun o ho => ?_
    have hiff := mem_confirmed hrejected hinj' (hpeek ▸ ho)
    cases haccepts : accepts o with
    | true => simp [hiff.mpr haccepts]
    | false =>
      have hnot : o.id ∉ confirmed (spool.peek n) response := by
        rw [hiff, haccepts]
        exact Bool.false_ne_true
      simp [hnot]
  · -- what is behind the batch has other identifiers
    refine List.filter_eq_self.mpr fun o ho => decide_eq_true fun hmem => ?_
    obtain ⟨a, ha, hid⟩ := List.mem_map.mp hmem
    rw [← hsplit, List.map_append, List.nodup_append] at hnodup
    exact hnodup.2.2 a.id (List.mem_map_of_mem (List.mem_filter.mp ha).1) o.id (List.mem_map_of_mem ho) hid

/-- How many rows are ahead of one in replay order. -/
theorem length_ahead {o : Observation} {before after : List Observation} (p : Observation → Bool)
    (h : spool.rows.sortBy replayKey = before ++ o :: after) :
    (spool.rows.filter fun b => p b && replayKey b < replayKey o).length = (before.filter p).length := by
  obtain ⟨hbefore, hafter⟩ := sortBy_split spool.replayKey_injOn h
  have hge : ∀ b ∈ o :: after, ¬ replayKey b < replayKey o := by
    intro b hb
    rcases List.mem_cons.mp hb with rfl | hb
    · exact lt_irrefl _
    · exact (hafter b hb).le.not_gt
  rw [((List.perm_sortBy replayKey spool.rows).filter _).length_eq.symm, h, List.filter_append, List.length_append]
  have hnone : (o :: after).filter (fun b => p b && decide (replayKey b < replayKey o)) = [] := by
    refine List.filter_eq_nil_iff.mpr fun b hb => ?_
    simp [hge b hb]
  have hall : before.filter (fun b => p b && decide (replayKey b < replayKey o)) = before.filter p := by
    refine List.filter_congr fun b hb => ?_
    simp [hbefore b hb]
  rw [hnone, hall, List.length_nil, Nat.add_zero]

/-- What is stuck in replay order: rows behind a whole batch of such as are rejected. -/
theorem stuck_iff (spool : Spool) (accepts : Observation → Bool) (n : ℕ) :
    Batched.Stuck n accepts (spool.rows.sortBy replayKey) ↔ ∃ o ∈ spool.rows, accepts o = true ∧
      n ≤ (spool.rows.filter fun b => !accepts b && replayKey b < replayKey o).length := by
  constructor
  · rintro ⟨before, o, after, heq, haccepts, hbefore⟩
    have ho : o ∈ spool.rows := List.mem_sortBy.mp (heq ▸ List.mem_append_right _ List.mem_cons_self)
    refine ⟨o, ho, haccepts, ?_⟩
    rw [length_ahead (fun b => !accepts b) heq]
    exact hbefore
  · rintro ⟨o, ho, haccepts, hahead⟩
    have hsorted : o ∈ spool.rows.sortBy replayKey := List.mem_sortBy.mpr ho
    obtain ⟨before, after, heq⟩ := List.append_of_mem hsorted
    rw [length_ahead (fun b => !accepts b) heq] at hahead
    exact ⟨before, o, after, heq, haccepts, hahead⟩

end Spool

/-! ### The loop -/

namespace Agent

variable {C : Type*} {answer : C → List Observation → Except String (C × ObservationBatchResponse)}
  {serves : C → Prop} {accepts : Observation → Bool} {rows : List Observation}

theorem length_acknowledge_lt (spool : Spool) {response : ObservationBatchResponse} {n : ℕ}
    (hbatch : (spool.peek n).isEmpty = false) (hrejected : response.rejected.isEmpty = true) :
    (spool.acknowledge (confirmed (spool.peek n) response)).rows.length < spool.rows.length := by
  obtain ⟨o, ho⟩ := List.exists_mem_of_ne_nil (spool.peek n) (by simpa using hbatch)
  refine List.length_filter_lt_length_iff_exists.mpr ⟨o, List.mem_sortBy.mp (List.mem_of_mem_take ho), ?_⟩
  rw [List.isEmpty_iff] at hrejected
  rw [decide_eq_true_iff, not_not, confirmed, hrejected]
  exact List.mem_map_of_mem (List.mem_filter.mpr ⟨ho, rfl⟩)

/-- **The loop ends**, whatever is answered: more rounds make no difference. -/
theorem flushRounds_enough (rounds : ℕ) : ∀ (controller : C) {agent : Agent} (delivered : ℕ),
    agent.spool.rows.length < rounds →
      flushRounds answer rounds controller agent delivered =
        flushRounds answer (agent.spool.rows.length + 1) controller agent delivered := by
  have hmore : ∀ j (controller : C) {agent : Agent} (delivered : ℕ), agent.spool.rows.length < j →
      flushRounds answer (j + 1) controller agent delivered = flushRounds answer j controller agent delivered := by
    intro j
    induction j with
    | zero => intro controller agent delivered h; omega
    | succ j ih =>
      intro controller agent delivered h
      rw [flushRounds, flushRounds.eq_def answer (j + 1)]
      dsimp only
      split
      · rfl
      · next hbatch =>
        rw [Bool.not_eq_true] at hbatch
        cases answer controller (agent.spool.peek maxBatch) with
        | error error => rfl
        | ok result =>
          dsimp only
          split
          · next hrejected =>
            have hless := length_acknowledge_lt agent.spool hbatch hrejected
            exact ih _ _ (by dsimp only; omega)
          · rfl
  intro controller agent delivered h
  induction rounds with
  | zero => omega
  | succ rounds ih =>
    rcases Nat.lt_or_ge agent.spool.rows.length rounds with hrounds | hrounds
    · rw [hmore rounds controller delivered hrounds, ih hrounds]
    · have heq : rounds = agent.spool.rows.length := by omega
      rw [heq]

/-- An agent that delivers some rows to a controller that answers. -/
structure Delivering (serves : C → Prop) (rows : List Observation) (state : C × Agent) : Prop where
  serves : serves state.1
  registered : state.2.agentId.isSome = true ∧ state.2.sessionId.isSome = true
  rows : state.2.spool.rows ⊆ rows

/-- **In replay order, the loop is a turn at a queue.** -/
theorem sortBy_flushRounds (h : Answers answer serves rows accepts) (k : ℕ) :
    ∀ (state : C × Agent) (delivered : ℕ), Delivering serves rows state →
      let result := flushRounds answer k state.1 state.2 delivered
      Delivering serves rows (result.1, result.2.1) ∧
      result.2.1.spool.rows.sortBy Spool.replayKey =
        Batched.rounds maxBatch accepts k (state.2.spool.rows.sortBy Spool.replayKey) := by
  induction k with
  | zero => intro state delivered hstate; exact ⟨hstate, rfl⟩
  | succ k ih =>
    rintro ⟨controller, agent⟩ delivered hstate
    dsimp only
    rw [flushRounds, Batched.rounds_succ]
    dsimp only
    have hpeek : agent.spool.peek maxBatch = (agent.spool.rows.sortBy Spool.replayKey).take maxBatch := rfl
    split
    · next hbatch =>
      rw [List.isEmpty_iff, hpeek] at hbatch
      rw [if_pos hbatch]
      exact ⟨hstate, rfl⟩
    · next hbatch =>
      rw [List.isEmpty_iff, hpeek] at hbatch
      rw [if_neg hbatch]
      have hsub : agent.spool.peek maxBatch ⊆ rows := fun o ho =>
        hstate.rows (List.mem_sortBy.mp (List.mem_of_mem_take ho))
      obtain ⟨after, response, hanswer, hserves, hrejected⟩ := h.answers hstate.serves hsub
      have hsorted := Spool.sortBy_acknowledge_confirmed hrejected
      rw [hanswer]
      dsimp only
      have hnext : Delivering serves rows (after, { agent with
          spool := agent.spool.acknowledge (confirmed (agent.spool.peek maxBatch) response)
          lastError := none }) :=
        ⟨hserves, hstate.registered, fun o ho => hstate.rows (Spool.mem_acknowledge.mp ho).1⟩
      have hempty : response.rejected.isEmpty = true ↔
          Batched.leftOver maxBatch accepts (agent.spool.rows.sortBy Spool.replayKey) = [] := by
        rw [List.isEmpty_iff, ← List.map_eq_nil_iff (f := RejectedObservation.id), hrejected, List.map_eq_nil_iff]
        rfl
      split
      · next hall =>
        rw [if_pos (hempty.mp hall)]
        obtain ⟨hresult, hrounds⟩ := ih _ (delivered + response.accepted) hnext
        refine ⟨hresult, hrounds.trans ?_⟩
        rw [hsorted, hempty.mp hall, List.nil_append]
      · next hsome =>
        rw [if_neg fun hnil => hsome (hempty.mpr hnil)]
        exact ⟨hnext, hsorted⟩

/-- **In replay order, a flush is a turn at a queue.** -/
theorem sortBy_flush (h : Answers answer serves rows accepts) {state : C × Agent}
    (hstate : Delivering serves rows state) :
    Delivering serves rows (flushed answer state) ∧
      (flushed answer state).2.spool.rows.sortBy Spool.replayKey =
        Batched.turn maxBatch accepts (state.2.spool.rows.sortBy Spool.replayKey) := by
  obtain ⟨hagent, hsession⟩ := hstate.registered
  obtain ⟨agentId, hagent⟩ := Option.isSome_iff_exists.mp hagent
  obtain ⟨sessionId, hsession⟩ := Option.isSome_iff_exists.mp hsession
  obtain ⟨hresult, hrounds⟩ := sortBy_flushRounds h (state.2.spool.rows.length + 1) state 0 hstate
  have hlength : (state.2.spool.rows.sortBy Spool.replayKey).length = state.2.spool.rows.length :=
    (List.perm_sortBy Spool.replayKey state.2.spool.rows).length_eq
  rw [flushed, flush, hagent, hsession, Batched.turn, hlength]
  exact ⟨⟨hresult.serves, hresult.registered, hresult.rows⟩, hrounds⟩

theorem sortBy_flushes (h : Answers answer serves rows accepts) (k : ℕ) :
    ∀ {state : C × Agent}, Delivering serves rows state →
      ((flushed answer)^[k] state).2.spool.rows.sortBy Spool.replayKey =
        (Batched.turn maxBatch accepts)^[k] (state.2.spool.rows.sortBy Spool.replayKey) := by
  induction k with
  | zero => intro state _; rfl
  | succ k ih =>
    intro state hstate
    obtain ⟨hnext, hsorted⟩ := sortBy_flush h hstate
    rw [Function.iterate_succ_apply, Function.iterate_succ_apply, ih hnext, hsorted]

/-- **Flushes deliver everything that can be**, and each of them something while there is
anything, exactly if fewer rejected rows than fill a batch are ahead of every row that can
be delivered. -/
theorem flush_delivers_iff (h : Answers answer serves rows accepts) {state : C × Agent}
    (hstate : Delivering serves rows state) :
    (((∃ o ∈ state.2.spool.rows, accepts o = true) →
        ∃ o ∈ state.2.spool.rows, accepts o = true ∧ o ∉ (flushed answer state).2.spool.rows) ∧
      ∃ k, ∀ o ∈ ((flushed answer)^[k] state).2.spool.rows, accepts o = false) ↔
    ∀ o ∈ state.2.spool.rows, accepts o = true →
      (state.2.spool.rows.filter fun b => !accepts b && Spool.replayKey b < Spool.replayKey o).length < maxBatch := by
  have hcleared : (∃ k, ∀ o ∈ ((flushed answer)^[k] state).2.spool.rows, accepts o = false) ↔
      ¬ Batched.Stuck maxBatch accepts (state.2.spool.rows.sortBy Spool.replayKey) := by
    rw [← Batched.cleared_iff]
    refine exists_congr fun k => ?_
    rw [← sortBy_flushes h k hstate]
    simp only [List.mem_sortBy]
  have hstuck : ¬ Batched.Stuck maxBatch accepts (state.2.spool.rows.sortBy Spool.replayKey) ↔
      ∀ o ∈ state.2.spool.rows, accepts o = true →
        (state.2.spool.rows.filter fun b => !accepts b && Spool.replayKey b < Spool.replayKey o).length < maxBatch := by
    rw [Spool.stuck_iff]
    push Not
    rfl
  rw [hcleared, ← hstuck]
  refine and_iff_right_of_imp fun hfree hsome => ?_
  obtain ⟨o, ho, haccepts⟩ := hsome
  have htaken := Batched.exists_taken_iff.mpr
    (Batched.taken_of_not_stuck hfree ⟨o, List.mem_sortBy.mpr ho, haccepts⟩)
  rw [← (sortBy_flush h hstate).2] at htaken
  by_contra hnone
  push Not at hnone
  -- what can be taken is all still there
  have hsub : (state.2.spool.rows.sortBy Spool.replayKey).filter accepts ⊆
      ((flushed answer state).2.spool.rows.sortBy Spool.replayKey).filter accepts := by
    intro b hb
    obtain ⟨hb, haccepts⟩ := List.mem_filter.mp hb
    exact List.mem_filter.mpr ⟨List.mem_sortBy.mpr (hnone b (List.mem_sortBy.mp hb) haccepts), haccepts⟩
  have hnodup : ((state.2.spool.rows.sortBy Spool.replayKey).filter accepts).Nodup :=
    ((state.2.spool.nodup_sortBy Spool.replayKey).of_map).filter _
  have hle := (List.subperm_of_subset hnodup hsub).length_le
  rw [← List.countP_eq_length_filter, ← List.countP_eq_length_filter] at hle
  omega

/-- **What is stuck is never delivered.** -/
theorem exists_left_of_stuck (h : Answers answer serves rows accepts) {state : C × Agent}
    (hstate : Delivering serves rows state)
    (hstuck : Batched.Stuck maxBatch accepts (state.2.spool.rows.sortBy Spool.replayKey)) (k : ℕ) :
    ∃ o ∈ ((flushed answer)^[k] state).2.spool.rows, o ∈ rows ∧ accepts o = true := by
  have hrows : Delivering serves rows ((flushed answer)^[k] state) := by
    clear hstuck
    induction k generalizing state with
    | zero => exact hstate
    | succ k ih => exact ih (sortBy_flush h hstate).1
  by_contra hnone
  push Not at hnone
  refine (Batched.cleared_iff _).mp ⟨k, fun o ho => ?_⟩ hstuck
  rw [← sortBy_flushes h k hstate, List.mem_sortBy] at ho
  exact Bool.eq_false_of_not_eq_true (hnone o ho (hrows.rows ho))

end Agent

/-! ### The controller at the other end -/

namespace Controller

/-- The controller's answer to a batch; a batch that cannot be written fails as a whole. -/
def answerBatch (now : Timestamp) (clock : Observation → Timestamp) (failure : String) (controller : Controller)
    (batch : List Observation) : Except String (Controller × ObservationBatchResponse) :=
  match controller.ingestAgentBatch now clock batch with
  | some result => .ok result
  | none => .error failure

/-- **The controller answers** as long as the schema refuses nobody's observer, and accepts
what is about an entity it knows. -/
theorem answers (controller : Controller) (now : Timestamp) (clock : Observation → Timestamp) (failure : String)
    {rows : List Observation} (hids : Identified rows)
    (hrefused : ∀ o ∈ rows, controller.knows o = true → controller.store.refuses o = false) :
    Answers (answerBatch now clock failure)
      (fun c => c.knows = controller.knows ∧ c.store.refuses = controller.store.refuses) rows
      controller.knows where
  answers := by
    rintro c batch ⟨hknows, hrefuses⟩ hbatch
    have hids' : Identified batch := fun o ho o' ho' => hids o (hbatch ho) o' (hbatch ho')
    have heq := ingestAgentBatch_eq c now clock hids'
    have hnone : (c.store.fresh (batch.filter c.knows)).any c.store.refuses = false := by
      rw [List.any_eq_false]
      intro o ho
      obtain ⟨hmem, hknown⟩ := List.mem_filter.mp (Store.mem_fresh ho).1
      rw [hknows] at hknown
      rw [hrefuses, hrefused o (hbatch hmem) hknown]
      exact Bool.false_ne_true
    dsimp only at heq
    rw [hnone, if_neg Bool.false_ne_true] at heq
    obtain ⟨⟨after, response⟩, hresult, hparts⟩ := Option.map_eq_some_iff.mp heq
    obtain ⟨hafter, hrejected⟩ := Prod.mk.inj hparts
    refine ⟨after, response, ?_, ?_, ?_⟩
    · rw [answerBatch, hresult]
    · rw [show after = _ from hafter]
      exact ⟨hknows, hrefuses⟩
    · rw [show response.rejected = _ from hrejected, hknows, List.map_map]
      rfl

end Controller

namespace Backlog

/-- A controller that knows one host. -/
def controller : Controller :=
  .start ⟨[], Inventory.new.insertEntity (.new ⟨⟨7⟩⟩ .host "h"), [], [], fun _ => [], none⟩ 0 (fun _ => 0) []
    fun _ => none

/-- A failure of some target. -/
def failure (target : EntityId) (n : ℕ) : Observation := ⟨⟨⟨n⟩⟩, probeSsh, target, none, 5, .failed, .null⟩

/-- A report of the host. -/
def report : Observation := ⟨⟨⟨500⟩⟩, probeSsh, ⟨⟨7⟩⟩, none, 5, .ok, .null⟩

theorem nodup_ids : (((List.range 500).map (failure ⟨⟨9⟩⟩) ++ [report]).map Observation.id).Nodup := by
  have hids : ((List.range 500).map (failure ⟨⟨9⟩⟩) ++ [report]).map Observation.id =
      (List.range 501).map fun n => (⟨⟨BitVec.ofNat 128 n⟩⟩ : ObservationId) := by
    rw [List.range_succ (n := 500), List.map_append, List.map_append, List.map_map]
    rfl
  rw [hids]
  refine List.nodup_range.map_on fun a ha b hb h => ?_
  rw [List.mem_range] at ha hb
  have hvalue := congrArg (fun id : ObservationId => id.uuid.value.toNat) h
  simp only [BitVec.toNat_ofNat] at hvalue
  omega

/-- An agent with one report behind failures of a host nobody knows. -/
def agent : Agent := ⟨some ⟨1⟩, some ⟨2⟩, ⟨(List.range 500).map (failure ⟨⟨9⟩⟩) ++ [report], nodup_ids⟩, 501, none⟩

end Backlog

namespace Agent

open Backlog

/-- A failure of an unknown host ahead of the report does not fill a batch. -/
theorem flush_delivers_iff_one_rejected :
    let rows := [failure ⟨⟨9⟩⟩ 1, report]
    let agent : Agent := ⟨some ⟨1⟩, some ⟨2⟩, ⟨rows, by decide⟩, 2, none⟩
    ∃ k, ∀ o ∈ ((flushed (Controller.answerBatch 6 (fun _ => 6) "down"))^[k] (controller, agent)).2.spool.rows,
      controller.knows o = false := by
  intro rows agent
  have hids : Identified rows := fun o ho o' ho' h => List.inj_on_of_nodup_map agent.spool.nodup ho ho' h
  have hrefused : ∀ o ∈ rows, controller.knows o = true → controller.store.refuses o = false := by decide +kernel
  have hstate : Delivering (fun c => c.knows = controller.knows ∧ c.store.refuses = controller.store.refuses)
      rows (controller, agent) := ⟨⟨rfl, rfl⟩, ⟨rfl, rfl⟩, List.Subset.refl _⟩
  refine ((flush_delivers_iff (controller.answers 6 (fun _ => 6) "down" hids hrefused) hstate).mpr ?_).2
  decide +kernel

/-- **Five hundred failures of an unknown host block the report behind them**, however
often the spool is flushed. -/
theorem rejected_rows_block :
    controller.knows report = true ∧ ∀ k,
      report ∈ ((flushed (Controller.answerBatch 6 (fun _ => 6) "down"))^[k] (controller, agent)).2.spool.rows := by
  have hknown : controller.knows report = true := by decide +kernel
  have hunknown : ∀ n, controller.knows (failure ⟨⟨9⟩⟩ n) = false := by
    intro n
    show decide ((⟨⟨9⟩⟩ : EntityId) ∈ controller.store.inventory.all.map ManagedEntity.id) = false
    decide +kernel
  have hrows : ∀ o ∈ agent.spool.rows, (∃ n, o = failure ⟨⟨9⟩⟩ n) ∨ o = report := by
    intro o ho
    rcases List.mem_append.mp ho with ho | ho
    · obtain ⟨n, -, rfl⟩ := List.mem_map.mp ho
      exact Or.inl ⟨n, rfl⟩
    · exact Or.inr (List.mem_singleton.mp ho)
  have hrefused : ∀ o ∈ agent.spool.rows, controller.knows o = true → controller.store.refuses o = false := by
    intro o ho hknows
    rcases hrows o ho with ⟨n, rfl⟩ | rfl
    · rw [hunknown] at hknows
      cases hknows
    · decide +kernel
  have hids : Identified agent.spool.rows := fun o ho o' ho' h => List.inj_on_of_nodup_map agent.spool.nodup ho ho' h
  have hstuck : Batched.Stuck maxBatch controller.knows (agent.spool.rows.sortBy Spool.replayKey) := by
    refine (Spool.stuck_iff _ _ _).mpr ⟨report, List.mem_append_right _ List.mem_cons_self, hknown, ?_⟩
    have hall : ((List.range 500).map (failure ⟨⟨9⟩⟩)).filter
        (fun b => !controller.knows b && decide (Spool.replayKey b < Spool.replayKey report)) =
          (List.range 500).map (failure ⟨⟨9⟩⟩) := by
      refine List.filter_eq_self.mpr fun b hb => ?_
      obtain ⟨n, -, rfl⟩ := List.mem_map.mp hb
      have hlt : Spool.replayKey (failure ⟨⟨9⟩⟩ n) < Spool.replayKey report :=
        Prod.Lex.lt_iff.mpr (Or.inl (show (-2 : ℤ) < 0 by decide))
      rw [hunknown, decide_eq_true hlt]
      rfl
    show 500 ≤ (((List.range 500).map (failure ⟨⟨9⟩⟩) ++ [report]).filter _).length
    rw [List.filter_append, hall, List.length_append, List.length_map, List.length_range]
    exact Nat.le_add_right _ _
  refine ⟨hknown, fun k => ?_⟩
  have hstate : Delivering (fun c => c.knows = controller.knows ∧ c.store.refuses = controller.store.refuses)
      agent.spool.rows (controller, agent) := ⟨⟨rfl, rfl⟩, ⟨rfl, rfl⟩, List.Subset.refl _⟩
  obtain ⟨o, ho, hmem, haccepts⟩ :=
    exists_left_of_stuck (controller.answers 6 (fun _ => 6) "down" hids hrefused) hstate hstuck k
  rcases hrows o hmem with ⟨n, rfl⟩ | rfl
  · rw [hunknown] at haccepts
    cases haccepts
  · exact ho

end Agent

end Sentinel
