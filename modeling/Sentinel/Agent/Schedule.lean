import Sentinel.Agent.LocalProbes
import Sentinel.Lib.Machine

/-!
# When the agent's own probes run

Each probe runs on its own schedule, with some jitter in the beginning so that agents that
were started together do not stay in step.  In a turn the agent runs the probes that are
due, one after another, and each is due again an interval after it is done.

## Main definitions

* `LocalSchedule`, `LocalSchedule.runDue`, `LocalSchedule.runAll` — the probes and when they
  are next due.
* `ProbeTrace.due` — when a probe is due, by what became of it so far.
* `scheduleMachine` — all turns of an agent.

## Main results

* `jitterFor_le` — the jitter is a tenth of the interval at most.
* `TracedSchedule.keeps_schedule` — **every probe keeps its schedule**: it runs in the first
  turn an interval after it was done, and no sooner.
-/

namespace Sentinel

/-- An instant of the monotonic clock, in nanoseconds. -/
abbrev Instant := ℕ

/-! ### Running a probe -/

/-- What a probe is told about the entity it is measuring. -/
structure ProbeContext where
  /-- The entity being measured. -/
  targetEntity : EntityId
  /-- The observer, when this is a remote probe. -/
  observerEntity : Option EntityId
  /-- The target's capabilities. -/
  capabilities : CapabilitySet
  /-- Probe-specific parameters. -/
  parameters : Json
  /-- Effective timeout for this execution. -/
  timeout : Span

/-- Read an integer parameter. -/
def ProbeContext.parameterU64 (context : ProbeContext) (key : String) : Option ℕ :=
  (context.parameters.get key).bind Json.asU64

/-- What a probe reports: an observation, with the code of its error if there is one. -/
structure ProbeReport where
  /-- The observation. -/
  observation : Observation
  /-- The code of the error. -/
  errorCode : Option String

/-- Whether the program that counts the GPUs is gone. -/
def ProbeReport.missesGpu (report : ProbeReport) : Bool :=
  report.observation.probeId = probeGpu && report.observation.status = .notApplicable &&
    report.errorCode = some "nvidia_smi_missing"

/-- What comes of running a probe. -/
structure ProbeAttempt where
  /-- When it was begun. -/
  began : Instant
  /-- When it was done. -/
  ended : Instant
  /-- What was reported, unless an earlier execution was still outstanding. -/
  report : Option ProbeReport

/-- A turn, as the surroundings make it: the clock when it begins and when it is over, and
what comes of each probe that is run, by its place. -/
structure ProbeTurn where
  /-- The clock. -/
  now : Instant
  /-- The clock when all probes are done. -/
  finish : Instant
  /-- What comes of a probe. -/
  attempt : ℕ → ProbeDefinition → ProbeContext → ProbeAttempt

/-! ### The schedule -/

/-- A probe of the schedule, and when it is next due. -/
structure TimedProbe where
  /-- The probe, its parameters and what it measures. -/
  entry : Scheduled
  /-- When it is next due. -/
  nextDue : Instant

/-- The agent's local probes on their own schedules. -/
structure LocalSchedule where
  /-- The host. -/
  entity : EntityId
  /-- What the host can do. -/
  capabilities : CapabilitySet
  /-- Parameters of the probes that have none of their own. -/
  parameters : Json
  /-- What the jitter is derived from: the process id. -/
  jitterSeed : UInt64
  /-- The probes. -/
  scheduled : List TimedProbe

/-- A stable jitter of up to a tenth of the interval, in nanoseconds. -/
def jitterFor (jitterSeed : UInt64) (probe : ProbeId) (interval : Span) : ℕ :=
  let span := UInt64.ofNat (interval.nanos / 10 ^ 6) / 10
  if span = 0 then 0
  else
    let hash := probe.name.toUTF8.data.toList.foldl (fun acc b => acc * 31 + b.toUInt64) jitterSeed
    (hash % span).toNat * 10 ^ 6

namespace LocalSchedule

/-- The probes, without their times. -/
def probes (schedule : LocalSchedule) : LocalProbes :=
  ⟨schedule.entity, schedule.capabilities, schedule.scheduled.map TimedProbe.entry⟩

/-- No probes. -/
def empty (entity : EntityId) (capabilities : CapabilitySet) (jitterSeed : UInt64) : LocalSchedule :=
  ⟨entity, capabilities, .null, jitterSeed, []⟩

/-- When a probe that is scheduled at some time is first due. -/
def firstDue (schedule : LocalSchedule) (probe : ProbeDefinition) (clock : Instant) : Instant :=
  clock + jitterFor schedule.jitterSeed probe.id probe.interval

/-- Schedule a probe that measures something, unless this host lacks what it takes. -/
def addFor (schedule : LocalSchedule) (clock : Instant) (target : Option EntityId) (probe : ProbeDefinition)
    (parameters : Json) : LocalSchedule × Bool :=
  if schedule.probes.applies probe then
    ({ schedule with
        scheduled := schedule.scheduled ++ [⟨⟨probe, parameters, target⟩, schedule.firstDue probe clock⟩] }, true)
  else (schedule, false)

/-- The schedule of some probes, those that apply to the host. -/
def withProbes (entity : EntityId) (capabilities : CapabilitySet) (jitterSeed : UInt64) (clock : Instant)
    (probes : List ProbeDefinition) : LocalSchedule :=
  probes.foldl (fun schedule probe => (schedule.addFor clock none probe .null).1)
    (empty entity capabilities jitterSeed)

/-- What a probe is told: its own parameters win, those of the agent are the fallback. -/
def contextOf (schedule : LocalSchedule) (entry : Scheduled) : ProbeContext where
  targetEntity := entry.target.getD schedule.entity
  observerEntity := none
  capabilities := schedule.capabilities
  parameters := if entry.parameters = .null then schedule.parameters else entry.parameters
  timeout := entry.probe.timeout

/-- What comes of running the probe at some place. -/
def attemptOf (schedule : LocalSchedule) (turn : ProbeTurn) (i : ℕ) (entry : Scheduled) : ProbeAttempt :=
  turn.attempt i entry.probe (schedule.contextOf entry)

/-- What comes of the probe at some place, if it is due. -/
def attempted (schedule : LocalSchedule) (turn : ProbeTurn) (i : ℕ) (timed : TimedProbe) : Option ProbeAttempt :=
  if turn.now < timed.nextDue then none else some (schedule.attemptOf turn i timed.entry)

/-- Run every probe that is due, and reschedule it. -/
def runDue (schedule : LocalSchedule) (turn : ProbeTurn) : LocalSchedule × List ProbeReport :=
  let attempts := schedule.scheduled.mapIdx (schedule.attempted turn)
  let scheduled := schedule.scheduled.mapIdx fun i timed =>
    match schedule.attempted turn i timed with
    | none => timed
    | some attempt => { timed with nextDue := attempt.ended + timed.entry.probe.interval.nanos }
  let reports := attempts.filterMap fun attempt => attempt.bind ProbeAttempt.report
  -- a command removed after startup cannot provide more GPU readings
  let scheduled :=
    if reports.any ProbeReport.missesGpu then scheduled.filter fun timed => timed.entry.probe.id ≠ probeGpu
    else scheduled
  ({ schedule with scheduled := scheduled }, reports)

/-- Every probe is due, as the clock is read for each. -/
def due (schedule : LocalSchedule) (clock : ℕ → Instant) : LocalSchedule :=
  { schedule with scheduled := schedule.scheduled.mapIdx fun i timed => { timed with nextDue := clock i } }

/-- Run every probe now, ignoring the schedule. -/
def runAll (schedule : LocalSchedule) (clock : ℕ → Instant) (turn : ProbeTurn) : LocalSchedule × List ProbeReport :=
  (schedule.due clock).runDue turn

end LocalSchedule

/-- **The jitter is a tenth of the interval at most.** -/
theorem jitterFor_le (jitterSeed : UInt64) (probe : ProbeId) (interval : Span) :
    10 * jitterFor jitterSeed probe interval ≤ interval.nanos := by
  unfold jitterFor
  dsimp only
  split
  · exact Nat.zero_le _
  · next hspan =>
    generalize probe.name.toUTF8.data.toList.foldl (fun acc b => acc * 31 + b.toUInt64) jitterSeed = hash
    have hpos : 0 < (UInt64.ofNat (interval.nanos / 10 ^ 6) / 10).toNat := by
      rw [Nat.pos_iff_ne_zero]
      exact fun h => hspan (UInt64.toNat.inj h)
    have hmod : (hash % (UInt64.ofNat (interval.nanos / 10 ^ 6) / 10)).toNat <
        (UInt64.ofNat (interval.nanos / 10 ^ 6) / 10).toNat := by
      rw [UInt64.toNat_mod]
      exact Nat.mod_lt _ hpos
    have hspan' : (UInt64.ofNat (interval.nanos / 10 ^ 6) / 10).toNat ≤ interval.nanos / 10 ^ 6 / 10 := by
      rw [UInt64.toNat_div, UInt64.toNat_ofNat']
      exact Nat.div_le_div_right (Nat.mod_le _ _)
    omega

/-! ### What became of the probes -/

/-- A probe of the schedule, with its history. -/
structure ProbeTrace where
  /-- The probe. -/
  timed : TimedProbe
  /-- When it was scheduled. -/
  scheduledAt : Instant
  /-- Every run of it, oldest first, and whether the schedule was ignored for it. -/
  attempts : List (Bool × ProbeAttempt)

/-- A schedule, with the history of its probes. -/
structure TracedSchedule where
  /-- The schedule. -/
  schedule : LocalSchedule
  /-- Its probes. -/
  traces : List ProbeTrace
  /-- The clock, as it was last read. -/
  clock : Instant

/-- What may happen to a schedule. -/
inductive ScheduleEvent
  /-- A probe is scheduled. -/
  | add (clock : Instant) (target : Option EntityId) (probe : ProbeDefinition) (parameters : Json)
  /-- The probes that are due are run. -/
  | runDue (turn : ProbeTurn)
  /-- Every probe is run. -/
  | runAll (clock : ℕ → Instant) (turn : ProbeTurn)

namespace ProbeTrace

/-- How often the probe runs. -/
def interval (trace : ProbeTrace) : ℕ := trace.timed.entry.probe.interval.nanos

/-- When a probe is due: an interval after it was last done, or some jitter after it was
scheduled. -/
def due (jitterSeed : UInt64) (trace : ProbeTrace) : Instant :=
  match trace.attempts.getLast? with
  | none => trace.scheduledAt + jitterFor jitterSeed trace.timed.entry.probe.id trace.timed.entry.probe.interval
  | some (_, attempt) => attempt.ended + trace.interval

/-- Between runs that the schedule asks for there is at least an interval. -/
def Spaced (trace : ProbeTrace) : Prop :=
  trace.attempts.IsChain fun a b => b.1 = true ∨ a.2.ended + trace.interval ≤ b.2.began

/-- What becomes of a probe. -/
def after (trace : ProbeTrace) (forced : Bool) : Option ProbeAttempt → ProbeTrace
  | none => trace
  | some attempt =>
    { trace with
      timed := { trace.timed with nextDue := attempt.ended + trace.interval }
      attempts := trace.attempts ++ [(forced, attempt)] }

/-- What holds of a probe and its history. -/
structure Kept (jitterSeed : UInt64) (clock : Instant) (trace : ProbeTrace) : Prop where
  nextDue : trace.timed.nextDue = trace.due jitterSeed
  spaced : trace.Spaced
  first : ∀ a ∈ trace.attempts.head?, a.1 = true ∨
    trace.scheduledAt + jitterFor jitterSeed trace.timed.entry.probe.id trace.timed.entry.probe.interval ≤ a.2.began
  ordered : trace.attempts.Pairwise fun a b => a.2.ended ≤ b.2.began
  lasting : ∀ a ∈ trace.attempts, a.2.began ≤ a.2.ended ∧ a.2.ended ≤ clock

variable {jitterSeed : UInt64} {clock clock' : Instant} {trace : ProbeTrace} {forced : Bool} {attempt : ProbeAttempt}

theorem Kept.mono (h : trace.Kept jitterSeed clock) (hclock : clock ≤ clock') : trace.Kept jitterSeed clock' :=
  ⟨h.nextDue, h.spaced, h.first, h.ordered, fun a ha => ⟨(h.lasting a ha).1, (h.lasting a ha).2.trans hclock⟩⟩

/-- A probe is run: because it is due, or whether or not it is. -/
theorem Kept.run (h : trace.Kept jitterSeed clock) (hdue : forced = true ∨ trace.due jitterSeed ≤ attempt.began)
    (hbegan : clock ≤ attempt.began) (hended : attempt.began ≤ attempt.ended) (hclock : attempt.ended ≤ clock') :
    (trace.after forced (some attempt)).Kept jitterSeed clock' where
  nextDue := by simp [after, due, interval]
  spaced := by
    refine List.isChain_append.mpr ⟨h.spaced, List.isChain_singleton _, fun a ha b hb => ?_⟩
    obtain rfl : (forced, attempt) = b := by simpa using hb
    refine hdue.imp_right fun hle => ?_
    rw [due, Option.mem_def.mp ha] at hle
    exact hle
  first := by
    intro a ha
    cases hattempts : trace.attempts with
    | nil =>
      obtain rfl : (forced, attempt) = a := by simpa [after, hattempts] using ha
      rw [due, hattempts] at hdue
      exact hdue
    | cons b attempts =>
      refine h.first a ?_
      simpa [after, hattempts] using ha
  ordered := by
    refine List.pairwise_append.mpr ⟨h.ordered, List.pairwise_singleton _ _, fun a ha b hb => ?_⟩
    rw [List.mem_singleton.mp hb]
    exact (h.lasting a ha).2.trans hbegan
  lasting := by
    intro a ha
    rcases List.mem_append.mp ha with ha | ha
    · exact ⟨(h.lasting a ha).1, (h.lasting a ha).2.trans (hbegan.trans (hended.trans hclock))⟩
    · rw [List.mem_singleton.mp ha]
      exact ⟨hended, hclock⟩

end ProbeTrace

namespace TracedSchedule

/-- The probes after those that are due were run. -/
def tracesAfter (schedule : LocalSchedule) (forced : Bool) (turn : ProbeTurn) (traces : List ProbeTrace) :
    List ProbeTrace :=
  let traces := traces.mapIdx fun i trace => trace.after forced (schedule.attempted turn i trace.timed)
  if (schedule.runDue turn).2.any ProbeReport.missesGpu then
    traces.filter fun trace => trace.timed.entry.probe.id ≠ probeGpu
  else traces

/-- What an event does. -/
def step (s : TracedSchedule) : ScheduleEvent → TracedSchedule
  | .add clock target probe parameters =>
    let (schedule, added) := s.schedule.addFor clock target probe parameters
    ⟨schedule,
      if added then
        s.traces ++ [⟨⟨⟨probe, parameters, target⟩, s.schedule.firstDue probe clock⟩, clock, []⟩]
      else s.traces, clock⟩
  | .runDue turn => ⟨(s.schedule.runDue turn).1, tracesAfter s.schedule false turn s.traces, turn.finish⟩
  | .runAll clock turn =>
    ⟨(s.schedule.runAll clock turn).1,
      tracesAfter (s.schedule.due clock) true turn
        (s.traces.mapIdx fun i trace => { trace with timed := { trace.timed with nextDue := clock i } }), turn.finish⟩

/-- The clock never goes back. -/
def Passes (s : TracedSchedule) (turn : ProbeTurn) : Prop :=
  s.clock ≤ turn.now ∧ turn.now ≤ turn.finish ∧ ∀ i probe context,
    turn.now ≤ (turn.attempt i probe context).began ∧
      (turn.attempt i probe context).began ≤ (turn.attempt i probe context).ended ∧
      (turn.attempt i probe context).ended ≤ turn.finish

/-- The events that may happen. -/
def Allowed (s : TracedSchedule) : ScheduleEvent → Prop
  | .add clock _ _ _ => s.clock ≤ clock
  | .runDue turn => s.Passes turn
  | .runAll clock turn => s.Passes turn ∧ ∀ i, clock i ≤ turn.now

/-- What holds of a schedule in every run. -/
structure Sound (s : TracedSchedule) : Prop where
  scheduled : s.schedule.scheduled = s.traces.map ProbeTrace.timed
  kept : ∀ trace ∈ s.traces, trace.Kept s.schedule.jitterSeed s.clock

variable {s : TracedSchedule} {schedule : LocalSchedule} {turn : ProbeTurn} {traces : List ProbeTrace}

/-- The history is one of the schedule. -/
theorem scheduled_runDue (forced : Bool) (h : schedule.scheduled = traces.map ProbeTrace.timed) :
    (schedule.runDue turn).1.scheduled = (tracesAfter schedule forced turn traces).map ProbeTrace.timed := by
  have hmap : (schedule.scheduled.mapIdx fun i timed =>
        match schedule.attempted turn i timed with
        | none => timed
        | some attempt => { timed with nextDue := attempt.ended + timed.entry.probe.interval.nanos }) =
      (traces.mapIdx fun i trace => trace.after forced (schedule.attempted turn i trace.timed)).map
        ProbeTrace.timed := by
    refine List.ext_getElem? fun i => ?_
    rw [h, List.getElem?_map, List.getElem?_mapIdx, List.getElem?_mapIdx, List.getElem?_map]
    cases traces[i]? with
    | none => rfl
    | some trace =>
      dsimp only [Option.map_some]
      cases schedule.attempted turn i trace.timed <;> rfl
  unfold tracesAfter LocalSchedule.runDue
  dsimp only
  split
  · rw [hmap, List.filter_map]
    rfl
  · exact hmap

theorem mem_tracesAfter {forced : Bool} {trace : ProbeTrace} (h : trace ∈ tracesAfter schedule forced turn traces) :
    ∃ i, ∃ before ∈ traces, trace = before.after forced (schedule.attempted turn i before.timed) := by
  have hmem : trace ∈ traces.mapIdx fun i trace => trace.after forced (schedule.attempted turn i trace.timed) := by
    unfold tracesAfter at h
    dsimp only at h
    split at h
    · exact (List.mem_filter.mp h).1
    · exact h
  obtain ⟨i, hi, rfl⟩ := List.mem_mapIdx.mp hmem
  exact ⟨i, _, List.getElem_mem hi, rfl⟩

variable {jitterSeed : UInt64} {trace : ProbeTrace} {i : ℕ}

/-- A turn runs a probe that is due, and no other. -/
theorem kept_of_runDue (h : trace.Kept jitterSeed s.clock) (hpasses : s.Passes turn) :
    (trace.after false (schedule.attempted turn i trace.timed)).Kept jitterSeed turn.finish := by
  obtain ⟨hclock, hfinish, hattempt⟩ := hpasses
  unfold LocalSchedule.attempted
  split
  · exact h.mono (hclock.trans hfinish)
  · next hdue =>
    obtain ⟨hbegan, hended, hlast⟩ := hattempt i trace.timed.entry.probe (schedule.contextOf trace.timed.entry)
    refine h.run (Or.inr ?_) (hclock.trans hbegan) hended hlast
    rw [← h.nextDue]
    exact (not_lt.mp hdue).trans hbegan

/-- A turn runs every probe, if all are due. -/
theorem kept_of_runAll (h : trace.Kept jitterSeed s.clock) (hpasses : s.Passes turn) {clock : Instant}
    (hclock : clock ≤ turn.now) :
    ({ trace with timed := { trace.timed with nextDue := clock } }.after true
      (schedule.attempted turn i { trace.timed with nextDue := clock })).Kept jitterSeed turn.finish := by
  obtain ⟨hbegan, hended, hlast⟩ := hpasses.2.2 i trace.timed.entry.probe (schedule.contextOf trace.timed.entry)
  rw [LocalSchedule.attempted, if_neg (not_lt.mpr hclock)]
  exact h.run (Or.inl rfl) (hpasses.1.trans hbegan) hended hlast

/-- **Every event keeps the schedule.** -/
theorem Sound.step (h : s.Sound) {event : ScheduleEvent} (hallowed : s.Allowed event) : (s.step event).Sound := by
  cases event with
  | add clock target probe parameters =>
    unfold TracedSchedule.step LocalSchedule.addFor
    dsimp only
    split
    · refine ⟨?_, fun trace htrace => ?_⟩
      · simp [h.scheduled]
      · rw [if_pos rfl] at htrace
        rcases List.mem_append.mp htrace with htrace | htrace
        · exact (h.kept trace htrace).mono hallowed
        · rw [List.mem_singleton.mp htrace]
          exact ⟨rfl, List.isChain_nil, fun a ha => (by cases ha), List.Pairwise.nil, fun a ha => (by cases ha)⟩
    · refine ⟨?_, fun trace htrace => ?_⟩
      · simp [h.scheduled]
      · exact (h.kept trace (by simpa using htrace)).mono hallowed
  | runDue turn =>
    refine ⟨scheduled_runDue false h.scheduled, fun trace htrace => ?_⟩
    obtain ⟨i, before, hbefore, rfl⟩ := mem_tracesAfter htrace
    exact kept_of_runDue (h.kept before hbefore) hallowed
  | runAll clock turn =>
    refine ⟨scheduled_runDue true ?_, fun trace htrace => ?_⟩
    · refine List.ext_getElem? fun i => ?_
      simp [LocalSchedule.due, h.scheduled, List.getElem?_mapIdx, Function.comp_def]
    · obtain ⟨i, before, hbefore, rfl⟩ := mem_tracesAfter htrace
      obtain ⟨j, hj, rfl⟩ := List.mem_mapIdx.mp hbefore
      exact kept_of_runAll (h.kept _ (List.getElem_mem hj)) hallowed.1 (hallowed.2 j)

end TracedSchedule

/-- A schedule from when the agent begins, and all its turns. -/
def scheduleMachine : Machine TracedSchedule ScheduleEvent where
  Init := fun s => s.schedule.scheduled = [] ∧ s.traces = []
  step := TracedSchedule.step
  Allowed := TracedSchedule.Allowed

namespace TracedSchedule

variable {s : TracedSchedule} {log : List ScheduleEvent}

theorem sound_run (h : scheduleMachine.Run log s) : s.Sound := by
  refine h.invariant (P := fun _ s => s.Sound) ?_ fun _ _ _ _ hsound hallowed => hsound.step hallowed
  rintro s ⟨hscheduled, htraces⟩
  refine ⟨by rw [hscheduled, htraces]; rfl, fun trace htrace => ?_⟩
  rw [htraces] at htrace
  cases htrace

/-! ### What remains scheduled -/

/-- A probe goes on as another: the same one, with more history. -/
def Continues (trace trace' : ProbeTrace) : Prop :=
  trace'.timed.entry = trace.timed.entry ∧ trace'.scheduledAt = trace.scheduledAt ∧ trace.attempts <+: trace'.attempts

theorem continues_after (trace : ProbeTrace) (forced : Bool) (attempt : Option ProbeAttempt) :
    Continues trace (trace.after forced attempt) := by
  cases attempt with
  | none => exact ⟨rfl, rfl, List.prefix_refl _⟩
  | some attempt => exact ⟨rfl, rfl, List.prefix_append _ _⟩

theorem exists_mem_tracesAfter (schedule : LocalSchedule) (forced : Bool) (turn : ProbeTurn) {traces : List ProbeTrace}
    {trace : ProbeTrace} (h : trace ∈ traces) (hgpu : trace.timed.entry.probe.id ≠ probeGpu) :
    ∃ trace' ∈ tracesAfter schedule forced turn traces, Continues trace trace' := by
  obtain ⟨i, hi, rfl⟩ := List.getElem_of_mem h
  have hcontinues := continues_after traces[i] forced (schedule.attempted turn i traces[i].timed)
  refine ⟨_, ?_, hcontinues⟩
  have hmem : traces[i].after forced (schedule.attempted turn i traces[i].timed) ∈
      traces.mapIdx fun i trace => trace.after forced (schedule.attempted turn i trace.timed) :=
    List.mem_mapIdx.mpr ⟨i, hi, rfl⟩
  unfold tracesAfter
  dsimp only
  split
  · refine List.mem_filter.mpr ⟨hmem, ?_⟩
    rw [hcontinues.1]
    exact decide_eq_true hgpu
  · exact hmem

/-- Only the probe of the GPUs is ever given up. -/
theorem exists_mem_step {trace : ProbeTrace} (h : trace ∈ s.traces) (hgpu : trace.timed.entry.probe.id ≠ probeGpu)
    (event : ScheduleEvent) : ∃ trace' ∈ (s.step event).traces, Continues trace trace' := by
  cases event with
  | add clock target probe parameters =>
    refine ⟨trace, ?_, rfl, rfl, List.prefix_refl _⟩
    unfold step
    dsimp only
    split
    · exact List.mem_append_left _ h
    · exact h
  | runDue turn => exact exists_mem_tracesAfter s.schedule false turn h hgpu
  | runAll clock turn =>
    obtain ⟨i, hi, rfl⟩ := List.getElem_of_mem h
    have hmem : { s.traces[i] with timed := { s.traces[i].timed with nextDue := clock i } } ∈
        s.traces.mapIdx fun i trace => { trace with timed := { trace.timed with nextDue := clock i } } :=
      List.mem_mapIdx.mpr ⟨i, hi, rfl⟩
    obtain ⟨trace', htrace', hcontinues⟩ := exists_mem_tracesAfter (s.schedule.due clock) true turn hmem hgpu
    exact ⟨trace', htrace', hcontinues⟩

theorem exists_mem_foldl (events : List ScheduleEvent) : ∀ {s : TracedSchedule} {trace : ProbeTrace}, trace ∈ s.traces →
    trace.timed.entry.probe.id ≠ probeGpu → ∃ trace' ∈ (events.foldl step s).traces, Continues trace trace' := by
  induction events with
  | nil => exact fun h _ => ⟨_, h, rfl, rfl, List.prefix_refl _⟩
  | cons event events ih =>
    intro s trace h hgpu
    obtain ⟨trace', htrace', hentry, hat, hattempts⟩ := exists_mem_step h hgpu event
    obtain ⟨trace'', htrace'', hentry', hat', hattempts'⟩ := ih htrace' (by rw [hentry]; exact hgpu)
    exact ⟨trace'', htrace'', hentry'.trans hentry, hat'.trans hat, hattempts.trans hattempts'⟩

/-! ### In every run -/

/-- **Every probe keeps its schedule.**  In every run, runs of a probe that the schedule asks
for are an interval apart; a turn runs a probe exactly if an interval has passed since it was
last done, or a tenth of one at most since it was scheduled; and only the probe of the GPUs
is ever given up. -/
theorem keeps_schedule (h : scheduleMachine.Run log s) :
    s.schedule.scheduled = s.traces.map ProbeTrace.timed ∧ ∀ trace ∈ s.traces,
      trace.Spaced ∧
      (∀ turn i, (s.schedule.attempted turn i trace.timed).isSome = true ↔
        trace.due s.schedule.jitterSeed ≤ turn.now) ∧
      (trace.attempts = [] → 10 * trace.due s.schedule.jitterSeed ≤ 10 * trace.scheduledAt + trace.interval) ∧
      (trace.timed.entry.probe.id ≠ probeGpu →
        ∀ events : List ScheduleEvent, ∃ trace' ∈ (events.foldl step s).traces, Continues trace trace') := by
  have hsound := sound_run h
  refine ⟨hsound.scheduled, fun trace htrace => ⟨(hsound.kept trace htrace).spaced, fun turn i => ?_, fun hnone => ?_,
    fun hgpu events => exists_mem_foldl events htrace hgpu⟩⟩
  · rw [← (hsound.kept trace htrace).nextDue, LocalSchedule.attempted]
    split
    · next hlater => exact iff_of_false Bool.false_ne_true (not_le.mpr hlater)
    · next hdue => exact iff_of_true rfl (not_lt.mp hdue)
  · have hjitter := jitterFor_le s.schedule.jitterSeed trace.timed.entry.probe.id trace.timed.entry.probe.interval
    rw [ProbeTrace.due, hnone]
    exact (Nat.mul_add _ _ _).trans_le (Nat.add_le_add_left hjitter _)

/-- A probe that runs every 1000 nanoseconds. -/
def quickProbe : ProbeDefinition := { Probe.reachability with interval := ⟨1000, by decide⟩ }

/-- A turn in which a probe takes 100 nanoseconds. -/
def shortTurn (now : Instant) : ProbeTurn := ⟨now, now + 100, fun _ _ _ => ⟨now, now + 100, none⟩⟩

/-- A schedule of one probe, after a turn. -/
def afterOne : TracedSchedule :=
  (step ⟨.empty ⟨⟨0⟩⟩ ∅ 0, [], 0⟩ (.add 0 none quickProbe .null)).step (.runDue (shortTurn 400))

/-- What became of the probe in that turn. -/
def traceOfOne : ProbeTrace := ⟨⟨⟨quickProbe, .null, none⟩, 1500⟩, 0, [(false, ⟨400, 500, none⟩)]⟩

/-- A probe that is done at 500 is run again at 1500, and not before. -/
theorem keeps_schedule_afterOne :
    (afterOne.schedule.attempted (shortTurn 1500) 0 traceOfOne.timed).isSome = true ∧
      (afterOne.schedule.attempted (shortTurn 1499) 0 traceOfOne.timed).isSome = false := by
  have hinit : scheduleMachine.Run [] ⟨.empty ⟨⟨0⟩⟩ ∅ 0, [], 0⟩ := .init ⟨rfl, rfl⟩
  have hclock : (0 : Instant) ≤ 0 := le_rfl
  have hpasses : (step ⟨.empty ⟨⟨0⟩⟩ ∅ 0, [], 0⟩ (.add 0 none quickProbe .null)).Passes (shortTurn 400) :=
    ⟨Nat.zero_le _, Nat.le_add_right _ _, fun i probe context => ⟨le_rfl, Nat.le_add_right _ _, le_rfl⟩⟩
  have hrun : scheduleMachine.Run [.add 0 none quickProbe .null, .runDue (shortTurn 400)] afterOne :=
    hinit.append [ScheduleEvent.add 0 none quickProbe .null, ScheduleEvent.runDue (shortTurn 400)]
      ⟨hclock, hpasses, trivial⟩
  have htraces : afterOne.traces = [traceOfOne] := rfl
  have hmem : traceOfOne ∈ afterOne.traces := by
    rw [htraces]
    exact List.mem_singleton_self _
  obtain ⟨-, hdue, -⟩ := (keeps_schedule hrun).2 traceOfOne hmem
  have hat : traceOfOne.due afterOne.schedule.jitterSeed = 1500 := rfl
  rw [← Bool.not_eq_true, hdue, hdue, hat]
  decide

end TracedSchedule

end Sentinel
