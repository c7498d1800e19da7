import Sentinel.Agent.Schedule
import Sentinel.Command
import Sentinel.Lib.Collections
import Sentinel.Lib.Cutting
import Sentinel.Lib.Gapless

/-!
# Events of the kernel and of services

The journal is read again and again, so that what explains a failure is at the controller
before the machine goes down.  Every reading looks back over two intervals, though never
further than a quarter of an hour, and keeps the lines of the classes it knows.

## Main definitions

* `EventClass`, `eventClasses`, `classify` — the classes.
* `parseJournal`, `Journal.collect` — what is made of the output.
* `Journal.lookback` — how far a scan looks back.

## Main results

* `Journal.status_scanOf_iff` — a host is degraded by a serious pattern in any line.
* `Journal.missesNothing_iff` — **nothing written between two readings is missed** exactly if none
  comes later than the window allows.
-/

namespace Sentinel

/-! ### Classes of events -/

/-- How much a matched event says about the host's health. -/
inductive EventSeverity
  /-- Worth preserving as evidence. -/
  | notable
  /-- Evidence that the host itself is in trouble. -/
  | serious
  deriving DecidableEq, Repr

/-- A class of event worth recognising. -/
structure EventClass where
  /-- Short machine-readable name. -/
  kind : String
  /-- How much it says about host health. -/
  severity : EventSeverity
  /-- Lowercase substrings, any of which identifies this class. -/
  patterns : List String
  deriving DecidableEq, Repr

/-- The classes, in the order they are tried. -/
def eventClasses : List EventClass :=
  [⟨"io_error", .serious,
      ["i/o error", "buffer i/o error", "critical medium error", "unrecovered read error"]⟩,
    ⟨"filesystem_readonly", .serious,
      ["remounting filesystem read-only", "ext4-fs error", "xfs.*corruption", "filesystem panic"]⟩,
    ⟨"hung_task", .serious, ["hung_task", "blocked for more than", "task blocked for more than"]⟩,
    ⟨"nvme_error", .serious, ["nvme", "controller is down", "i/o timeout, reset controller"]⟩,
    ⟨"gpu_xid", .serious, ["nvrm: xid", "xid error", "gpu has fallen off the bus"]⟩,
    ⟨"mce", .serious, ["machine check", "mce:", "hardware error"]⟩,
    ⟨"nfs_server_not_responding", .serious, ["nfs: server", "not responding", "nfs server"]⟩,
    -- usually a job exceeding its memory, which is the system working
    ⟨"oom", .notable, ["out of memory: killed", "oom-killer", "oom_reaper"]⟩,
    ⟨"network_down", .notable, ["link is down", "link down", "nic link is down"]⟩,
    ⟨"thermal", .notable, ["thermal throttling", "temperature above threshold", "critical temperature"]⟩]

/-- Whether a lowercase line is of a class. -/
def EventClass.recognises (c : EventClass) (lowered : List Char) : Bool :=
  c.patterns.any fun pattern => (Text.splitOnce pattern.toList lowered).isSome

/-- The class of a line, if it is one worth keeping. -/
def classify (line : List Char) : Option EventClass :=
  let lowered := line.map Char.toLower
  eventClasses.find? fun c => c.recognises lowered

/-- One recognised event. -/
structure JournalEvent where
  /-- Which class it belongs to. -/
  kind : String
  /-- How much it says about health. -/
  severity : EventSeverity
  /-- The line, cut short. -/
  message : List Char
  /-- The unit or kernel source, when the journal gave one. -/
  source : Option (List Char)
  /-- The timestamp the journal recorded. -/
  timestamp : Option (List Char)
  deriving DecidableEq, Repr

/-- Longest message excerpt kept. -/
def maxMessage : ℕ := 400

/-- What is kept of a line of a class. -/
def EventClass.event (c : EventClass) (line : List Char) : JournalEvent where
  kind := c.kind
  severity := c.severity
  message := line.take maxMessage
  source := (line.splitOn ' ')[2]?.map fun field => (field.reverse.dropWhile fun c => c = ':').reverse
  timestamp := (line.splitOn ' ')[0]?.filter fun field => field.head?.any Char.isDigit

/-- The recognised events of an output; lines that match nothing are dropped. -/
def parseJournal (output : List Char) : List JournalEvent :=
  (Text.lines output).filterMap fun line => (classify line).map fun c => c.event line

/-! ### Readings -/

namespace Journal

/-- Most bytes to read in one scan. -/
def maxBytes : ℕ := 1024 * 1024

/-- Furthest back a scan will ever look, in nanoseconds. -/
def maxLookback : ℕ := 15 * 60 * 10 ^ 9

/-- The window of a scan, in nanoseconds: two intervals unless it is a parameter; nothing if
twice the interval is out of range. -/
def scanWindow (definition : ProbeDefinition) (context : ProbeContext) : Option ℕ :=
  match context.parameterU64 "window_seconds" with
  | some seconds => some (seconds * 10 ^ 9)
  | none => (definition.interval.checkedMul 2).map Span.nanos

/-- How far back the journal is asked for, in whole seconds. -/
def since (window : ℕ) : ℕ := min window maxLookback / 10 ^ 9

/-- How far back the scans of a probe look, in nanoseconds. -/
def lookback (schedule : LocalSchedule) (entry : Scheduled) : Option ℕ :=
  (scanWindow entry.probe (schedule.contextOf entry)).map fun window => since window * 10 ^ 9

/-- Read the journal: what is made of a run of the command. -/
def readWindow (execution : Execution) : Option (List JournalEvent) :=
  match execution.result maxBytes with
  | .error _ => none
  | .ok output => if !output.isSuccess && Text.trim output.stdout = [] then none else some (parseJournal output.stdout)

/-- What a scan reports. -/
structure Scan where
  /-- Outcome. -/
  status : ProbeStatus
  /-- Facts. -/
  payload : Json
  /-- The events themselves. -/
  evidence : List JournalEvent
  /-- The code and the message of the error, if there is one. -/
  error : Option (String × String)

/-- The events that are evidence of trouble. -/
def serious (events : List JournalEvent) : List JournalEvent := events.filter fun e => e.severity = .serious

/-- What a scan makes of the events it read over a window. -/
def scanOf (window : ℕ) (events : List JournalEvent) : Scan where
  status := if (serious events).isEmpty then .ok else .degraded
  payload := .obj [
    ("window_seconds", .num (window / 10 ^ 9 : ℕ)),
    ("event_count", .num events.length),
    ("serious_count", .num (serious events).length),
    ("kinds", .ofStrings (events.map JournalEvent.kind).sortDedup)]
  evidence := events
  error :=
    if (serious events).isEmpty then none
    else some ("kernel_events", toString (serious events).length ++ " serious kernel event(s): " ++
      ", ".intercalate ((serious events).map JournalEvent.kind))

/-- Collect: what a scan reports.  Not being able to read the journal is a limitation of the
observer, not a fault of the host; `detail` says what went wrong. -/
def collect (window : ℕ) (execution : Execution) (detail : String) : Scan :=
  match readWindow execution with
  | none => ⟨.unsupported, .null, [], some ("journal_unavailable", detail)⟩
  | some events => scanOf window events

/-! ### Which lines degrade a host -/

/-- A line states trouble: it contains a pattern of a serious class. -/
def StatesTrouble (line : List Char) : Prop :=
  ∃ c ∈ eventClasses, c.severity = .serious ∧ ∃ pattern ∈ c.patterns, pattern.toList <:+: line.map Char.toLower

end Journal

theorem EventClass.recognises_iff {c : EventClass} {lowered : List Char} :
    c.recognises lowered = true ↔ ∃ pattern ∈ c.patterns, pattern.toList <:+: lowered := by
  simp [recognises, Text.isSome_splitOnce_iff]

/-- The serious classes are tried first, so that a line of one is never taken for less. -/
theorem severity_classify {line : List Char} :
    (∃ c, classify line = some c ∧ c.severity = .serious) ↔ Journal.StatesTrouble line := by
  have hsplit : eventClasses = eventClasses.take 7 ++ eventClasses.drop 7 := (List.take_append_drop 7 _).symm
  have hserious : ∀ c ∈ eventClasses.take 7, c.severity = .serious := by decide
  have hnotable : ∀ c ∈ eventClasses.drop 7, c.severity ≠ .serious := by decide
  simp only [classify, Journal.StatesTrouble, ← EventClass.recognises_iff]
  constructor
  · rintro ⟨c, hc, hseverity⟩
    have hrecognises := List.find?_some hc
    exact ⟨c, List.mem_of_find?_eq_some hc, hseverity, hrecognises⟩
  · rintro ⟨c, hc, hseverity, hrecognises⟩
    rw [hsplit, List.mem_append] at hc
    have hfirst : c ∈ eventClasses.take 7 := hc.resolve_right fun hlast => hnotable c hlast hseverity
    cases hfind : (eventClasses.take 7).find? fun c => c.recognises (line.map Char.toLower) with
    | none => exact absurd hrecognises (List.find?_eq_none.mp hfind c hfirst)
    | some d =>
      refine ⟨d, ?_, hserious d (List.mem_of_find?_eq_some hfind)⟩
      rw [hsplit, List.find?_append, hfind]
      rfl

namespace Journal

/-- **A scan that reads the journal finds the host degraded exactly if some line states
trouble.** -/
theorem status_scanOf_iff {window : ℕ} {output : List Char} :
    (scanOf window (parseJournal output)).status = .degraded ↔ ∃ line ∈ Text.lines output, StatesTrouble line := by
  have hserious : (serious (parseJournal output)).isEmpty = false ↔ ∃ line ∈ Text.lines output, StatesTrouble line := by
    rw [List.isEmpty_eq_false_iff_exists_mem]
    simp only [← severity_classify, serious, parseJournal, List.mem_filter, List.mem_filterMap, Option.map_eq_some_iff,
      decide_eq_true_eq]
    constructor
    · rintro ⟨_, ⟨line, hline, c, hc, rfl⟩, hseverity⟩
      exact ⟨line, hline, c, hc, hseverity⟩
    · rintro ⟨line, hline, c, hc, hseverity⟩
      exact ⟨_, ⟨line, hline, c, hc, rfl⟩, hseverity⟩
  rw [← hserious, scanOf]
  cases (serious (parseJournal output)).isEmpty <;> simp

/-! ### Nothing is missed -/

/-- When the journal was read, by the runs of its probe that got to it. -/
def readings (reading : ProbeAttempt → Option Instant) (trace : ProbeTrace) : List Instant :=
  trace.attempts.filterMap fun a => reading a.2

variable {trace : ProbeTrace} {jitterSeed : UInt64} {clock : Instant} {reading : ProbeAttempt → Option Instant}

/-- The journal is read in the course of a run. -/
def ReadsWithin (reading : ProbeAttempt → Option Instant) (trace : ProbeTrace) : Prop :=
  ∀ a ∈ trace.attempts, ∀ r, reading a.2 = some r → a.2.began ≤ r ∧ r ≤ a.2.ended

theorem pairwise_readings (h : trace.Kept jitterSeed clock) (hreading : ReadsWithin reading trace) :
    (readings reading trace).Pairwise (· ≤ ·) := by
  refine List.pairwise_filterMap.mpr (h.ordered.imp_of_mem fun ha hb hle r hr r' hr' => ?_)
  exact (hreading _ ha r hr).2.trans (hle.trans (hreading _ hb r' hr').1)

/-- Where the schedule is never ignored, all runs of a probe are an interval apart. -/
theorem pairwise_of_spaced {interval : ℕ} {attempts : List (Bool × ProbeAttempt)}
    (hspaced : attempts.IsChain fun a b => b.1 = true ∨ a.2.ended + interval ≤ b.2.began)
    (hfree : ∀ a ∈ attempts, a.1 = false) (hlasting : ∀ a ∈ attempts, a.2.began ≤ a.2.ended) :
    attempts.Pairwise fun a b => a.2.ended + interval ≤ b.2.began := by
  induction attempts with
  | nil => exact List.Pairwise.nil
  | cons a attempts ih =>
    cases attempts with
    | nil => exact List.pairwise_singleton _ _
    | cons b attempts =>
      rw [List.isChain_cons_cons] at hspaced
      have hrest := ih hspaced.2 (fun c hc => hfree c (List.mem_cons_of_mem _ hc))
        fun c hc => hlasting c (List.mem_cons_of_mem _ hc)
      have hfirst : a.2.ended + interval ≤ b.2.began := by
        refine hspaced.1.resolve_left ?_
        rw [hfree b (List.mem_cons_of_mem _ List.mem_cons_self)]
        exact Bool.false_ne_true
      refine List.pairwise_cons.mpr ⟨fun c hc => ?_, hrest⟩
      rcases List.mem_cons.mp hc with rfl | hc
      · exact hfirst
      · have hlater := (List.pairwise_cons.mp hrest).1 c hc
        have hlast := hlasting b (List.mem_cons_of_mem _ List.mem_cons_self)
        exact hfirst.trans (hlast.trans ((Nat.le_add_right _ _).trans hlater))

/-- Runs that are no further apart than the schedule and some delay ask for. -/
def Punctual (trace : ProbeTrace) (lasting late : ℕ) : Prop :=
  (∀ a ∈ trace.attempts, a.2.ended ≤ a.2.began + lasting) ∧
    trace.attempts.IsChain fun a b => b.2.began ≤ a.2.ended + trace.interval + late

/-- No scan looks back further than it may. -/
theorem lookback_le {schedule : LocalSchedule} {entry : Scheduled} {back : ℕ}
    (h : lookback schedule entry = some back) : back ≤ maxLookback := by
  obtain ⟨window, -, rfl⟩ := Option.map_eq_some_iff.mp h
  exact (Nat.div_mul_le_self _ _).trans (min_le_right _ _)

/-- Runs that are punctual read the journal in time. -/
theorem Punctual.readings {lasting late : ℕ} (h : Punctual trace lasting late) (hreading : ReadsWithin reading trace)
    (hall : ∀ a ∈ trace.attempts, (reading a.2).isSome = true) :
    (readings reading trace).IsChain fun a b => b ≤ a + (trace.interval + 2 * lasting + late) := by
  have hsome : ∀ a ∈ trace.attempts, reading a.2 = some ((reading a.2).getD 0) := by
    intro a ha
    obtain ⟨r, hr⟩ := Option.isSome_iff_exists.mp (hall a ha)
    rw [hr]
    rfl
  have hmap : Journal.readings reading trace = trace.attempts.map fun a => (reading a.2).getD 0 :=
    (List.filterMap_congr hsome).trans (congrFun List.filterMap_eq_map' _)
  rw [hmap, List.isChain_map]
  refine h.2.imp_of_mem_imp fun a b ha hb hlate => ?_
  have hread := (hreading a ha _ (hsome a ha)).1
  have hread' := (hreading b hb _ (hsome b hb)).2
  have hlast := h.1 a ha
  have hlast' := h.1 b hb
  calc (reading b.2).getD 0 ≤ b.2.began + lasting := hread'.trans hlast'
    _ ≤ a.2.ended + trace.interval + late + lasting := Nat.add_le_add_right hlate _
    _ ≤ a.2.began + lasting + trace.interval + late + lasting := by gcongr
    _ = a.2.began + (trace.interval + 2 * lasting + late) := by ring
    _ ≤ (reading a.2).getD 0 + (trace.interval + 2 * lasting + late) := Nat.add_le_add_right hread _

/-- Of readings that are an interval apart, two are too many for a scan that looks back less
far. -/
theorem not_isChain_of_apart {reads : List Instant} {interval back : ℕ}
    (hapart : reads.Pairwise fun a b => a + interval ≤ b) (hless : back < interval) (htwo : 2 ≤ reads.length) :
    ¬ reads.IsChain fun a b => b ≤ a + back := by
  intro hchain
  cases reads with
  | nil => cases htwo
  | cons a reads =>
    cases reads with
    | nil => simp at htwo
    | cons b rest =>
      have hclose := (List.isChain_cons_cons.mp hchain).1
      have hfar := (List.pairwise_cons.mp hapart).1 b List.mem_cons_self
      omega

/-- **Nothing written between two readings of the journal is missed exactly if none comes
later than a scan looks back.**  That holds if no run takes long or is late, and it never
does if the interval is longer than a scan may look back. -/
theorem missesNothing_iff {s : TracedSchedule} {log : List ScheduleEvent} {back : ℕ} (h : scheduleMachine.Run log s)
    (htrace : trace ∈ s.traces) (hreading : ReadsWithin reading trace)
    (hback : lookback s.schedule trace.timed.entry = some back) :
    ((readings reading trace).Gapless back ↔ (readings reading trace).IsChain fun a b => b ≤ a + back) ∧
      (∀ lasting late, Punctual trace lasting late → (∀ a ∈ trace.attempts, (reading a.2).isSome = true) →
        trace.interval + 2 * lasting + late ≤ back → (readings reading trace).Gapless back) ∧
      (maxLookback < trace.interval → (∀ a ∈ trace.attempts, a.1 = false) → 2 ≤ (readings reading trace).length →
        ¬ (readings reading trace).Gapless back) := by
  have hkept := (TracedSchedule.sound_run h).kept trace htrace
  have hsorted := pairwise_readings hkept hreading
  have hiff := List.gapless_iff (Nat.zero_le back) hsorted
  refine ⟨hiff, fun lasting late hpunctual hall hle => hiff.mpr ?_, fun hlong hfree htwo hgapless => ?_⟩
  · exact (hpunctual.readings hreading hall).imp fun a b hchain => hchain.trans (Nat.add_le_add_left hle a)
  · have hspaced := pairwise_of_spaced hkept.spaced hfree fun a ha => (hkept.lasting a ha).1
    have hapart : (readings reading trace).Pairwise fun a b => a + trace.interval ≤ b := by
      refine List.pairwise_filterMap.mpr (hspaced.imp_of_mem fun ha hb hle r hr r' hr' => ?_)
      exact (Nat.add_le_add_right (hreading _ ha r hr).2 _).trans (hle.trans (hreading _ hb r' hr').1)
    exact not_isChain_of_apart hapart ((lookback_le hback).trans_lt hlong) htwo (hiff.mp hgapless)

/-- The journal, read every sixteen minutes. -/
def rareJournal : ProbeDefinition :=
  { Probe.journal with requiredCapabilities := [], interval := ⟨16 * 60 * 10 ^ 9, by decide⟩ }

/-- A schedule that read the journal twice, half an hour apart. -/
def readTwice : TracedSchedule :=
  TracedSchedule.step (TracedSchedule.step (TracedSchedule.step ⟨.empty ⟨⟨0⟩⟩ ∅ 0, [], 0⟩ (.add 0 none rareJournal .null))
    (.runDue (TracedSchedule.shortTurn (30 * 60 * 10 ^ 9)))) (.runDue (TracedSchedule.shortTurn (60 * 60 * 10 ^ 9)))

/-- What became of the probe. -/
def traceOfTwo : ProbeTrace :=
  ⟨⟨⟨rareJournal, .null, none⟩, 76 * 60 * 10 ^ 9 + 100⟩, 0,
    [(false, ⟨30 * 60 * 10 ^ 9, 30 * 60 * 10 ^ 9 + 100, none⟩),
      (false, ⟨60 * 60 * 10 ^ 9, 60 * 60 * 10 ^ 9 + 100, none⟩)]⟩

/-- Half of what was written is missed. -/
theorem missesNothing_iff_readTwice :
    ¬ (readings (fun a => some a.began) traceOfTwo).Gapless (15 * 60 * 10 ^ 9) := by
  have hinit : scheduleMachine.Run [] ⟨.empty ⟨⟨0⟩⟩ ∅ 0, [], 0⟩ := .init ⟨rfl, rfl⟩
  have hclock : (0 : Instant) ≤ 0 := le_rfl
  have hpasses : ∀ (s : TracedSchedule) (now : Instant), s.clock ≤ now → s.Passes (TracedSchedule.shortTurn now) :=
    fun s now hle => ⟨hle, Nat.le_add_right _ _, fun i probe context => ⟨le_rfl, Nat.le_add_right _ _, le_rfl⟩⟩
  have hrun : scheduleMachine.Run _ readTwice :=
    hinit.append [ScheduleEvent.add 0 none rareJournal .null,
      ScheduleEvent.runDue (TracedSchedule.shortTurn (30 * 60 * 10 ^ 9)),
      ScheduleEvent.runDue (TracedSchedule.shortTurn (60 * 60 * 10 ^ 9))]
      ⟨hclock, hpasses _ _ (Nat.zero_le _), hpasses _ _ (by decide), trivial⟩
  have htraces : readTwice.traces = [traceOfTwo] := rfl
  have hmem : traceOfTwo ∈ readTwice.traces := by
    rw [htraces]
    exact List.mem_singleton_self _
  have hreading : ReadsWithin (fun a => some a.began) traceOfTwo := by
    intro a ha r hr
    obtain rfl := Option.some.inj hr
    exact ⟨le_rfl, (((TracedSchedule.sound_run hrun).kept traceOfTwo hmem).lasting a ha).1⟩
  have hback : lookback readTwice.schedule traceOfTwo.timed.entry = some (15 * 60 * 10 ^ 9) := rfl
  obtain ⟨-, -, hnever⟩ := missesNothing_iff hrun hmem hreading hback
  exact hnever (by decide) (by decide) (by decide)

end Journal

end Sentinel
