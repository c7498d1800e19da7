import Sentinel.Config
import Sentinel.Probes.Catalog
import Sentinel.Probes.Runner

/-!
# The agent's own probes

An agent schedules one probe for each NFS mount of its host, so that a mount that hangs
does not stop the others being checked.  What the runner limits is the number of
executions of a probe against a target, and the target of all these probes is the host.

## Main definitions

* `LocalProbes`, `LocalProbes.addFor`, `scheduleStorageProbes` — what is scheduled.
* `MountChecks`, `MountChecks.step` — the runs of the mounts' probes.

## Main results

* `MountChecks.Sound.step` — all runs share one slot.
* `MountChecks.independent_iff` — when no mount keeps another from being checked.
-/

namespace Sentinel

/-! ### What is scheduled -/

/-- A mounted file system. -/
structure MountInfo where
  /-- What is mounted. -/
  source : String
  /-- Where it is mounted. -/
  target : String
  /-- File system type. -/
  fstype : String
  deriving DecidableEq

/-- Whether this is a network file system of the NFS family. -/
def MountInfo.isNfs (mount : MountInfo) : Bool :=
  mount.fstype = "nfs" || mount.fstype = "nfs4" || mount.fstype.startsWith "nfs"

/-- A probe, its parameters, and what it measures when that is not the host itself. -/
structure Scheduled where
  /-- The probe. -/
  probe : ProbeDefinition
  /-- Its own parameters. -/
  parameters : Json
  /-- What it measures. -/
  target : Option EntityId

/-- The probes an agent runs on its host. -/
structure LocalProbes where
  /-- The host. -/
  entity : EntityId
  /-- What the host can do. -/
  capabilities : CapabilitySet
  /-- The probes scheduled. -/
  scheduled : List Scheduled

namespace LocalProbes

/-- Whether a probe applies to this host. -/
def applies (probes : LocalProbes) (definition : ProbeDefinition) : Bool :=
  definition.executionMode ≠ .remote && definition.appliesTo .host probes.capabilities

/-- The default local probe set for a host. -/
def new (entity : EntityId) (capabilities : CapabilitySet) : LocalProbes :=
  let probes : LocalProbes := ⟨entity, capabilities, []⟩
  { probes with
    scheduled := ([Probe.hostMetrics].filter probes.applies).map fun definition => ⟨definition, .null, none⟩ }

/-- Schedule a probe that measures something, unless this host lacks what it takes. -/
def addFor (probes : LocalProbes) (target : Option EntityId) (probe : ProbeDefinition) (parameters : Json) :
    LocalProbes × Bool :=
  if probes.applies probe then
    ({ probes with scheduled := probes.scheduled ++ [⟨probe, parameters, target⟩] }, true)
  else (probes, false)

/-- Schedule an additional probe with its own parameters. -/
def add (probes : LocalProbes) (probe : ProbeDefinition) (parameters : Json) : LocalProbes × Bool :=
  probes.addFor none probe parameters

/-- Add a probe with the operator's schedule applied. -/
def addScheduled (schedules : ProbeSchedules) (probes : LocalProbes) (probe : ProbeDefinition)
    (parameters : Json) : LocalProbes :=
  if schedules.isEnabled probe.id then (probes.add (schedules.apply probe) parameters).1 else probes

/-- The parameters of the probe of a mount. -/
def mountParameters (mount : MountInfo) : Json :=
  .obj [("mount_point", .str mount.target), ("source", .str mount.source)]

/-- What this host serves, and what it uses: one cheap probe describing every mount, and
one active probe per mount. -/
def scheduleStorageProbes (probes : LocalProbes) (schedules : ProbeSchedules) (mounts : List MountInfo) :
    LocalProbes :=
  let probes := addScheduled schedules probes Probe.nfsExports .null
  let mounts := mounts.filter MountInfo.isNfs
  if mounts.isEmpty then probes
  else
    let probes := addScheduled schedules probes Probe.nfsMount .null
    mounts.foldl (fun probes mount => addScheduled schedules probes Probe.nfsClientIo (mountParameters mount)) probes

/-- The active probes of the mounts. -/
def clientIo (probes : LocalProbes) : List Scheduled :=
  probes.scheduled.filter fun entry => entry.probe.id = probeClientIo

/-- What an entry measures. -/
def targetOf (probes : LocalProbes) (entry : Scheduled) : EntityId := entry.target.getD probes.entity

variable {probes : LocalProbes} {schedules : ProbeSchedules}

theorem id_apply (schedules : ProbeSchedules) (probe : ProbeDefinition) : (schedules.apply probe).id = probe.id := by
  unfold ProbeSchedules.apply
  split
  · rfl
  · rfl

/-- Whether mounts are checked: unless their probe is switched off or the host lacks what it
takes. -/
def checksMounts (schedules : ProbeSchedules) (capabilities : CapabilitySet) : Bool :=
  schedules.isEnabled probeClientIo && Probe.nfsClientIo.appliesTo .host capabilities

/-- The entry of a mount. -/
def mountEntry (schedules : ProbeSchedules) (mount : MountInfo) : Scheduled :=
  ⟨schedules.apply Probe.nfsClientIo, mountParameters mount, none⟩

theorem applies_clientIo (schedules : ProbeSchedules) (probes : LocalProbes) :
    probes.applies (schedules.apply Probe.nfsClientIo) = Probe.nfsClientIo.appliesTo .host probes.capabilities := by
  unfold applies ProbeSchedules.apply
  split
  · rfl
  · rfl

theorem addScheduled_spec (schedules : ProbeSchedules) (probes : LocalProbes) (probe : ProbeDefinition)
    (parameters : Json) :
    let after := addScheduled schedules probes probe parameters
    after.entity = probes.entity ∧ after.capabilities = probes.capabilities ∧
      after.clientIo = probes.clientIo ++
        (if probe.id = probeClientIo ∧ schedules.isEnabled probe.id = true ∧
          probes.applies (schedules.apply probe) = true
          then [⟨schedules.apply probe, parameters, none⟩] else []) := by
  intro after
  simp only [after, addScheduled, add, addFor]
  split
  · next henabled =>
    split
    · next happlies =>
      refine ⟨rfl, rfl, ?_⟩
      rw [clientIo, List.filter_append, List.filter_singleton, id_apply]
      by_cases hid : probe.id = probeClientIo
      · rw [if_pos ⟨hid, henabled, happlies⟩, decide_eq_true hid]
        rfl
      · rw [if_neg fun h => hid h.1, decide_eq_false hid]
        rfl
    · next happlies => simp [happlies]
  · next henabled => simp [henabled]

theorem addMounts_spec (schedules : ProbeSchedules) (mounts : List MountInfo) : ∀ probes : LocalProbes,
    let after := mounts.foldl (fun probes mount =>
      addScheduled schedules probes Probe.nfsClientIo (mountParameters mount)) probes
    after.entity = probes.entity ∧
      after.clientIo = probes.clientIo ++
        (if checksMounts schedules probes.capabilities = true then mounts.map (mountEntry schedules) else []) := by
  induction mounts with
  | nil =>
    intro probes
    exact ⟨rfl, by simp⟩
  | cons mount mounts ih =>
    intro probes
    obtain ⟨hentity, hcapabilities, hclientIo⟩ :=
      addScheduled_spec schedules probes Probe.nfsClientIo (mountParameters mount)
    obtain ⟨hentity', hclientIo'⟩ := ih (addScheduled schedules probes Probe.nfsClientIo (mountParameters mount))
    refine ⟨hentity'.trans hentity, ?_⟩
    rw [List.foldl_cons, hclientIo', hclientIo, hcapabilities, applies_clientIo, List.append_assoc]
    refine congrArg (probes.clientIo ++ ·) ?_
    have hiff : (Probe.nfsClientIo.id = probeClientIo ∧ schedules.isEnabled Probe.nfsClientIo.id = true ∧
        Probe.nfsClientIo.appliesTo .host probes.capabilities = true) ↔
        checksMounts schedules probes.capabilities = true := by
      rw [checksMounts, Bool.and_eq_true]
      exact and_iff_right rfl
    by_cases hchecks : checksMounts schedules probes.capabilities = true
    · rw [if_pos hchecks, if_pos (hiff.mpr hchecks), if_pos hchecks]
      rfl
    · rw [if_neg hchecks, if_neg fun h => hchecks (hiff.mp h), if_neg hchecks]
      rfl

/-- **One entry for each NFS mount**, and every one measures the host. -/
theorem clientIo_scheduleStorageProbes (entity : EntityId) (capabilities : CapabilitySet)
    (schedules : ProbeSchedules) (mounts : List MountInfo) :
    let probes := (new entity capabilities).scheduleStorageProbes schedules mounts
    probes.entity = entity ∧ probes.clientIo =
      if checksMounts schedules capabilities = true then
        (mounts.filter MountInfo.isNfs).map (mountEntry schedules) else [] := by
  have hnew : (new entity capabilities).clientIo = [] := by
    refine List.filter_eq_nil_iff.mpr fun entry hentry => ?_
    obtain ⟨definition, hdefinition, rfl⟩ := List.mem_map.mp hentry
    rw [List.mem_singleton.mp (List.mem_filter.mp hdefinition).1]
    decide
  intro probes
  obtain ⟨hentity, hcapabilities, hexports⟩ :=
    addScheduled_spec schedules (new entity capabilities) Probe.nfsExports .null
  obtain ⟨hentity', hcapabilities', hmount⟩ := addScheduled_spec schedules
    (addScheduled schedules (new entity capabilities) Probe.nfsExports .null) Probe.nfsMount .null
  rw [if_neg fun h => absurd h.1 (by decide), List.append_nil] at hexports hmount
  simp only [probes, scheduleStorageProbes]
  split
  · next hnone =>
    rw [List.isEmpty_iff] at hnone
    refine ⟨hentity, ?_⟩
    rw [hexports, hnew, hnone, List.map_nil, ite_self]
  · obtain ⟨hentity'', hclientIo⟩ := addMounts_spec schedules (mounts.filter MountInfo.isNfs) (addScheduled schedules
      (addScheduled schedules (new entity capabilities) Probe.nfsExports .null) Probe.nfsMount .null)
    refine ⟨hentity''.trans (hentity'.trans hentity), hclientIo.trans ?_⟩
    rw [hmount, hexports, hnew, hcapabilities', hcapabilities, List.nil_append]
    rfl

/-- That the probes of mounts share the slot of the host. -/
def Shared (probes : LocalProbes) : Prop :=
  ∀ entry ∈ probes.clientIo, probes.targetOf entry = probes.entity ∧ entry.probe.maxOutstanding.toNat = maxOutstanding

theorem shared_scheduleStorageProbes (entity : EntityId) (capabilities : CapabilitySet) (schedules : ProbeSchedules)
    (mounts : List MountInfo) : ((new entity capabilities).scheduleStorageProbes schedules mounts).Shared := by
  obtain ⟨-, hclientIo⟩ := clientIo_scheduleStorageProbes entity capabilities schedules mounts
  intro entry hentry
  rw [hclientIo] at hentry
  split at hentry
  · obtain ⟨mount, -, rfl⟩ := List.mem_map.mp hentry
    refine ⟨rfl, ?_⟩
    show (schedules.apply Probe.nfsClientIo).maxOutstanding.toNat = maxOutstanding
    unfold ProbeSchedules.apply
    split
    · rfl
    · next schedule _ =>
      cases schedule.maxOutstanding with
      | none => rfl
      | some limit =>
        -- an override only lowers the limit, and never to zero
        have hle : (1 : UInt32) ≤ max limit 1 := by
          show (1 : UInt32) ≤ if limit ≤ 1 then 1 else limit
          rw [UInt32.le_iff_toNat_le]
          split
          · exact le_rfl
          · next hmore =>
            rw [UInt32.le_iff_toNat_le, not_le] at hmore
            exact hmore.le
        show (if (1 : UInt32) ≤ max limit 1 then 1 else max limit 1).toNat = 1
        rw [if_pos hle]
        rfl
  · cases hentry

end LocalProbes

/-! ### Runs of the mounts' probes -/

/-- What happens to the probes of mounts. -/
inductive CheckEvent
  /-- The turn of a mount's probe has come. -/
  | run (mount : ℕ)
  /-- The `stat` of an execution returns. -/
  | answer (n : ℕ)
  /-- The deadline of an execution passes. -/
  | deadline (n : ℕ)
  /-- The runner's own timeout passes. -/
  | timeout (n : ℕ)

/-- The runner, and which mount each of its executions is of. -/
structure MountChecks where
  /-- The runner. -/
  runner : ProbeRunner
  /-- The mounts of the executions, in the order they started. -/
  owners : List ℕ

namespace MountChecks

/-- Nothing has run yet. -/
def new : MountChecks := ⟨.new, []⟩

/-- Whether a mount's turn is skipped as already running. -/
def skips (probes : LocalProbes) (s : MountChecks) (mount : ℕ) : Bool :=
  probes.clientIo[mount]?.any fun entry =>
    (s.runner.counters.acquire (probeClientIo, probes.targetOf entry) entry.probe.maxOutstanding.toNat).isNone

/-- Whether a run of a mount is outstanding: it holds a slot. -/
def outstanding (s : MountChecks) (mount : ℕ) : Bool :=
  (s.owners.zip s.runner.executions).any fun run => run.1 = mount && run.2.waiting

/-- What an event does. -/
def step (probes : LocalProbes) (s : MountChecks) : CheckEvent → MountChecks
  | .run mount =>
    match probes.clientIo[mount]? with
    | none => s
    | some entry =>
      if s.skips probes mount then s
      else ⟨s.runner.step (.start (probes.targetOf entry)), s.owners ++ [mount]⟩
  | .answer n => { s with runner := s.runner.step (.answer n) }
  | .deadline n => { s with runner := s.runner.step (.deadline n) }
  | .timeout n => { s with runner := s.runner.step (.timeout n) }

/-- The checks after some events. -/
def run (probes : LocalProbes) (log : List CheckEvent) : MountChecks := log.foldl (step probes) new

/-- All executions are against the host, and one of them at most holds the slot. -/
structure Sound (probes : LocalProbes) (s : MountChecks) : Prop where
  consistent : s.runner.Consistent
  owned : s.owners.length = s.runner.executions.length
  targets : ∀ e ∈ s.runner.executions, e.target = probes.entity
  single : s.runner.waitingOn probes.entity ≤ maxOutstanding
  known : ∀ mount ∈ s.owners, mount < probes.clientIo.length

variable {probes : LocalProbes} {s : MountChecks}

/-- The executions that wait, with their mounts. -/
theorem Sound.length_waiting (h : s.Sound probes) :
    ((s.owners.zip s.runner.executions).filter fun run => run.2.waiting).length =
      s.runner.waitingOn probes.entity := by
  have hsnd : (s.owners.zip s.runner.executions).map Prod.snd = s.runner.executions :=
    List.map_snd_zip (le_of_eq h.owned.symm)
  rw [← List.countP_eq_length_filter, ProbeRunner.waitingOn]
  conv_rhs => rw [← hsnd, List.countP_map]
  refine List.countP_congr fun run hrun => ?_
  have htarget := h.targets run.2 (List.of_mem_zip hrun).2
  simp [htarget]

theorem outstanding_iff {mount : ℕ} : s.outstanding mount = true ↔
    ∃ e, (mount, e) ∈ (s.owners.zip s.runner.executions).filter fun run => run.2.waiting := by
  simp only [outstanding, List.any_eq_true, List.mem_filter, Bool.and_eq_true, decide_eq_true_iff]
  constructor
  · rintro ⟨⟨mount', e⟩, hmem, rfl, hwaiting⟩
    exact ⟨e, hmem, hwaiting⟩
  · rintro ⟨e, hmem, hwaiting⟩
    exact ⟨(mount, e), hmem, rfl, hwaiting⟩

/-- **One mount at a time is checked.** -/
theorem Sound.eq_of_outstanding (h : s.Sound probes) {mount mount' : ℕ} (hm : s.outstanding mount = true)
    (hm' : s.outstanding mount' = true) : mount = mount' := by
  obtain ⟨e, he⟩ := outstanding_iff.mp hm
  obtain ⟨e', he'⟩ := outstanding_iff.mp hm'
  have hlength := h.length_waiting.trans_le h.single
  match hall : (s.owners.zip s.runner.executions).filter fun run => run.2.waiting with
  | [] => rw [hall] at he; cases he
  | [run] =>
    rw [hall, List.mem_singleton] at he he'
    exact congrArg Prod.fst (he.trans he'.symm)
  | _ :: _ :: _ =>
    rw [hall] at hlength
    simp [maxOutstanding] at hlength

/-- **A mount's turn is skipped exactly while a run is outstanding**, of this mount or of
another. -/
theorem Sound.skips_iff (h : s.Sound probes) (hshared : probes.Shared) {mount : ℕ}
    (hmount : mount < probes.clientIo.length) : s.skips probes mount = true ↔ ∃ other, s.outstanding other = true := by
  obtain ⟨htarget, hlimit⟩ := hshared probes.clientIo[mount] (List.getElem_mem hmount)
  have hsome : s.skips probes mount = true ↔ maxOutstanding ≤ s.runner.waitingOn probes.entity := by
    rw [skips, List.getElem?_eq_getElem hmount, Option.any_some, htarget, hlimit, Counters.acquire,
      h.consistent.slots]
    split
    · next hle => exact iff_of_true rfl hle
    · next hle => exact iff_of_false Bool.false_ne_true hle
  rw [hsome, ← h.length_waiting, maxOutstanding, Nat.one_le_iff_ne_zero, Ne, List.length_eq_zero_iff]
  constructor
  · intro hne
    obtain ⟨run, hrun⟩ := List.exists_mem_of_ne_nil _ hne
    exact ⟨run.1, outstanding_iff.mpr ⟨run.2, hrun⟩⟩
  · rintro ⟨other, hother⟩ hnil
    obtain ⟨e, he⟩ := outstanding_iff.mp hother
    rw [hnil] at he
    cases he

theorem sound_new (probes : LocalProbes) : new.Sound probes where
  consistent := ProbeRunner.consistent_new
  owned := rfl
  targets := nofun
  single := Nat.zero_le _
  known := nofun

/-- The end of an execution changes nothing about whose it was. -/
theorem Sound.finish (h : s.Sound probes) {event : RunnerEvent} {n : ℕ}
    (hevent : event = .answer n ∨ event = .deadline n ∨ event = .timeout n) :
    Sound probes { s with runner := s.runner.step event } := by
  have hset : ∃ l, (s.runner.step event).executions = l ∧ l.length = s.runner.executions.length ∧
      ∀ e ∈ l, e.target = probes.entity := by
    refine ⟨_, rfl, ?_⟩
    rcases hevent with rfl | rfl | rfl
    all_goals
      rw [ProbeRunner.step]
      split
      · exact ⟨rfl, h.targets⟩
      · next e he =>
        refine ⟨List.length_set, fun e' he' => ?_⟩
        rcases List.mem_or_eq_of_mem_set he' with he' | rfl
        · exact h.targets e' he'
        · exact h.targets e (List.mem_of_getElem? he)
  obtain ⟨l, rfl, hlength, htargets⟩ := hset
  exact ⟨h.consistent.step event, h.owned.trans hlength.symm, htargets, h.consistent.waitingOn_step_le event h.single,
    h.known⟩

/-- A run that is not refused starts an execution. -/
theorem executions_start {runner : ProbeRunner} {target : EntityId}
    (hfree : ¬ (runner.counters.acquire (probeClientIo, target) maxOutstanding).isNone = true) :
    (runner.step (.start target)).executions = runner.executions ++ [⟨target, true, true, true⟩] := by
  rw [ProbeRunner.step]
  split
  · next hnone => exact absurd (by rw [hnone]; rfl) hfree
  · rfl

/-- **All runs share one slot**, whatever happens. -/
theorem Sound.step (h : s.Sound probes) (hshared : probes.Shared) (event : CheckEvent) :
    (s.step probes event).Sound probes := by
  cases event with
  | run mount =>
    rw [MountChecks.step]
    cases hentry : probes.clientIo[mount]? with
    | none => exact h
    | some entry =>
      obtain ⟨hmount, rfl⟩ := List.getElem?_eq_some_iff.mp hentry
      obtain ⟨htarget, hlimit⟩ := hshared _ (List.getElem_mem hmount)
      dsimp only
      split
      · exact h
      · next hfree =>
        rw [skips, hentry, Option.any_some, hlimit] at hfree
        have hstarted := executions_start hfree
        refine ⟨h.consistent.step (.start _), ?_, ?_, h.consistent.waitingOn_step_le (.start _) h.single, ?_⟩
        · rw [hstarted, List.length_append, List.length_append, h.owned]
          rfl
        · rw [hstarted]
          intro e he
          rcases List.mem_append.mp he with he | he
          · exact h.targets e he
          · rw [List.mem_singleton.mp he]
            exact htarget
        · intro mount' hmount'
          rcases List.mem_append.mp hmount' with hmount' | hmount'
          · exact h.known mount' hmount'
          · rw [List.mem_singleton.mp hmount']
            exact hmount
  | answer n => exact h.finish (.inl rfl)
  | deadline n => exact h.finish (.inr (.inl rfl))
  | timeout n => exact h.finish (.inr (.inr rfl))

theorem sound_run (hshared : probes.Shared) (log : List CheckEvent) : (run probes log).Sound probes := by
  induction log using List.reverseRecOn with
  | nil => exact sound_new probes
  | append_singleton log event ih =>
    rw [run, List.foldl_append]
    exact ih.step hshared event

theorem lt_of_outstanding (h : s.Sound probes) {mount : ℕ} (hm : s.outstanding mount = true) :
    mount < probes.clientIo.length := by
  obtain ⟨e, he⟩ := outstanding_iff.mp hm
  exact h.known mount (List.of_mem_zip (List.mem_filter.mp he).1).1

/-- No mount keeps another from being checked: a turn is skipped only while a run of the
mount itself is outstanding. -/
def Independent (probes : LocalProbes) (log : List CheckEvent) : Prop :=
  ∀ seen mount, seen ++ [.run mount] <+: log → (run probes seen).skips probes mount = true →
    (run probes seen).outstanding mount = true

theorem independent_iff_of_shared (hshared : probes.Shared) (log : List CheckEvent) :
    Independent probes log ↔ ∀ seen mount other, seen ++ [.run mount] <+: log → mount < probes.clientIo.length →
      (run probes seen).outstanding other = true → other = mount := by
  constructor
  · intro h seen mount other hseen hmount hother
    have hsound := sound_run hshared seen
    exact hsound.eq_of_outstanding hother (h seen mount hseen ((hsound.skips_iff hshared hmount).mpr ⟨other, hother⟩))
  · intro h seen mount hseen hskips
    have hsound := sound_run hshared seen
    have hmount : mount < probes.clientIo.length := by
      by_contra hout
      rw [skips, List.getElem?_eq_none (not_lt.mp hout)] at hskips
      cases hskips
    obtain ⟨other, hother⟩ := (hsound.skips_iff hshared hmount).mp hskips
    rw [← h seen mount other hseen hmount hother]
    exact hother

/-- With two mounts, the run of one keeps the other from being checked. -/
theorem not_independent_of_two (hshared : probes.Shared) (htwo : 1 < probes.clientIo.length) :
    ¬ Independent probes [.run 0, .run 1] := by
  intro h
  have hfirst : (run probes [.run 0]).outstanding 0 = true := by
    have hfree : ¬ new.skips probes 0 = true := by
      rw [(sound_new probes).skips_iff hshared (by omega)]
      rintro ⟨other, hother⟩
      cases hother
    have hmount : probes.clientIo[0]? = some probes.clientIo[0] := List.getElem?_eq_getElem _
    have hstep : new.step probes (.run 0) =
        ⟨new.runner.step (.start (probes.targetOf probes.clientIo[0])), [0]⟩ := by
      rw [step, hmount]
      exact if_neg hfree
    rw [skips, hmount, Option.any_some, (hshared _ (List.getElem_mem _)).2] at hfree
    show (new.step probes (.run 0)).outstanding 0 = true
    rw [hstep, outstanding, executions_start hfree]
    rfl
  have hsame := (independent_iff_of_shared hshared _).mp h [.run 0] 1 0 List.prefix_rfl htwo hfirst
  cases hsame

/-- **No mount keeps another from being checked** exactly if no turn comes while a run of
another mount is outstanding; and on every schedule only if at most one mount is checked. -/
theorem independent_iff (entity : EntityId) (capabilities : CapabilitySet) (schedules : ProbeSchedules)
    (mounts : List MountInfo) :
    let probes := (LocalProbes.new entity capabilities).scheduleStorageProbes schedules mounts
    (∀ log, Independent probes log ↔
      ∀ seen mount other, seen ++ [.run mount] <+: log → mount < probes.clientIo.length →
        (run probes seen).outstanding other = true → other = mount) ∧
    ((∀ log, Independent probes log) ↔
      (LocalProbes.checksMounts schedules capabilities = true → (mounts.filter MountInfo.isNfs).length ≤ 1)) := by
  intro probes
  have hshared := LocalProbes.shared_scheduleStorageProbes entity capabilities schedules mounts
  have hlength : probes.clientIo.length ≤ 1 ↔
      (LocalProbes.checksMounts schedules capabilities = true → (mounts.filter MountInfo.isNfs).length ≤ 1) := by
    rw [(LocalProbes.clientIo_scheduleStorageProbes entity capabilities schedules mounts).2]
    split
    · next hchecks => simp [hchecks]
    · next hchecks => simp [hchecks]
  refine ⟨independent_iff_of_shared hshared, ?_⟩
  rw [← hlength]
  constructor
  · intro h
    by_contra htwo
    exact not_independent_of_two hshared (not_le.mp htwo) (h _)
  · intro hone log
    rw [independent_iff_of_shared hshared]
    intro seen mount other _ hmount hother
    have hless : other < probes.clientIo.length := lt_of_outstanding (sound_run hshared seen) hother
    have hmount : mount < probes.clientIo.length := hmount
    have hone : probes.clientIo.length ≤ 1 := hone
    omega

/-- **A wedged mount keeps another from being checked**: its run is given up by the runner,
but holds the slot of the host. -/
theorem wedged_mount_blocks_other :
    let capabilities : CapabilitySet := Std.ExtTreeSet.ofList [Capability.mk "storage.nfs.client"]
    let mounts : List MountInfo := [⟨"fs:/home", "/home", "nfs4"⟩, ⟨"fs:/data", "/data", "nfs4"⟩]
    let probes := (LocalProbes.new ⟨⟨1⟩⟩ capabilities).scheduleStorageProbes ∅ mounts
    let s := run probes [.run 0, .timeout 0]
    probes.clientIo.length = 2 ∧ s.outstanding 0 = true ∧ s.outstanding 1 = false ∧ s.skips probes 1 = true := by
  intro capabilities mounts probes s
  decide +kernel

end MountChecks

end Sentinel
