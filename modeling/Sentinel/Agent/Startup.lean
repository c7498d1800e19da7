import Sentinel.Agent.Capabilities

/-!
# What an agent watches

When an agent starts it finds out what its host can do and schedules its probes by that,
and by the operator's schedules.  Roles are for people, not for probes.

## Main definitions

* `scheduleServiceProbes` — one probe for each service the host runs.
* `localProbes` — what an agent schedules.
* `wantedProbes` — what it would schedule on a host that can do everything.

## Main results

* `localProbes_eq` — the probes scheduled are those wanted that the host can run.
* `monitors_by_capability` — **what is found and what the operator says decides, and no role
  does.**
* `watches_slurmd_iff` — when the node daemon of Slurm is watched.
-/

namespace Sentinel

namespace LocalProbes

/-- The probe of the GPUs. -/
def scheduleAcceleratorProbes (probes : LocalProbes) (schedules : ProbeSchedules) : LocalProbes :=
  addScheduled schedules probes Probe.nvidiaGpu .null

/-- Continuous collection of kernel and service events. -/
def scheduleJournalProbes (probes : LocalProbes) (schedules : ProbeSchedules) : LocalProbes :=
  addScheduled schedules probes Probe.journal .null

/-- Units a capability implies this host is running. -/
def serviceUnits : List (Capability × String) := [(⟨"slurm.compute"⟩, "slurmd"), (⟨"slurm.controller"⟩, "slurmctld")]

/-- The parameters of the probe of a unit. -/
def unitParameters (unit : String) : Json := .obj [("unit", .str unit)]

/-- The service that a unit is on a host. -/
def serviceOf (entityId : EntityKey → EntityId) (environment hostname unit : String) : EntityId :=
  entityId ⟨environment, .service, unit ++ "@" ++ hostname⟩

/-- A probe of a service, if this host runs it: of the service and not of the host. -/
def scheduleService (entityId : EntityKey → EntityId) (schedules : ProbeSchedules) (environment hostname : String)
    (capabilities : CapabilitySet) (probes : LocalProbes) (service : Capability × String) : LocalProbes :=
  if ¬ capabilities.contains service.1 then probes
  else if ¬ schedules.isEnabled Probe.systemd.id then probes
  else (probes.addFor (some (serviceOf entityId environment hostname service.2)) (schedules.apply Probe.systemd)
    (unitParameters service.2)).1

/-- A unit probe for each service this host runs. -/
def scheduleServiceProbes (entityId : EntityKey → EntityId) (probes : LocalProbes) (schedules : ProbeSchedules)
    (environment hostname : String) (capabilities : CapabilitySet) : LocalProbes :=
  serviceUnits.foldl (scheduleService entityId schedules environment hostname capabilities) probes

end LocalProbes

/-- The settings of an agent that decide what it watches. -/
structure AgentSettings where
  /-- The environment. -/
  environment : String
  /-- The operator's decisions about capabilities. -/
  capabilities : CapabilityOverrides
  /-- The roles of the host. -/
  roles : List String
  /-- The operator's schedules. -/
  probes : ProbeSchedules

/-- Schedule the probes of a host that can do something. -/
def scheduleProbes (entityId : EntityKey → EntityId) (settings : AgentSettings) (hostname : String)
    (mounts : List MountInfo) (capabilities : CapabilitySet) : LocalProbes :=
  let entity := entityId ⟨settings.environment, .host, hostname⟩
  let probes := (LocalProbes.new entity capabilities).scheduleStorageProbes settings.probes mounts
  let probes := (probes.scheduleAcceleratorProbes settings.probes).scheduleJournalProbes settings.probes
  probes.scheduleServiceProbes entityId settings.probes settings.environment hostname capabilities

/-- The probes of an agent, if its host has a name. -/
def localProbes (entityId : EntityKey → EntityId) (settings : AgentSettings) (inspector : SystemInspector) :
    Option LocalProbes :=
  inspector.hostname.map fun hostname =>
    scheduleProbes entityId settings hostname inspector.mounts
      (inspector.resolve settings.capabilities settings.roles).enabled

/-! ### What is wanted -/

/-- A probe that runs where the host can do what it takes. -/
structure WantedProbe where
  /-- What the host must be able to do. -/
  needs : List Capability
  /-- Whether the operator lets it run. -/
  on : Bool
  /-- The entry of the schedule. -/
  entry : Scheduled

namespace WantedProbe

/-- A probe under the operator's schedules. -/
def configured (schedules : ProbeSchedules) (probe : ProbeDefinition) (needs : List Capability)
    (parameters : Json) (target : Option EntityId) : WantedProbe where
  needs := probe.requiredCapabilities ++ needs
  on := schedules.isEnabled probe.id
  entry := ⟨schedules.apply probe, parameters, target⟩

/-- Whether a probe runs on a host. -/
def runs (can : Capability → Bool) (wanted : WantedProbe) : Bool := wanted.on && wanted.needs.all can

/-- The entries of the probes that run. -/
def entries (can : Capability → Bool) (wanted : List WantedProbe) : List Scheduled :=
  (wanted.filter (runs can)).map entry

end WantedProbe

/-- What is wanted of a service. -/
def LocalProbes.wantedService (entityId : EntityKey → EntityId) (schedules : ProbeSchedules)
    (environment hostname : String) (service : Capability × String) : WantedProbe :=
  WantedProbe.configured schedules Probe.systemd [service.1] (unitParameters service.2)
    (some (serviceOf entityId environment hostname service.2))

/-- What an agent would schedule on a host that can do everything. -/
def wantedProbes (entityId : EntityKey → EntityId) (environment : String) (schedules : ProbeSchedules)
    (hostname : String) (mounts : List MountInfo) : List WantedProbe :=
  let configured := WantedProbe.configured schedules
  let mounts := mounts.filter MountInfo.isNfs
  -- the operator's schedules are not consulted for the first one
  [⟨Probe.hostMetrics.requiredCapabilities, true, ⟨Probe.hostMetrics, .null, none⟩⟩,
      configured Probe.nfsExports [] .null none] ++
    (if mounts.isEmpty then []
      else configured Probe.nfsMount [] .null none ::
        mounts.map fun mount => configured Probe.nfsClientIo [] (LocalProbes.mountParameters mount) none) ++
    [configured Probe.nvidiaGpu [] .null none, configured Probe.journal [] .null none] ++
    LocalProbes.serviceUnits.map (LocalProbes.wantedService entityId schedules environment hostname)

/-- Whether a capability is allowed on a host, whatever its roles are. -/
def SystemInspector.allows (inspector : SystemInspector) (overrides : CapabilityOverrides) (capability : Capability) :
    Bool :=
  overrides[capability]? ≠ some .disable && (overrides[capability]? = some .force || inspector.finds capability)

namespace LocalProbes

variable {probes : LocalProbes} {schedules : ProbeSchedules} {can : Capability → Bool}

/-- Probes that run on the host they are about, or on a service of it. -/
def IsLocal (probe : ProbeDefinition) : Prop :=
  probe.executionMode ≠ .remote ∧ (probe.targetEntityTypes.isEmpty || probe.targetEntityTypes.contains .host) = true

instance (probe : ProbeDefinition) : Decidable (IsLocal probe) := instDecidableAnd

theorem applies_apply {probe : ProbeDefinition} (h : IsLocal probe) :
    probes.applies (schedules.apply probe) = probe.requiredCapabilities.all fun c => probes.capabilities.contains c := by
  have happly : probes.applies (schedules.apply probe) = probes.applies probe := by
    unfold applies ProbeSchedules.apply
    split
    · rfl
    · rfl
  rw [happly, applies, ProbeDefinition.appliesTo, h.2, decide_eq_true h.1, Bool.true_and, Bool.true_and]

/-- Scheduling adds the entry of a probe that runs. -/
theorem addFor_scheduled (probe : ProbeDefinition) (parameters : Json) (target : Option EntityId) :
    let after := (probes.addFor target probe parameters).1
    after.capabilities = probes.capabilities ∧
      after.scheduled = probes.scheduled ++ if probes.applies probe then [⟨probe, parameters, target⟩] else [] := by
  unfold addFor
  split
  · exact ⟨rfl, rfl⟩
  · exact ⟨rfl, (List.append_nil _).symm⟩

theorem addScheduled_scheduled {probe : ProbeDefinition} (h : IsLocal probe) (parameters : Json)
    (hcan : ∀ c, can c = probes.capabilities.contains c) :
    let after := addScheduled schedules probes probe parameters
    after.capabilities = probes.capabilities ∧
      after.scheduled = probes.scheduled ++
        WantedProbe.entries can [WantedProbe.configured schedules probe [] parameters none] := by
  have hneeds : (WantedProbe.configured schedules probe [] parameters none).runs can =
      (schedules.isEnabled probe.id && probes.applies (schedules.apply probe)) := by
    rw [applies_apply h, WantedProbe.runs, WantedProbe.configured, List.append_nil, funext hcan]
  intro after
  simp only [after, addScheduled, WantedProbe.entries]
  split
  · next hon =>
    obtain ⟨hcapabilities, hscheduled⟩ := @addFor_scheduled probes (schedules.apply probe) parameters none
    refine ⟨hcapabilities, hscheduled.trans (congrArg _ ?_)⟩
    rw [List.filter_singleton, hneeds, hon, Bool.true_and]
    cases probes.applies (schedules.apply probe) <;> rfl
  · next hoff =>
    refine ⟨rfl, ?_⟩
    rw [List.filter_singleton, hneeds, Bool.eq_false_iff.mpr hoff]
    exact (List.append_nil _).symm

theorem entries_append (wanted wanted' : List WantedProbe) :
    WantedProbe.entries can (wanted ++ wanted') = WantedProbe.entries can wanted ++ WantedProbe.entries can wanted' := by
  simp [WantedProbe.entries]

/-- One entry for each of some mounts. -/
theorem addMounts_scheduled (mounts : List MountInfo) : ∀ {probes : LocalProbes},
    (∀ c, can c = probes.capabilities.contains c) →
      let after := mounts.foldl (fun probes mount =>
        addScheduled schedules probes Probe.nfsClientIo (mountParameters mount)) probes
      after.capabilities = probes.capabilities ∧
        after.scheduled = probes.scheduled ++ WantedProbe.entries can (mounts.map fun mount =>
          WantedProbe.configured schedules Probe.nfsClientIo [] (mountParameters mount) none) := by
  induction mounts with
  | nil =>
    intro probes hcan
    exact ⟨rfl, (List.append_nil _).symm⟩
  | cons mount mounts ih =>
    intro probes hcan
    obtain ⟨hcapabilities, hscheduled⟩ :=
      @addScheduled_scheduled probes schedules can Probe.nfsClientIo (by decide) (mountParameters mount) hcan
    obtain ⟨hcapabilities', hscheduled'⟩ := ih fun c => (hcan c).trans (by rw [hcapabilities])
    refine ⟨hcapabilities'.trans hcapabilities, ?_⟩
    rw [List.foldl_cons, hscheduled', hscheduled, List.append_assoc, ← entries_append]
    rfl

variable {entityId : EntityKey → EntityId} {environment hostname : String} {capabilities : CapabilitySet}

theorem scheduleService_scheduled (service : Capability × String) (hcapabilities : probes.capabilities = capabilities)
    (hcan : ∀ c, can c = capabilities.contains c) :
    let after := scheduleService entityId schedules environment hostname capabilities probes service
    after.capabilities = capabilities ∧
      after.scheduled = probes.scheduled ++
        WantedProbe.entries can [wantedService entityId schedules environment hostname service] := by
  have hlocal : IsLocal Probe.systemd := by decide
  have hruns : (wantedService entityId schedules environment hostname service).runs can =
      (schedules.isEnabled Probe.systemd.id &&
        (probes.applies (schedules.apply Probe.systemd) && capabilities.contains service.1)) := by
    rw [applies_apply hlocal, hcapabilities, WantedProbe.runs, wantedService, WantedProbe.configured, List.all_append,
      funext hcan]
    simp
  intro after
  simp only [after, scheduleService, WantedProbe.entries, List.filter_singleton, hruns]
  split
  · next hlacks => simp [hcapabilities, Bool.eq_false_iff.mpr hlacks]
  · next hhas =>
    split
    · next hoff => simp [hcapabilities, Bool.eq_false_iff.mpr hoff]
    · next hon =>
      obtain ⟨hcapabilities', hscheduled⟩ := @addFor_scheduled probes (schedules.apply Probe.systemd)
        (unitParameters service.2) (some (serviceOf entityId environment hostname service.2))
      refine ⟨hcapabilities'.trans hcapabilities, hscheduled.trans (congrArg _ ?_)⟩
      rw [not_not.mp hon, not_not.mp hhas, Bool.true_and, Bool.and_true]
      cases probes.applies (schedules.apply Probe.systemd) <;> rfl

/-- One entry for each of some services that the host runs. -/
theorem foldl_scheduleService (services : List (Capability × String)) : ∀ {probes : LocalProbes},
    probes.capabilities = capabilities → (∀ c, can c = capabilities.contains c) →
      (services.foldl (scheduleService entityId schedules environment hostname capabilities) probes).scheduled =
        probes.scheduled ++
          WantedProbe.entries can (services.map (wantedService entityId schedules environment hostname)) := by
  induction services with
  | nil =>
    intro probes hcapabilities hcan
    exact (List.append_nil _).symm
  | cons service services ih =>
    intro probes hcapabilities hcan
    obtain ⟨hcapabilities', hscheduled⟩ := @scheduleService_scheduled probes schedules can entityId environment
      hostname capabilities service hcapabilities hcan
    rw [List.foldl_cons, ih hcapabilities' hcan, hscheduled, List.append_assoc, ← entries_append]
    rfl

/-- What a host serves and what it uses. -/
theorem scheduleStorageProbes_scheduled (mounts : List MountInfo) (hcan : ∀ c, can c = probes.capabilities.contains c) :
    let after := probes.scheduleStorageProbes schedules mounts
    after.capabilities = probes.capabilities ∧
      after.scheduled = probes.scheduled ++ WantedProbe.entries can
        (WantedProbe.configured schedules Probe.nfsExports [] .null none ::
          if (mounts.filter MountInfo.isNfs).isEmpty then []
          else WantedProbe.configured schedules Probe.nfsMount [] .null none ::
            (mounts.filter MountInfo.isNfs).map fun mount =>
              WantedProbe.configured schedules Probe.nfsClientIo [] (mountParameters mount) none) := by
  have hexports : IsLocal Probe.nfsExports := by decide
  have hmount : IsLocal Probe.nfsMount := by decide
  obtain ⟨hcapabilities, hscheduled⟩ := @addScheduled_scheduled probes schedules can _ hexports .null hcan
  obtain ⟨hcapabilities', hscheduled'⟩ := @addScheduled_scheduled _ schedules can _ hmount .null
    fun c => (hcan c).trans (by rw [hcapabilities])
  intro after
  simp only [after, scheduleStorageProbes]
  split
  · exact ⟨hcapabilities, hscheduled⟩
  · obtain ⟨hcapabilities'', hscheduled''⟩ := @addMounts_scheduled schedules can (mounts.filter MountInfo.isNfs) _
      fun c => (hcan c).trans (by rw [hcapabilities', hcapabilities])
    refine ⟨hcapabilities''.trans (hcapabilities'.trans hcapabilities), hscheduled''.trans ?_⟩
    rw [hscheduled', hscheduled, List.append_assoc, List.append_assoc, ← entries_append, ← entries_append]
    rfl

end LocalProbes

section Agents

variable (entityId : EntityKey → EntityId) (settings : AgentSettings) (inspector : SystemInspector)

/-- What probes take is what agents look for. -/
theorem needs_detectable (environment : String) (schedules : ProbeSchedules) (hostname : String)
    (mounts : List MountInfo) : ∀ wanted ∈ wantedProbes entityId environment schedules hostname mounts,
      ∀ c ∈ wanted.needs, c ∈ SystemInspector.detectable := by
  have hconfigured : ∀ (probe : ProbeDefinition) (needs : List Capability) (parameters : Json)
      (target : Option EntityId), (∀ c ∈ probe.requiredCapabilities ++ needs, c ∈ SystemInspector.detectable) →
        ∀ c ∈ (WantedProbe.configured schedules probe needs parameters target).needs,
          c ∈ SystemInspector.detectable := fun _ _ _ _ h => h
  intro wanted hwanted
  simp only [wantedProbes, List.mem_append] at hwanted
  obtain ((hfirst | hmounts) | hhost) | hservices := hwanted
  · rcases List.mem_cons.mp hfirst with rfl | hfirst
    · decide
    · rw [List.mem_singleton.mp hfirst]
      exact hconfigured _ _ _ _ (by decide)
  · split at hmounts
    · cases hmounts
    · rcases List.mem_cons.mp hmounts with rfl | hmounts
      · exact hconfigured _ _ _ _ (by decide)
      · obtain ⟨mount, -, rfl⟩ := List.mem_map.mp hmounts
        exact hconfigured _ _ _ _ (by decide)
  · rcases List.mem_cons.mp hhost with rfl | hhost
    · exact hconfigured _ _ _ _ (by decide)
    · rw [List.mem_singleton.mp hhost]
      exact hconfigured _ _ _ _ (by decide)
  · obtain ⟨service, hservice, rfl⟩ := List.mem_map.mp hservices
    have hunits : ∀ service ∈ LocalProbes.serviceUnits,
        ∀ c ∈ Probe.systemd.requiredCapabilities ++ [service.1], c ∈ SystemInspector.detectable := by decide
    exact hconfigured _ _ _ _ (hunits service hservice)

/-- What an agent looks for is enabled if it is allowed on the host. -/
theorem contains_resolve (overrides : CapabilityOverrides) (roles : List String) {c : Capability}
    (hc : c ∈ SystemInspector.detectable) :
    (inspector.resolve overrides roles).enabled.contains c = inspector.allows overrides c := by
  rw [Bool.eq_iff_iff, Std.ExtTreeSet.contains_iff_mem, inspector.mem_resolve_iff, if_pos hc,
    SystemInspector.allows, Bool.and_eq_true, Bool.or_eq_true, decide_eq_true_iff, decide_eq_true_iff]

theorem entries_congr {can can' : Capability → Bool} {wanted : List WantedProbe}
    (h : ∀ w ∈ wanted, ∀ c ∈ w.needs, can c = can' c) :
    WantedProbe.entries can wanted = WantedProbe.entries can' wanted := by
  refine congrArg (List.map WantedProbe.entry) (List.filter_congr fun w hw => ?_)
  have hall : w.needs.all can = w.needs.all can' := by
    rw [Bool.eq_iff_iff, List.all_eq_true, List.all_eq_true]
    exact forall₂_congr fun c hc => by rw [h w hw c hc]
  rw [WantedProbe.runs, WantedProbe.runs, hall]

theorem scheduled_new (entity : EntityId) (capabilities : CapabilitySet) :
    (LocalProbes.new entity capabilities).scheduled = WantedProbe.entries (fun c => capabilities.contains c)
      [⟨Probe.hostMetrics.requiredCapabilities, true, ⟨Probe.hostMetrics, .null, none⟩⟩] := by
  have hlocal : LocalProbes.IsLocal Probe.hostMetrics := by decide
  have hruns : LocalProbes.applies ⟨entity, capabilities, []⟩ Probe.hostMetrics =
      Probe.hostMetrics.requiredCapabilities.all fun c => capabilities.contains c := by
    rw [LocalProbes.applies, ProbeDefinition.appliesTo, hlocal.2, decide_eq_true hlocal.1, Bool.true_and, Bool.true_and]
  rw [LocalProbes.new, WantedProbe.entries, List.filter_singleton, List.filter_singleton, hruns, WantedProbe.runs,
    Bool.true_and]
  cases Probe.hostMetrics.requiredCapabilities.all fun c => capabilities.contains c <;> rfl

/-- What is scheduled on a host that can do something. -/
theorem scheduled_scheduleProbes (hostname : String) (mounts : List MountInfo) (capabilities : CapabilitySet) :
    (scheduleProbes entityId settings hostname mounts capabilities).scheduled =
      WantedProbe.entries (fun c => capabilities.contains c)
        (wantedProbes entityId settings.environment settings.probes hostname mounts) := by
  have hgpu : LocalProbes.IsLocal Probe.nvidiaGpu := by decide
  have hjournal : LocalProbes.IsLocal Probe.journal := by decide
  let can : Capability → Bool := fun c => capabilities.contains c
  let entity := entityId ⟨settings.environment, .host, hostname⟩
  obtain ⟨hc₁, hs₁⟩ := @LocalProbes.scheduleStorageProbes_scheduled (LocalProbes.new entity capabilities)
    settings.probes can mounts fun _ => rfl
  obtain ⟨hc₂, hs₂⟩ := @LocalProbes.addScheduled_scheduled _ settings.probes can _ hgpu .null
    fun c => by rw [hc₁]; rfl
  obtain ⟨hc₃, hs₃⟩ := @LocalProbes.addScheduled_scheduled _ settings.probes can _ hjournal .null
    fun c => by rw [hc₂, hc₁]; rfl
  have hs₄ := @LocalProbes.foldl_scheduleService settings.probes can entityId settings.environment hostname
    capabilities LocalProbes.serviceUnits _ (hc₃.trans (hc₂.trans hc₁)) fun _ => rfl
  rw [hs₃, hs₂, hs₁, scheduled_new, ← LocalProbes.entries_append, ← LocalProbes.entries_append,
    ← LocalProbes.entries_append, ← LocalProbes.entries_append] at hs₄
  refine hs₄.trans (congrArg (WantedProbe.entries can) ?_)
  simp only [wantedProbes, List.cons_append, List.nil_append, List.append_assoc]

/-- **The probes scheduled are those wanted that the host can run.** -/
theorem localProbes_eq : (localProbes entityId settings inspector).map LocalProbes.scheduled =
    inspector.hostname.map fun hostname => WantedProbe.entries (inspector.allows settings.capabilities)
      (wantedProbes entityId settings.environment settings.probes hostname inspector.mounts) := by
  rw [localProbes, Option.map_map]
  refine Option.map_congr fun hostname _ => (scheduled_scheduleProbes entityId settings hostname _ _).trans ?_
  refine entries_congr fun w hw c hc => contains_resolve inspector _ _ ?_
  exact needs_detectable entityId settings.environment settings.probes hostname inspector.mounts w hw c hc

/-- **What is found and what the operator says decides about the probes, and no role does.**
A role matters for one capability only, that of watching others. -/
theorem monitors_by_capability :
    (localProbes entityId settings inspector).map LocalProbes.scheduled =
        (inspector.hostname.map fun hostname => WantedProbe.entries (inspector.allows settings.capabilities)
          (wantedProbes entityId settings.environment settings.probes hostname inspector.mounts)) ∧
      (∀ roles, (localProbes entityId { settings with roles := roles } inspector).map LocalProbes.scheduled =
        (localProbes entityId settings inspector).map LocalProbes.scheduled) ∧
      ∀ c, c ∈ (inspector.resolve settings.capabilities settings.roles).enabled ↔
        if c ∈ SystemInspector.detectable then inspector.allows settings.capabilities c = true
        else settings.capabilities[c]? = some .force ∨ settings.capabilities[c]? = some .enable ∨
          settings.capabilities[c]? = none ∧ c = ⟨"observer.peer"⟩ ∧
            ∃ role ∈ settings.roles, role ∈ SystemInspector.observerRoles := by
  refine ⟨localProbes_eq entityId settings inspector, fun roles => ?_, fun c => ?_⟩
  · rw [localProbes_eq, localProbes_eq]
  · by_cases hc : c ∈ SystemInspector.detectable
    · rw [if_pos hc, ← Std.ExtTreeSet.contains_iff_mem, contains_resolve inspector _ _ hc]
    · rw [if_neg hc, inspector.mem_resolve_iff, if_neg hc]
      rcases settings.capabilities[c]? with _ | _ | _ | _ <;> simp

/-! ### The daemons of Slurm -/

/-- Whether the unit of a service is watched. -/
def LocalProbes.WatchesUnit (probes : LocalProbes) (unit : String) : Prop :=
  ∃ entry ∈ probes.scheduled, entry.probe.id = probeSystemd ∧ entry.parameters = unitParameters unit

theorem mem_entries {can : Capability → Bool} {wanted : List WantedProbe} {entry : Scheduled} :
    entry ∈ WantedProbe.entries can wanted ↔ ∃ w ∈ wanted, w.runs can = true ∧ w.entry = entry := by
  simp [WantedProbe.entries, and_assoc]

/-- Probes of units are those of the services. -/
theorem mem_wantedProbes_systemd {environment hostname : String} {schedules : ProbeSchedules} {mounts : List MountInfo}
    {wanted : WantedProbe} (h : wanted ∈ wantedProbes entityId environment schedules hostname mounts)
    (hid : wanted.entry.probe.id = probeSystemd) :
    wanted ∈ LocalProbes.serviceUnits.map (LocalProbes.wantedService entityId schedules environment hostname) := by
  have hconfigured : ∀ (probe : ProbeDefinition) (needs : List Capability) (parameters : Json)
      (target : Option EntityId), probe.id ≠ probeSystemd →
        (WantedProbe.configured schedules probe needs parameters target).entry.probe.id ≠ probeSystemd := by
    intro probe needs parameters target hne
    rw [WantedProbe.configured, LocalProbes.id_apply]
    exact hne
  simp only [wantedProbes, List.mem_append] at h
  obtain ((hfirst | hmounts) | hhost) | hservices := h
  · rcases List.mem_cons.mp hfirst with rfl | hfirst
    · exact absurd hid (by decide)
    · rw [List.mem_singleton.mp hfirst] at hid
      exact absurd hid (hconfigured _ _ _ _ (by decide))
  · split at hmounts
    · cases hmounts
    · rcases List.mem_cons.mp hmounts with rfl | hmounts
      · exact absurd hid (hconfigured _ _ _ _ (by decide))
      · obtain ⟨mount, -, rfl⟩ := List.mem_map.mp hmounts
        exact absurd hid (hconfigured _ _ _ _ (by decide))
  · rcases List.mem_cons.mp hhost with rfl | hhost
    · exact absurd hid (hconfigured _ _ _ _ (by decide))
    · rw [List.mem_singleton.mp hhost] at hid
      exact absurd hid (hconfigured _ _ _ _ (by decide))
  · exact hservices

variable {entityId settings inspector}

/-- A daemon of Slurm is watched where it is allowed. -/
theorem watchesUnit_iff {probes : LocalProbes} (h : localProbes entityId settings inspector = some probes)
    {service : Capability × String} (hservice : service ∈ LocalProbes.serviceUnits) :
    probes.WatchesUnit service.2 ↔ settings.probes.isEnabled probeSystemd = true ∧
      inspector.allows settings.capabilities ⟨"systemd"⟩ = true ∧
        inspector.allows settings.capabilities service.1 = true := by
  have hscheduled := localProbes_eq entityId settings inspector
  rw [h, Option.map_some] at hscheduled
  obtain ⟨hostname, -, hentries⟩ := Option.map_eq_some_iff.mp hscheduled.symm
  have hruns : (LocalProbes.wantedService entityId settings.probes settings.environment hostname service).runs
      (inspector.allows settings.capabilities) = true ↔ settings.probes.isEnabled probeSystemd = true ∧
        inspector.allows settings.capabilities ⟨"systemd"⟩ = true ∧
          inspector.allows settings.capabilities service.1 = true := by
    simp [LocalProbes.wantedService, WantedProbe.configured, WantedProbe.runs, Probe.systemd,
      ProbeDefinition.requiring, ProbeDefinition.targeting, ProbeDefinition.every, ProbeDefinition.within,
      ProbeDefinition.new]
  rw [← hruns, LocalProbes.WatchesUnit, ← hentries]
  constructor
  · rintro ⟨entry, hentry, hid, hparameters⟩
    obtain ⟨wanted, hwanted, hon, rfl⟩ := mem_entries.mp hentry
    obtain ⟨other, hother, rfl⟩ := List.mem_map.mp (mem_wantedProbes_systemd entityId hwanted hid)
    -- the unit tells the services apart
    have hunits : ∀ a ∈ LocalProbes.serviceUnits, ∀ b ∈ LocalProbes.serviceUnits, a.2 = b.2 → a = b := by decide
    have hunit : other.2 = service.2 := by
      simpa [LocalProbes.wantedService, WantedProbe.configured, LocalProbes.unitParameters] using hparameters
    rw [← hunits other hother service hservice hunit]
    exact hon
  · intro hon
    refine ⟨(LocalProbes.wantedService entityId settings.probes settings.environment hostname service).entry,
      mem_entries.mpr ⟨_, ?_, hon, rfl⟩, LocalProbes.id_apply settings.probes Probe.systemd, rfl⟩
    exact List.mem_append_right _ (List.mem_map_of_mem hservice)

/-- Slurm's own capabilities are found where the roles of the host are. -/
theorem finds_slurm (inspector : SystemInspector) :
    inspector.finds ⟨"slurm.compute"⟩ =
        (detectSlurm (inspector.hostname.getD "").toList inspector.readFile inspector.which).compute ∧
      inspector.finds ⟨"slurm.controller"⟩ =
        (detectSlurm (inspector.hostname.getD "").toList inspector.readFile inspector.which).controller := by
  have hfind : ∀ (capability : Capability) (present : Bool),
      ((capability, true) ∈ inspector.findings ↔ present = true) → inspector.finds capability = present := by
    intro capability present h
    rw [Bool.eq_iff_iff, SystemInspector.finds, List.contains_iff_mem, h]
  rw [SystemInspector.findings] at hfind
  generalize detectSlurm (inspector.hostname.getD "").toList inspector.readFile inspector.which = roles at hfind ⊢
  cases roles with
  | mk controller compute =>
    constructor
    · exact hfind _ _ (by cases compute <;> simp)
    · exact hfind _ _ (by cases controller <;> simp)

/-- **The daemons of Slurm are watched on the hosts that its configuration gives a role**, if
they are installed there and systemd runs them. -/
theorem watches_daemons_iff {config : List (Layout × ConfigLine)} {hostname : String} {probes : LocalProbes}
    (hconfig : ∀ line ∈ config, line.1.WellFormed ∧ line.2.WellFormed)
    (hfile : inspector.readFile "/etc/slurm/slurm.conf" = some (printConfig config))
    (hname : inspector.hostname = some hostname) (h : localProbes entityId settings inspector = some probes)
    (hsilent : ∀ service ∈ LocalProbes.serviceUnits, settings.capabilities[service.1]? = none) :
    (probes.WatchesUnit "slurmd" ↔ settings.probes.isEnabled probeSystemd = true ∧
        inspector.allows settings.capabilities ⟨"systemd"⟩ = true ∧ inspector.which "slurmd" = true ∧
          ∃ line ∈ config, (line.2.gives hostname.toList).compute = true) ∧
      (probes.WatchesUnit "slurmctld" ↔ settings.probes.isEnabled probeSystemd = true ∧
        inspector.allows settings.capabilities ⟨"systemd"⟩ = true ∧ inspector.which "slurmctld" = true ∧
          ∃ line ∈ config, (line.2.gives hostname.toList).controller = true) := by
  have hroles : detectSlurm (inspector.hostname.getD "").toList inspector.readFile inspector.which =
      ⟨(config.any fun line => (line.2.gives hostname.toList).controller) && inspector.which "slurmctld",
        (config.any fun line => (line.2.gives hostname.toList).compute) && inspector.which "slurmd"⟩ := by
    rw [detectSlurm, defaultConfigPaths, List.findSome?_cons, hfile, hname]
    dsimp only
    rw [Option.getD_some, rolesFromConfig_print hconfig]
  have hallows : ∀ service ∈ LocalProbes.serviceUnits,
      inspector.allows settings.capabilities service.1 = inspector.finds service.1 := by
    intro service hservice
    rw [SystemInspector.allows, hsilent service hservice]
    simp
  obtain ⟨hcompute, hcontroller⟩ := finds_slurm inspector
  have hnode : (⟨"slurm.compute"⟩, "slurmd") ∈ LocalProbes.serviceUnits := by decide
  have hcontrol : (⟨"slurm.controller"⟩, "slurmctld") ∈ LocalProbes.serviceUnits := by decide
  constructor
  · refine (watchesUnit_iff h hnode).trans (and_congr_right' (and_congr_right' ?_))
    rw [hallows _ hnode, hcompute, hroles, Bool.and_eq_true, List.any_eq_true, and_comm]
  · refine (watchesUnit_iff h hcontrol).trans (and_congr_right' (and_congr_right' ?_))
    rw [hallows _ hcontrol, hcontroller, hroles, Bool.and_eq_true, List.any_eq_true, and_comm]

end Agents

/-- A host with the configuration of a cluster and with both daemons. -/
def sampleHost : SystemInspector where
  hostname := some "compute02"
  pathExists := fun path => path = "/run/systemd/system"
  which := fun program => program = "slurmd" || program = "slurmctld"
  readFile := fun path => if path = "/etc/slurm/slurm.conf" then some (printConfig sampleConfig) else none
  mounts := []

/-- An agent that is told it runs on a controller. -/
def sampleSettings : AgentSettings := ⟨"lab", ∅, ["controller"], ∅⟩

/-- The probes of this agent. -/
def sampleProbes : LocalProbes :=
  scheduleProbes (fun _ => ⟨⟨0⟩⟩) sampleSettings "compute02" []
    (sampleHost.resolve sampleSettings.capabilities sampleSettings.roles).enabled

/-- Neither a package nor a role makes a host a controller. -/
theorem watches_daemons_iff_sampleHost :
    sampleProbes.WatchesUnit "slurmd" ∧ ¬ sampleProbes.WatchesUnit "slurmctld" := by
  have hfile : sampleHost.readFile "/etc/slurm/slurm.conf" = some (printConfig sampleConfig) := by
    simp [sampleHost]
  have hprobes : localProbes (fun _ => ⟨⟨0⟩⟩) sampleSettings sampleHost = some sampleProbes := rfl
  have hsilent : ∀ service ∈ LocalProbes.serviceUnits, sampleSettings.capabilities[service.1]? = none :=
    fun service _ => Std.ExtTreeMap.getElem?_empty
  have hsystemd : sampleHost.allows sampleSettings.capabilities ⟨"systemd"⟩ = true := by
    rw [SystemInspector.allows, SystemInspector.finds, sampleSettings, Std.ExtTreeMap.getElem?_empty]
    simp [SystemInspector.findings, sampleHost]
  obtain ⟨hnode, hcontrol⟩ := watches_daemons_iff wellFormed_sampleConfig hfile rfl hprobes hsilent
  constructor
  · exact hnode.mpr ⟨rfl, hsystemd, by simp [sampleHost], by decide⟩
  · exact fun h => absurd (hcontrol.mp h).2.2.2 (by decide)

end Sentinel
