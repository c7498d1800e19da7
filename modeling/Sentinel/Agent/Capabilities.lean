import Sentinel.Agent.LocalProbes
import Sentinel.Integrations.Slurm.Roles

/-!
# What a host can do

An agent looks at its host to learn what it can do, and records what it did not find as well
as what it found.  The operator's word comes before that, and what a role suggests comes
last: it counts only where nothing else has an opinion.

## Main definitions

* `resolveCapabilities` — overrides, discovery and hints, in this order.
* `detect`, `roleHints` — what is found on a host, and what its roles suggest.
* `resolve` — the capabilities in force.

## Main results

* `mem_resolveCapabilities` — which capabilities are enabled.
* `mem_resolve_iff` — **a role makes a host an observer, and does nothing else.**
-/

namespace Sentinel

/-! ### Resolution -/

/-- An operator's explicit decision about one capability. -/
inductive CapabilityOverride
  /-- Enable regardless of what discovery found. -/
  | force
  /-- Enable if discovery had no opinion. -/
  | enable
  /-- Never enable, whatever discovery found. -/
  | disable
  deriving DecidableEq, Repr

/-- What runtime discovery concluded about one capability. -/
inductive DiscoveryOutcome
  /-- The agent looked and found the capability present. -/
  | detected
  /-- The agent looked and found it absent. -/
  | notDetected
  deriving DecidableEq, Repr

/-- Why a capability ended up enabled or disabled. -/
inductive ResolutionReason
  /-- Operator forced it off. -/
  | forcedDisabled
  /-- Operator forced it on. -/
  | forcedEnabled
  /-- Runtime discovery detected it. -/
  | discovered
  /-- Runtime discovery explicitly did not detect it. -/
  | notDiscovered
  /-- Operator asked to enable it and discovery had no opinion. -/
  | operatorEnabled
  /-- A role suggested it and nothing else had an opinion. -/
  | roleHint
  deriving DecidableEq, Repr

/-- Whether this reason results in an enabled capability. -/
def ResolutionReason.isEnabled : ResolutionReason → Bool
  | forcedEnabled | discovered | operatorEnabled | roleHint => true
  | forcedDisabled | notDiscovered => false

/-- The outcome of resolving one entity's capabilities. -/
structure Resolution where
  /-- The capabilities that are actually enabled. -/
  enabled : CapabilitySet
  /-- Why each considered capability was enabled or disabled. -/
  reasons : Std.ExtTreeMap Capability ResolutionReason

/-- The operator's decisions. -/
abbrev CapabilityOverrides := Std.ExtTreeMap Capability CapabilityOverride

section Resolve

variable (discovered : Std.ExtTreeMap Capability DiscoveryOutcome) (overrides : CapabilityOverrides)
  (roleHints : CapabilitySet)

/-- What decides about a capability. -/
def reasonFor (capability : Capability) : ResolutionReason :=
  match overrides[capability]? with
  | some .disable => .forcedDisabled
  | some .force => .forcedEnabled
  | _ =>
    match discovered[capability]? with
    | some .detected => .discovered
    | some .notDetected => .notDiscovered
    | none =>
      match overrides[capability]? with
      | some .enable => .operatorEnabled
      | _ => if roleHints.contains capability then .roleHint else .notDiscovered

/-- Record what was decided about a capability. -/
def Resolution.add (resolution : Resolution) (capability : Capability) (reason : ResolutionReason) : Resolution where
  enabled := if reason.isEnabled then resolution.enabled.insert capability else resolution.enabled
  reasons := resolution.reasons.insert capability reason

/-- The capabilities that anything has an opinion of. -/
def considered : CapabilitySet :=
  Std.ExtTreeSet.ofList (discovered.toList.map Prod.fst ++ overrides.toList.map Prod.fst ++ roleHints.toList)

/-- Resolve the effective capability set for one entity. -/
def resolveCapabilities : Resolution :=
  (considered discovered overrides roleHints).toList.foldl
    (fun resolution capability => resolution.add capability (reasonFor discovered overrides roleHints capability))
    ⟨∅, ∅⟩

variable {discovered overrides roleHints}

theorem isEnabled_reasonFor (capability : Capability) :
    (reasonFor discovered overrides roleHints capability).isEnabled = true ↔
      overrides[capability]? ≠ some .disable ∧ (overrides[capability]? = some .force ∨
        discovered[capability]? = some .detected ∨ discovered[capability]? = none ∧
          (overrides[capability]? = some .enable ∨ capability ∈ roleHints)) := by
  rw [reasonFor, ← Std.ExtTreeSet.contains_iff_mem]
  rcases overrides[capability]? with _ | _ | _ | _
  all_goals rcases discovered[capability]? with _ | _ | _
  all_goals cases roleHints.contains capability <;> simp [ResolutionReason.isEnabled]

theorem mem_foldl_add (reason : Capability → ResolutionReason) (capabilities : List Capability) :
    ∀ resolution : Resolution, ∀ c,
      c ∈ (capabilities.foldl (fun resolution c => resolution.add c (reason c)) resolution).enabled ↔
        c ∈ resolution.enabled ∨ c ∈ capabilities ∧ (reason c).isEnabled = true := by
  induction capabilities with
  | nil => simp
  | cons capability capabilities ih =>
    intro resolution c
    have hadd : c ∈ (resolution.add capability (reason capability)).enabled ↔
        c ∈ resolution.enabled ∨ c = capability ∧ (reason c).isEnabled = true := by
      rw [Resolution.add]
      by_cases hreason : (reason capability).isEnabled = true
      · rw [if_pos hreason, Std.ExtTreeSet.mem_insert_iff]
        constructor
        · rintro (rfl | hc)
          · exact .inr ⟨rfl, hreason⟩
          · exact .inl hc
        · rintro (hc | ⟨rfl, -⟩)
          · exact .inr hc
          · exact .inl rfl
      · rw [if_neg hreason]
        refine ⟨.inl, fun h => h.elim id fun hc => ?_⟩
        exact absurd (hc.1 ▸ hc.2) hreason
    rw [List.foldl_cons, ih, hadd, List.mem_cons, or_assoc, ← or_and_right]

/-- **Which capabilities are enabled**: those not disabled that are forced or found, and
where nobody looked those enabled or hinted at. -/
theorem mem_resolveCapabilities (capability : Capability) :
    capability ∈ (resolveCapabilities discovered overrides roleHints).enabled ↔
      overrides[capability]? ≠ some .disable ∧ (overrides[capability]? = some .force ∨
        discovered[capability]? = some .detected ∨ discovered[capability]? = none ∧
          (overrides[capability]? = some .enable ∨ capability ∈ roleHints)) := by
  rw [resolveCapabilities, mem_foldl_add, isEnabled_reasonFor]
  refine ⟨fun h => h.elim (fun hnone => absurd hnone Std.ExtTreeSet.not_mem_empty) And.right, fun h => .inr ⟨?_, h⟩⟩
  -- whatever enables a capability has an opinion of it
  rw [considered, Std.ExtTreeSet.mem_toList_ofList, List.mem_append, List.mem_append,
    Std.ExtTreeMap.mem_keys_toList, Std.ExtTreeMap.mem_keys_toList, Std.ExtTreeSet.mem_toList]
  rcases h.2 with hforce | hfound | ⟨-, henable | hhint⟩
  · simp [hforce]
  · simp [hfound]
  · simp [henable]
  · exact .inr hhint

end Resolve

/-! ### Discovery -/

/-- What an agent can see of its host. -/
structure SystemInspector where
  /-- The name of the host. -/
  hostname : Option String
  /-- Whether a path exists. -/
  pathExists : String → Bool
  /-- Whether a program is on the path. -/
  which : String → Bool
  /-- The contents of a file. -/
  readFile : String → Option (List Char)
  /-- What is mounted. -/
  mounts : List MountInfo

/-- What is suggested by a role. -/
def roleHints (role : String) : List Capability :=
  match role with
  | "controller" => [⟨"slurm.controller"⟩, ⟨"observer.peer"⟩]
  | "compute" => [⟨"slurm.compute"⟩]
  | "fileserver" => [⟨"storage.nfs.server"⟩, ⟨"observer.peer"⟩]
  | "observer" => [⟨"observer.peer"⟩]
  | "login" => [⟨"ssh.server"⟩]
  | _ => []

namespace SystemInspector

/-- What was looked for, and whether it is there. -/
def findings (inspector : SystemInspector) : List (Capability × Bool) :=
  let systemd := inspector.pathExists "/run/systemd/system"
  -- that the program is installed does not make a host part of Slurm
  let slurm := detectSlurm (inspector.hostname.getD "").toList inspector.readFile inspector.which
  [(⟨"host.metrics"⟩, true),
    (⟨"sentinel.agent"⟩, true),
    (⟨"network.tcp"⟩, true),
    (⟨"systemd"⟩, systemd),
    (⟨"journal.read"⟩, systemd && inspector.which "journalctl"),
    (⟨"ssh.server"⟩, inspector.pathExists "/etc/ssh/sshd_config" || inspector.which "sshd"),
    (⟨"gpu.nvidia"⟩, inspector.which "nvidia-smi"),
    (⟨"storage.nfs.client"⟩, inspector.mounts.any MountInfo.isNfs),
    (⟨"storage.nfs.server"⟩, inspector.pathExists "/etc/exports" || inspector.which "exportfs"),
    (⟨"storage.zfs"⟩, inspector.which "zpool"),
    (⟨"storage.smart"⟩, inspector.which "smartctl"),
    (⟨"storage.local"⟩, true),
    (⟨"slurm.controller"⟩, slurm.controller),
    (⟨"slurm.compute"⟩, slurm.compute)]

/-- Detect what this machine can do; absence is recorded as well. -/
def detect (inspector : SystemInspector) : Std.ExtTreeMap Capability DiscoveryOutcome :=
  Std.ExtTreeMap.ofList (inspector.findings.map fun finding =>
    (finding.1, if finding.2 then DiscoveryOutcome.detected else DiscoveryOutcome.notDetected))

/-- Detect, then apply the operator's overrides and any role hints. -/
def resolve (inspector : SystemInspector) (overrides : CapabilityOverrides) (roles : List String) : Resolution :=
  resolveCapabilities inspector.detect overrides (Std.ExtTreeSet.ofList (roles.flatMap roleHints))

/-- What agents look for. -/
def detectable : List Capability :=
  [⟨"host.metrics"⟩, ⟨"sentinel.agent"⟩, ⟨"network.tcp"⟩, ⟨"systemd"⟩, ⟨"journal.read"⟩, ⟨"ssh.server"⟩,
    ⟨"gpu.nvidia"⟩, ⟨"storage.nfs.client"⟩, ⟨"storage.nfs.server"⟩, ⟨"storage.zfs"⟩, ⟨"storage.smart"⟩,
    ⟨"storage.local"⟩, ⟨"slurm.controller"⟩, ⟨"slurm.compute"⟩]

/-- Whether a capability is found on the host. -/
def finds (inspector : SystemInspector) (capability : Capability) : Bool := inspector.findings.contains (capability, true)

variable (inspector : SystemInspector)

theorem map_fst_findings : inspector.findings.map Prod.fst = detectable := rfl

theorem nodup_detectable : detectable.Nodup := by decide +kernel

theorem pairwise_findings : (inspector.findings.map fun finding =>
    (finding.1, if finding.2 then DiscoveryOutcome.detected else DiscoveryOutcome.notDetected)).Pairwise
      fun a b => ¬ compare a.1 b.1 = .eq := by
  have hnodup : (inspector.findings.map Prod.fst).Nodup := by
    rw [map_fst_findings]
    exact nodup_detectable
  rw [List.pairwise_map]
  refine (List.pairwise_map.mp hnodup).imp fun hne heq => hne ?_
  exact Std.LawfulEqOrd.eq_of_compare heq

/-- **An agent has looked for a capability or not**, whatever its host is like. -/
theorem detect_eq_none_iff (capability : Capability) : inspector.detect[capability]? = none ↔ capability ∉ detectable := by
  rw [detect, ← map_fst_findings inspector, ← Option.not_isSome_iff_eq_none, ← Std.ExtTreeMap.mem_iff_isSome_getElem?,
    Std.ExtTreeMap.mem_ofList, List.map_map, List.contains_iff_mem]
  rfl

theorem detect_eq_detected_iff (capability : Capability) :
    inspector.detect[capability]? = some .detected ↔ inspector.finds capability = true := by
  rw [finds, List.contains_iff_mem]
  constructor
  · intro h
    have hmem : capability ∈ detectable := by
      by_contra hnot
      rw [(inspector.detect_eq_none_iff capability).mpr hnot] at h
      cases h
    rw [← map_fst_findings inspector] at hmem
    obtain ⟨⟨_, present⟩, hfinding, rfl⟩ := List.mem_map.mp hmem
    have hget := Std.ExtTreeMap.getElem?_ofList_of_mem Std.ReflCmp.compare_self inspector.pairwise_findings
      (List.mem_map_of_mem hfinding)
    rw [detect, hget] at h
    cases present with
    | true => exact hfinding
    | false => cases h
  · intro h
    exact Std.ExtTreeMap.getElem?_ofList_of_mem Std.ReflCmp.compare_self inspector.pairwise_findings
      (List.mem_map_of_mem (f := fun finding : Capability × Bool =>
        (finding.1, if finding.2 then DiscoveryOutcome.detected else DiscoveryOutcome.notDetected)) h)

/-- The roles of hosts that watch others. -/
def observerRoles : List String := ["controller", "fileserver", "observer"]

/-- What a role suggests is looked for, but for watching others. -/
theorem mem_roleHints_iff {capability : Capability} (h : capability ∉ detectable) (role : String) :
    capability ∈ roleHints role ↔ capability = ⟨"observer.peer"⟩ ∧ role ∈ observerRoles := by
  have hknown : (⟨"slurm.controller"⟩ : Capability) ∈ detectable ∧ (⟨"slurm.compute"⟩ : Capability) ∈ detectable ∧
      (⟨"storage.nfs.server"⟩ : Capability) ∈ detectable ∧ (⟨"ssh.server"⟩ : Capability) ∈ detectable := by
    simp [detectable]
  have hcontroller : capability ≠ ⟨"slurm.controller"⟩ := fun heq => h (heq ▸ hknown.1)
  have hcompute : capability ≠ ⟨"slurm.compute"⟩ := fun heq => h (heq ▸ hknown.2.1)
  have hserver : capability ≠ ⟨"storage.nfs.server"⟩ := fun heq => h (heq ▸ hknown.2.2.1)
  have hssh : capability ≠ ⟨"ssh.server"⟩ := fun heq => h (heq ▸ hknown.2.2.2)
  unfold roleHints
  split <;> simp_all [observerRoles]

/-- **A role makes a host an observer, and does nothing else.**  What agents look for is
enabled if it is found or forced, and not disabled; anything else has to be enabled, or for
watching others to be suggested by a role. -/
theorem mem_resolve_iff (overrides : CapabilityOverrides) (roles : List String) (capability : Capability) :
    capability ∈ (inspector.resolve overrides roles).enabled ↔
      overrides[capability]? ≠ some .disable ∧ (overrides[capability]? = some .force ∨
        if capability ∈ detectable then inspector.finds capability = true
        else overrides[capability]? = some .enable ∨
          capability = ⟨"observer.peer"⟩ ∧ ∃ role ∈ roles, role ∈ observerRoles) := by
  rw [resolve, mem_resolveCapabilities, detect_eq_detected_iff, detect_eq_none_iff, Std.ExtTreeSet.mem_ofList,
    List.contains_iff_mem, List.mem_flatMap]
  by_cases hmem : capability ∈ detectable
  · rw [if_pos hmem]
    simp [hmem]
  · have hfinds : ¬ inspector.finds capability = true := by
      rw [← detect_eq_detected_iff, (inspector.detect_eq_none_iff capability).mpr hmem]
      simp
    have hhints : (∃ role ∈ roles, capability ∈ roleHints role) ↔
        capability = ⟨"observer.peer"⟩ ∧ ∃ role ∈ roles, role ∈ observerRoles := by
      simp only [mem_roleHints_iff hmem]
      exact ⟨fun ⟨role, hrole, hpeer, hobserver⟩ => ⟨hpeer, role, hrole, hobserver⟩,
        fun ⟨hpeer, role, hrole, hobserver⟩ => ⟨role, hrole, hpeer, hobserver⟩⟩
    rw [if_neg hmem, hhints]
    simp [hfinds, hmem]

end SystemInspector

end Sentinel
