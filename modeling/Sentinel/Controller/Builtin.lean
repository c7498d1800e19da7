import Sentinel.State.Replay

/-!
# The built-in probes

What each built-in probe means to the state engine: a probe identifier, the
component it informs and how much evidence it needs.  This is the whole coupling
between an integration and the engine.

## Main definitions

* `builtinProbes` — the registrations, in the order they are made.
* `registerBuiltinProbes` — an engine with all of them.
-/

namespace Sentinel

/-! ### Probe identifiers -/

/-- Slurm's view of a node. -/
def probeNode : ProbeId := ⟨"slurm.node"⟩

/-- Slurm's view of a controller daemon. -/
def probeController : ProbeId := ⟨"slurm.controller"⟩

/-- A TCP connection. -/
def probeNetwork : ProbeId := ⟨"network.tcp"⟩

/-- The SSH service. -/
def probeSsh : ProbeId := ⟨"ssh.service"⟩

/-- The agent's own endpoint. -/
def probeAgent : ProbeId := ⟨"sentinel.agent"⟩

/-- A systemd unit. -/
def probeSystemd : ProbeId := ⟨"systemd.unit"⟩

/-- Host metrics. -/
def probeHost : ProbeId := ⟨"host.metrics"⟩

/-- The `/proc`-only mount check. -/
def probeClientMount : ProbeId := ⟨"nfs.client.mount"⟩

/-- The active filesystem check. -/
def probeClientIo : ProbeId := ⟨"nfs.client.io"⟩

/-- The NFS server's port. -/
def probeServerPort : ProbeId := ⟨"nfs.server.port"⟩

/-- What an NFS server exports. -/
def probeServerExports : ProbeId := ⟨"nfs.server.exports"⟩

/-- Accelerators. -/
def probeGpu : ProbeId := ⟨"gpu.nvidia"⟩

/-- Kernel and service events. -/
def probeJournal : ProbeId := ⟨"journal.events"⟩

/-- A reboot, recorded as a fact. -/
def probeBoot : ProbeId := ⟨"host.boot"⟩

/-! ### Registrations -/

/-- The registrations, in the order they are made. -/
def builtinProbes : List (ProbeId × ProbeMapping) :=
  [(probeNode, .immediate .scheduler),
   (probeController, .immediate .service),
   (probeNetwork, .new .network),
   (probeSsh, .new .ssh),
   (probeAgent, .new .agent),
   (probeSystemd, .new .service),
   -- a transient load spike must not move the host's state
   (probeHost, { ProbeMapping.new .host with policy := ⟨3, 5, 2⟩ }),
   (probeClientMount, .new .storage),
   (probeClientIo, .new .storage),
   (probeServerPort, .new .storage),
   (probeServerExports, .new .storage),
   (probeGpu, .new .accelerator),
   (probeJournal, { ProbeMapping.new .host with policy := ⟨2, 6, 2⟩ }),
   -- a reboot is not a fault
   (probeBoot, { ProbeMapping.immediate .host with informational := true })]

/-- Declare how the built-in probes feed into state. -/
def registerBuiltinProbes (engine : StateEngine) : StateEngine :=
  builtinProbes.foldl (fun engine p => engine.register p.1 p.2) engine

/-- What the built-in probes mean. -/
def builtinMappings : Std.ExtTreeMap ProbeId ProbeMapping :=
  builtinProbes.foldl (fun mappings p => mappings.insert p.1 p.2) ∅

/-- A new engine with the built-in probes knows what they mean and nothing
else. -/
theorem registerBuiltinProbes_new :
    registerBuiltinProbes .new = StateEngine.ofMappings builtinMappings := rfl

/-- Every built-in threshold asks for evidence. -/
theorem sound_of_mem_builtinProbes :
    ∀ p ∈ builtinProbes, p.2.policy.Sound := by
  intro p hp
  have hall : ∀ p ∈ builtinProbes, 1 ≤ p.2.policy.warningThreshold.toNat ∧
      p.2.policy.warningThreshold.toNat ≤ p.2.policy.criticalThreshold.toNat ∧
      1 ≤ p.2.policy.recoveryThreshold.toNat := by decide +kernel
  obtain ⟨hw, hwc, hr⟩ := hall p hp
  exact ⟨hw, hwc, hr⟩

end Sentinel
