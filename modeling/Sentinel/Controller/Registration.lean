import Sentinel.Inventory.StaticConfig

/-!
# Agent registration

Agent registration is an inventory provider like any other: it is how hosts become
monitored entities without an operator listing them by hand.

## Main definitions

* `RegisterRequest` — what an agent sends.
* `snapshotFromRegistration` — the snapshot a registration implies.
-/

namespace Sentinel

/-- What an agent sends to register. -/
structure RegisterRequest where
  /-- Protocol version the agent speaks. -/
  protocolVersion : UInt32
  /-- Agent binary version. -/
  agentVersion : String
  /-- Environment the agent believes it belongs to. -/
  environment : String
  /-- Host name, used as the entity's canonical name. -/
  hostname : String
  /-- Fully qualified name, when known. -/
  fqdn : Option String := none
  /-- Linux boot id. -/
  bootId : Option String := none
  /-- Addresses this host answers on. -/
  addresses : List String := []
  /-- Ports this host's services listen on. -/
  ports : Std.ExtTreeMap String UInt16 := ∅
  /-- Capabilities discovered at runtime. -/
  capabilities : CapabilitySet
  /-- Hardware summary. -/
  hardware : Json := .null
  /-- Operator-declared roles. -/
  roles : List String := []

namespace RegisterRequest

/-- The metadata a registration supplies. -/
def metadata (request : RegisterRequest) : Json :=
  .obj [
    ("agent", .obj [
      ("version", .str request.agentVersion),
      ("protocol_version", .num request.protocolVersion.toNat),
      ("gpu_nvidia_monitoring", .bool (request.capabilities.contains ⟨"gpu.nvidia"⟩))]),
    ("host", .obj [
      ("fqdn", .ofOptionStr request.fqdn),
      ("boot_id", .ofOptionStr request.bootId),
      ("addresses", .ofStrings request.addresses)]),
    ("ports", .ofPorts request.ports),
    ("hardware", request.hardware)]

/-- The host an agent registers: an agent that answered is running, and roles are
recorded as labels. -/
def entity (request : RegisterRequest) (id : EntityId) : ManagedEntity :=
  { ManagedEntity.new id .host request.hostname with
    capabilities := request.capabilities.insert ⟨"sentinel.agent"⟩
    labels := request.roles.foldl (fun labels role => labels.insert ("role." ++ role) "true") ∅
    metadata := request.metadata }

end RegisterRequest

/-- The snapshot a registration implies. -/
def snapshotFromRegistration (entityId : EntityKey → EntityId) (request : RegisterRequest) :
    InventorySnapshot :=
  (InventorySnapshot.new .agentRegistration).addEntity
    (request.entity (entityId ⟨request.environment, .host, request.hostname⟩)) rfl

end Sentinel
