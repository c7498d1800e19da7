import Sentinel.Integrations.Slurm.States
import Sentinel.Inventory.Slurm

/-!
# What Slurm says, as observations

One cycle turns what `scontrol` printed into observations: one of the host of every node,
and two of every controller, of the daemon and of the scheduler that all controllers
answer for.  They say what the scheduler says, not what is wrong with the machines.

Several records can be about one entity, and all of them are then observations of one
stream: only the order in which they are listed tells them apart.

## Main definitions

* `controllerStatus`, `controllerPayload` — what is reported of a controller.
* `Reading` — an observation before its identifier and time are drawn.
* `readingsFromView`, `observationsFromView` — a view as observations.

## Main results

* `map_reading_observationsFromView` — what is drawn changes nothing of what is read.
* `readingsFromView_perm` — another listing gives the same readings in another order.
-/

namespace Sentinel

namespace Slurm

/-! ### Controllers -/

/-- What is written of a controller. -/
def controllerPayload (controller : ControllerPing) : Json :=
  .obj [
    ("host", .str controller.host),
    ("role", .str controller.role),
    ("up", .bool controller.up)]

/-- Whether a controller answered, as a status. -/
def controllerStatus (controller : ControllerPing) : ProbeStatus :=
  if controller.up then .ok else .failed

end Slurm

/-! ### Readings -/

/-- An observation of the controller's own before its identifier and time are drawn. -/
structure Reading where
  /-- Which probe produced it. -/
  probeId : ProbeId
  /-- The entity it is about. -/
  targetEntity : EntityId
  /-- Outcome. -/
  status : ProbeStatus
  /-- Probe-specific structured facts. -/
  payload : Json

namespace Reading

/-- The stream a reading belongs to. -/
def streamKey (r : Reading) : StreamKey := (r.targetEntity, r.probeId, none)

/-- The observation made of a reading. -/
def observation (r : Reading) (id : ObservationId) (finishedAt : Timestamp) : Observation where
  id := id
  probeId := r.probeId
  targetEntity := r.targetEntity
  observerEntity := none
  finishedAt := finishedAt
  status := r.status
  payload := r.payload

end Reading

/-- What an observation says, whoever made it and when. -/
def Observation.reading (o : Observation) : Reading where
  probeId := o.probeId
  targetEntity := o.targetEntity
  status := o.status
  payload := o.payload

/-! ### Draws -/

/-- What a cycle of `n` observations draws: an identifier and a time for each, and the
clock as it is folded in.  No identifier is drawn twice, and the clock does not go back. -/
structure Draws (n : ℕ) where
  /-- The identifiers. -/
  id : ℕ → ObservationId
  /-- When each observation is made. -/
  finishedAt : ℕ → Timestamp
  /-- When each is folded in. -/
  now : ℕ → Timestamp
  id_inj : ∀ i < n, ∀ j < n, id i = id j → i = j
  monotone : Monotone finishedAt
  le_now : ∀ i, finishedAt i ≤ now i

namespace Slurm

variable (site : Site)

/-- What is read of a node, about its host. -/
def Site.nodeReading (node : SlurmNode) : Reading :=
  ⟨probeNode, site.id .host node.hostName, nodeStatus node, nodePayload node⟩

/-- What is read of a controller, about its daemon and about the scheduler. -/
def Site.controllerReadings (controller : ControllerPing) : List Reading :=
  [⟨probeController, site.id .service ("slurmctld@" ++ controller.host), controllerStatus controller,
      controllerPayload controller⟩,
    ⟨probeController, site.scheduler, controllerStatus controller, controllerPayload controller⟩]

/-- What is read in one cycle. -/
def readingsFromView (view : SlurmView) : List Reading :=
  view.nodes.map site.nodeReading ++ view.controllers.flatMap site.controllerReadings

/-- Build observations from one cycle. -/
def observationsFromView {n : ℕ} (view : SlurmView) (draws : Draws n) : List Observation :=
  (readingsFromView site view).mapIdx fun i r => r.observation (draws.id i) (draws.finishedAt i)

/-- How many observations a view makes. -/
def SlurmView.size (view : SlurmView) : ℕ := view.nodes.length + 2 * view.controllers.length

variable {site : Site} {view view' : SlurmView} {r : Reading}

theorem length_readingsFromView : (readingsFromView site view).length = view.size := by
  have hcontrollers : ∀ controllers : List ControllerPing,
      (controllers.flatMap site.controllerReadings).length = 2 * controllers.length := by
    intro controllers
    induction controllers with
    | nil => rfl
    | cons controller controllers ih =>
      rw [List.flatMap_cons, List.length_append, ih, List.length_cons]
      change 2 + 2 * controllers.length = 2 * (controllers.length + 1)
      omega
  rw [readingsFromView, List.length_append, List.length_map, hcontrollers, SlurmView.size]

/-- What is drawn changes nothing of what is read. -/
theorem map_reading_observationsFromView {n : ℕ} (draws : Draws n) :
    (observationsFromView site view draws).map Observation.reading = readingsFromView site view := by
  refine List.ext_getElem (by rw [observationsFromView, List.length_map, List.length_mapIdx]) ?_
  intro i _ _
  simp only [observationsFromView, List.getElem_map, List.getElem_mapIdx]
  rfl

/-- Another listing gives the same readings in another order. -/
theorem readingsFromView_perm (hnodes : view'.nodes.Perm view.nodes)
    (hcontrollers : view'.controllers.Perm view.controllers) :
    (readingsFromView site view').Perm (readingsFromView site view) :=
  (hnodes.map _).append (hcontrollers.flatMap_right _)

/-- A reading is of a node or of a controller. -/
theorem mem_readingsFromView : r ∈ readingsFromView site view ↔
    (∃ node ∈ view.nodes, site.nodeReading node = r) ∨
      ∃ controller ∈ view.controllers, r ∈ site.controllerReadings controller := by
  rw [readingsFromView, List.mem_append, List.mem_map, List.mem_flatMap]

end Slurm

end Sentinel
