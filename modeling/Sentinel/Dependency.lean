import Sentinel.Basic

/-!
# The dependency graph

A general directed graph: `A → B` says that `A` depends on `B`.  Operational
dependencies do contain cycles, so every traversal keeps the set of entities it
has visited.

An edge replaced keeps its place; the two indices list, for an entity, the places
of the edges that leave it and of those that enter it.  Reading an index skips a
place past the end, where the source would panic.

## Main definitions

* `DependencyGraph`, `DependencyGraph.insert`, `DependencyGraph.fromEdges`.
* `DependencyGraph.dependenciesOf`, `DependencyGraph.dependentsOf` — the edges of
  an entity.
* `DependencyGraph.walk`, `DependencyGraph.downstream`, `DependencyGraph.upstream` —
  breadth-first traversal, everything that transitively depends on an entity, and
  everything it depends on.
* `DependencyGraph.sharedUpstream`, `DependencyGraph.groupBySharedUpstream` — what several
  entities all depend on, and the entities by what they depend on.
* `DependencyGraph.retainFromSource` — drop what a source no longer reports.
-/

namespace Sentinel

/-- What kind of relation an edge expresses. -/
inductive DependencyType
  /-- Generic dependency. -/
  | dependsOn
  /-- A service runs on a host. -/
  | hostedOn
  /-- An entity provides a higher-level entity. -/
  | provides
  /-- A client uses a storage entity. -/
  | usesStorage
  /-- A node uses a scheduler. -/
  | usesScheduler
  /-- Network reachability is required. -/
  | networkReaches
  /-- An observer watches a target. -/
  | observes
  /-- Integration-specific relation. -/
  | other (name : String)
  deriving DecidableEq, Repr

/-- Parse the stable string form. -/
def DependencyType.parse (s : String) : DependencyType :=
  if s = "depends_on" then dependsOn
  else if s = "hosted_on" then hostedOn
  else if s = "provides" then provides
  else if s = "uses_storage" then usesStorage
  else if s = "uses_scheduler" then usesScheduler
  else if s = "network_reaches" then networkReaches
  else if s = "observes" then observes
  else other s

/-- How badly the source needs the target. -/
inductive Criticality
  /-- Loss of the target makes the source unusable. -/
  | critical
  /-- Loss of the target degrades the source. -/
  | important
  /-- Informational relation only. -/
  | optional
  deriving DecidableEq, Repr

/-- Parse the stable string form. -/
def Criticality.parse (s : String) : Option Criticality :=
  if s = "critical" then some critical
  else if s = "important" then some important
  else if s = "optional" then some optional
  else none

/-- One directed edge: `source` depends on `target`. -/
structure DependencyEdge where
  /-- Stable edge identifier. -/
  id : Uuid
  /-- The dependent entity. -/
  source : EntityId
  /-- The entity depended upon. -/
  target : EntityId
  /-- The kind of relation. -/
  dependencyType : DependencyType
  /-- How badly the source needs the target. -/
  criticality : Criticality
  /-- Integration-specific metadata. -/
  metadata : Json
  /-- Which provider reported the edge. -/
  discoverySource : DiscoverySource
  deriving DecidableEq, Repr

namespace DependencyEdge

/-- Create an edge, under the identifier derived from the other three. -/
def new (id : Uuid) (source target : EntityId) (dependencyType : DependencyType) :
    DependencyEdge where
  id := id
  source := source
  target := target
  dependencyType := dependencyType
  criticality := .critical
  metadata := .null
  discoverySource := .manual

/-- Set how badly the source needs the target. -/
def withCriticality (edge : DependencyEdge) (criticality : Criticality) : DependencyEdge :=
  { edge with criticality := criticality }

/-- Set the provider that reported the edge. -/
def withDiscoverySource (edge : DependencyEdge) (source : DiscoverySource) : DependencyEdge :=
  { edge with discoverySource := source }

/-- Set the metadata. -/
def withMetadata (edge : DependencyEdge) (metadata : Json) : DependencyEdge :=
  { edge with metadata := metadata }

end DependencyEdge

/-- An entity reached by a traversal, with the distance it was reached at. -/
structure Reachable where
  /-- The entity reached. -/
  entity : EntityId
  /-- Shortest number of edges from the traversal origin. -/
  depth : ℕ
  deriving DecidableEq, Repr

/-- Which way a traversal follows the edges. -/
inductive Direction
  /-- From the dependent side to what it depends on. -/
  | upstream
  /-- From what is depended on to the dependent side. -/
  | downstream
  deriving DecidableEq, Repr

/-- The dependency edges, indexed from both sides. -/
structure DependencyGraph where
  /-- The edges, in order of insertion. -/
  edges : List DependencyEdge
  /-- Places of the edges that leave an entity. -/
  outgoing : Std.ExtTreeMap EntityId (List ℕ)
  /-- Places of the edges that enter an entity. -/
  incoming : Std.ExtTreeMap EntityId (List ℕ)

namespace DependencyGraph

/-- An empty graph. -/
def empty : DependencyGraph := ⟨[], ∅, ∅⟩

/-- Add an edge, or replace the one with its identifier. -/
def insert (graph : DependencyGraph) (edge : DependencyEdge) : DependencyGraph :=
  match graph.edges.findIdx? (fun e => e.id = edge.id) with
  | some place => { graph with edges := graph.edges.set place edge }
  | none =>
    let place := graph.edges.length
    { edges := graph.edges ++ [edge]
      outgoing := graph.outgoing.insert edge.source
        (graph.outgoing[edge.source]?.getD [] ++ [place])
      incoming := graph.incoming.insert edge.target
        (graph.incoming[edge.target]?.getD [] ++ [place]) }

/-- Build a graph from edges. -/
def fromEdges (edges : List DependencyEdge) : DependencyGraph := edges.foldl insert empty

/-- Edges where the entity is the dependent side. -/
def dependenciesOf (graph : DependencyGraph) (entity : EntityId) : List DependencyEdge :=
  (graph.outgoing[entity]?.getD []).filterMap fun place => graph.edges[place]?

/-- Edges where the entity is depended upon. -/
def dependentsOf (graph : DependencyGraph) (entity : EntityId) : List DependencyEdge :=
  (graph.incoming[entity]?.getD []).filterMap fun place => graph.edges[place]?

/-- The neighbours of an entity in a direction, along edges that are followed. -/
def neighbours (graph : DependencyGraph) (direction : Direction)
    (follow : DependencyEdge → Bool) (entity : EntityId) : List EntityId :=
  match direction with
  | .upstream => ((graph.dependenciesOf entity).filter follow).map DependencyEdge.target
  | .downstream => ((graph.dependentsOf entity).filter follow).map DependencyEdge.source

/-- The entities of a list not visited yet, each once, with the visited ones they
leave. -/
def unvisited (visited : List EntityId) : List EntityId → List EntityId × List EntityId
  | [] => ([], visited)
  | next :: rest =>
    if next ∈ visited then unvisited visited rest
    else
      let (found, visited) := unvisited (next :: visited) rest
      (next :: found, visited)

/-- The traversal loop: take an entity off the queue, put its unvisited neighbours
at the end.  Only an entity that some edge names is put there, and only once, so
as many rounds as there are edges, and one for the origin, empty the queue. -/
def walkFrom (graph : DependencyGraph) (maxDepth : Option ℕ) (direction : Direction)
    (follow : DependencyEdge → Bool) : ℕ → List EntityId → List Reachable → List Reachable
  | 0, _, _ => []
  | _, _, [] => []
  | rounds + 1, visited, current :: queue =>
    if maxDepth.any (fun limit => limit ≤ current.depth) then
      walkFrom graph maxDepth direction follow rounds visited queue
    else
      let (found, visited) := unvisited visited (graph.neighbours direction follow current.entity)
      let reached := found.map fun entity => ⟨entity, current.depth + 1⟩
      reached ++ walkFrom graph maxDepth direction follow rounds visited (queue ++ reached)

/-- Breadth-first traversal from an entity, nearest first. -/
def walk (graph : DependencyGraph) (origin : EntityId) (maxDepth : Option ℕ)
    (direction : Direction) (follow : DependencyEdge → Bool) : List Reachable :=
  graph.walkFrom maxDepth direction follow (graph.edges.length + 1) [origin] [⟨origin, 0⟩]

/-- Everything that transitively depends on the entity, nearest first. -/
def downstream (graph : DependencyGraph) (entity : EntityId) (maxDepth : Option ℕ) :
    List Reachable :=
  graph.walk entity maxDepth .downstream fun _ => true

/-- Everything the entity transitively depends on, nearest first. -/
def upstream (graph : DependencyGraph) (entity : EntityId) (maxDepth : Option ℕ) :
    List Reachable :=
  graph.walk entity maxDepth .upstream fun _ => true

/-- Like `upstream`, but only along edges the source genuinely needs: optional
relations do not propagate failure. -/
def criticalUpstream (graph : DependencyGraph) (entity : EntityId) (maxDepth : Option ℕ) :
    List Reachable :=
  graph.walk entity maxDepth .upstream fun edge => edge.criticality ≠ .optional

/-- The entities a traversal reached, as a set. -/
def reached (found : List Reachable) : Std.ExtTreeSet EntityId :=
  Std.ExtTreeSet.ofList (found.map Reachable.entity)

/-- The loop of `sharedUpstream`: it stops as soon as nothing is shared. -/
def sharedWith (graph : DependencyGraph) (maxDepth : Option ℕ) :
    Std.ExtTreeSet EntityId → List EntityId → Std.ExtTreeSet EntityId
  | shared, [] => shared
  | shared, entity :: rest =>
    let next := reached (graph.upstream entity maxDepth)
    let shared := shared.filter fun e => next.contains e
    if shared.isEmpty then shared else sharedWith graph maxDepth shared rest

/-- Entities that all of the given ones transitively depend on. -/
def sharedUpstream (graph : DependencyGraph) (entities : List EntityId) (maxDepth : Option ℕ) :
    Std.ExtTreeSet EntityId :=
  match entities with
  | [] => ∅
  | first :: rest => graph.sharedWith maxDepth (reached (graph.upstream first maxDepth)) rest

/-- Group entities by the upstream entities they share, keeping only groups with more than
one member. -/
def groupBySharedUpstream (graph : DependencyGraph) (entities : List EntityId) (maxDepth : Option ℕ) :
    Std.ExtTreeMap EntityId (Std.ExtTreeSet EntityId) :=
  let reaching := entities.flatMap fun entity =>
    (graph.upstream entity maxDepth).map fun reachable => (reachable.entity, entity)
  (reaching.foldl Std.ExtTreeMap.addTo ∅).filter fun _ members => 1 < members.size

/-- Edges of a given type where the entity is the dependent side. -/
def dependenciesOfType (graph : DependencyGraph) (entity : EntityId)
    (dependencyType : DependencyType) : List DependencyEdge :=
  (graph.dependenciesOf entity).filter fun edge => edge.dependencyType = dependencyType

/-- Drop every edge this source reported that is not kept, and say which.  The
indices are left as they are. -/
def retainFromSource (graph : DependencyGraph) (source : DiscoverySource) (keep : List Uuid) :
    DependencyGraph × List Uuid :=
  let kept : DependencyEdge → Bool := fun edge => edge.discoverySource ≠ source ∨ edge.id ∈ keep
  ({ graph with edges := graph.edges.filter kept },
    (graph.edges.filter fun edge => !kept edge).map DependencyEdge.id)

/-! ### What insertions keep -/

theorem forall_mem_insert {P : DependencyEdge → Prop} {graph : DependencyGraph}
    {edge : DependencyEdge} (hgraph : ∀ row ∈ graph.edges, P row) (hedge : P edge) :
    ∀ row ∈ (graph.insert edge).edges, P row := by
  intro row hrow
  rw [insert] at hrow
  split at hrow
  · rcases List.mem_or_eq_of_mem_set hrow with h | rfl
    · exact hgraph row h
    · exact hedge
  · rcases List.mem_append.mp hrow with h | h
    · exact hgraph row h
    · rw [List.mem_singleton.mp h]
      exact hedge

theorem forall_mem_foldl_insert {P : DependencyEdge → Prop} (edges : List DependencyEdge) :
    ∀ {graph : DependencyGraph}, (∀ row ∈ graph.edges, P row) → (∀ edge ∈ edges, P edge) →
      ∀ row ∈ (edges.foldl insert graph).edges, P row := by
  induction edges with
  | nil => intro graph hgraph _; exact hgraph
  | cons edge edges ih =>
    intro graph hgraph hedges
    rw [List.forall_mem_cons] at hedges
    exact ih (forall_mem_insert hgraph hedges.1) hedges.2

/-- A cycle of two entities is walked once around. -/
example :
    let a : EntityId := ⟨⟨1⟩⟩
    let b : EntityId := ⟨⟨2⟩⟩
    ((fromEdges [.new ⟨1⟩ a b .dependsOn, .new ⟨2⟩ b a .dependsOn]).downstream a none).map
      Reachable.entity = [b] := by
  decide +kernel

end DependencyGraph

end Sentinel
