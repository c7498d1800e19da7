import Sentinel.Dependency.Traversal

/-!
# The two indices of the dependency graph

The indices shadow the list of edges by place.  Inserting keeps them in step with it,
as long as an identifier is not used again for other ends.  Dropping edges moves the
later ones forward and leaves the indices where they were.

## Main definitions

* `DependencyGraph.Indexed` — each index lists the places of the edges that leave,
  or enter, an entity.
* `DependencyGraph.Answers` — so does every lookup and traversal: it returns what
  the list of edges implies.
* `DependencyGraph.Change`, `DependencyGraph.after` — sequences of insertions and
  retractions.

## Main results

* `DependencyGraph.indexed_apply_iff` — what one change does to the indices.
* `DependencyGraph.answers_throughout_iff` — along a sequence of changes the graph
  answers from its edges exactly as long as nothing is dropped and no identifier
  changes its ends.
-/

namespace Sentinel

namespace DependencyGraph

variable {graph : DependencyGraph} {edges : List DependencyEdge} {edge held : DependencyEdge}
  {p : DependencyEdge → Bool} {place : ℕ}

/-! ### Places -/

/-- The places of the edges with a property. -/
def places (edges : List DependencyEdge) (p : DependencyEdge → Bool) : List ℕ :=
  (List.range edges.length).filter fun place => edges[place]?.any p

theorem mem_places : place ∈ places edges p ↔ ∃ edge, edges[place]? = some edge ∧ p edge = true := by
  rw [places, List.mem_filter, List.mem_range, Option.any_eq_true]
  constructor
  · rintro ⟨-, edge, hedge, hp⟩
    exact ⟨edge, hedge, hp⟩
  · rintro ⟨edge, hedge, hp⟩
    exact ⟨(List.getElem?_eq_some_iff.mp hedge).1, edge, hedge, hp⟩

/-- The last edge of a list has the last place. -/
theorem places_concat : places (edges ++ [edge]) p =
    places edges p ++ if p edge then [edges.length] else [] := by
  have hearlier : (List.range edges.length).filter (fun i => (edges ++ [edge])[i]?.any p) =
      places edges p := by
    refine List.filter_congr fun i hi => ?_
    rw [List.getElem?_append_left (List.mem_range.mp hi)]
  rw [← hearlier, places, List.length_append, List.length_singleton, List.range_succ,
    List.filter_append]
  congr 1
  cases hp : p edge <;> simp [hp]

/-- Reading the places of the edges with a property gives these edges. -/
theorem filterMap_places (edges : List DependencyEdge) :
    (places edges p).filterMap (fun place => edges[place]?) = edges.filter p := by
  induction edges using List.reverseRecOn with
  | nil => rfl
  | append_singleton edges edge ih =>
    have hearlier : (places edges p).filterMap (fun place => (edges ++ [edge])[place]?) =
        edges.filter p := by
      rw [← ih]
      refine List.filterMap_congr fun i hi => ?_
      obtain ⟨e, he, -⟩ := mem_places.mp hi
      rw [List.getElem?_append_left (List.getElem?_eq_some_iff.mp he).1]
    rw [places_concat, List.filterMap_append, hearlier, List.filter_append]
    congr 1
    cases hp : p edge <;> simp [hp]

/-- Putting an edge in the place of another that agrees with it moves nothing. -/
theorem places_set (hplace : edges[place]? = some held) (hp : p edge = p held) :
    places (edges.set place edge) p = places edges p := by
  rw [places, places, List.length_set]
  refine List.filter_congr fun i _ => ?_
  rcases eq_or_ne place i with rfl | hne
  · rw [List.getElem?_set_self (List.getElem?_eq_some_iff.mp hplace).1, hplace, Option.any_some,
      Option.any_some, hp]
  · rw [List.getElem?_set_ne hne]

/-! ### What the graph should answer -/

/-- Each index lists the places of the edges that leave, or enter, an entity. -/
structure Indexed (graph : DependencyGraph) : Prop where
  /-- The places of the edges that leave an entity. -/
  outgoing : ∀ entity, graph.outgoing[entity]?.getD [] =
    places graph.edges fun edge => edge.source = entity
  /-- The places of the edges that enter an entity. -/
  incoming : ∀ entity, graph.incoming[entity]?.getD [] =
    places graph.edges fun edge => edge.target = entity

/-- The neighbours of an entity as the list of edges has them. -/
def adjacent (edges : List DependencyEdge) (direction : Direction)
    (follow : DependencyEdge → Bool) (entity : EntityId) : List EntityId :=
  match direction with
  | .upstream =>
    ((edges.filter fun edge => edge.source = entity).filter follow).map DependencyEdge.target
  | .downstream =>
    ((edges.filter fun edge => edge.target = entity).filter follow).map DependencyEdge.source

/-- Every index, lookup and traversal returns what the list of edges implies, and no
index names a place past its end. -/
structure Answers (graph : DependencyGraph) : Prop extends Indexed graph where
  /-- No place past the end. -/
  inBounds : ∀ (entity : EntityId) (place : ℕ),
    place ∈ graph.outgoing[entity]?.getD [] ∨ place ∈ graph.incoming[entity]?.getD [] →
      place < graph.edges.length
  /-- The edges that leave an entity. -/
  dependenciesOf : ∀ entity, graph.dependenciesOf entity =
    graph.edges.filter fun edge => edge.source = entity
  /-- The edges of a type that leave an entity. -/
  dependenciesOfType : ∀ entity type, graph.dependenciesOfType entity type =
    graph.edges.filter fun edge => edge.source = entity ∧ edge.dependencyType = type
  /-- The edges that enter an entity. -/
  dependentsOf : ∀ entity, graph.dependentsOf entity =
    graph.edges.filter fun edge => edge.target = entity
  /-- What is reached, in either direction, along whichever edges are followed. -/
  walk : ∀ origin maxDepth direction follow (r : Reachable),
    r ∈ graph.walk origin maxDepth direction follow ↔
      0 < r.depth ∧ (∀ limit ∈ maxDepth, r.depth ≤ limit) ∧
        AtDistance (adjacent graph.edges direction follow) r.depth origin r.entity
  /-- What is upstream of several entities. -/
  sharedUpstream : ∀ entities maxDepth entity, entity ∈ graph.sharedUpstream entities maxDepth ↔
    entities ≠ [] ∧ ∀ e ∈ entities, ∃ depth, 0 < depth ∧ (∀ limit ∈ maxDepth, depth ≤ limit) ∧
      AtDistance (adjacent graph.edges .upstream fun _ => true) depth e entity

theorem Indexed.dependenciesOf_eq (h : graph.Indexed) (entity : EntityId) :
    graph.dependenciesOf entity = graph.edges.filter fun edge => edge.source = entity := by
  rw [dependenciesOf, h.outgoing, filterMap_places]

theorem Indexed.dependentsOf_eq (h : graph.Indexed) (entity : EntityId) :
    graph.dependentsOf entity = graph.edges.filter fun edge => edge.target = entity := by
  rw [dependentsOf, h.incoming, filterMap_places]

theorem Indexed.neighbours_eq (h : graph.Indexed) (direction : Direction)
    (follow : DependencyEdge → Bool) :
    graph.neighbours direction follow = adjacent graph.edges direction follow := by
  funext entity
  cases direction with
  | upstream => rw [neighbours, adjacent, h.dependenciesOf_eq]
  | downstream => rw [neighbours, adjacent, h.dependentsOf_eq]

/-- **A graph whose indices are right answers from its edges.** -/
theorem Indexed.answers (h : graph.Indexed) : graph.Answers where
  toIndexed := h
  inBounds := by
    intro entity place hmem
    rw [h.outgoing, h.incoming, mem_places, mem_places] at hmem
    rcases hmem with ⟨edge, hedge, -⟩ | ⟨edge, hedge, -⟩ <;>
      exact (List.getElem?_eq_some_iff.mp hedge).1
  dependenciesOf := h.dependenciesOf_eq
  dependenciesOfType := by
    intro entity type
    rw [DependencyGraph.dependenciesOfType, h.dependenciesOf_eq, List.filter_filter]
    refine List.filter_congr fun edge _ => ?_
    rw [Bool.and_comm, Bool.decide_and]
  dependentsOf := h.dependentsOf_eq
  walk := by
    intro origin maxDepth direction follow r
    rw [mem_walk, h.neighbours_eq]
  sharedUpstream := by
    intro entities maxDepth entity
    rw [mem_sharedUpstream]
    simp only [upstream, mem_walk, h.neighbours_eq]

/-! ### Changes -/

/-- A change of the graph. -/
inductive Change
  /-- Add or replace an edge. -/
  | insert (edge : DependencyEdge)
  /-- Drop what a source no longer reports. -/
  | retainFromSource (source : DiscoverySource) (keep : List Uuid)

/-- The graph after a change. -/
def apply (graph : DependencyGraph) : Change → DependencyGraph
  | .insert edge => graph.insert edge
  | .retainFromSource source keep => (graph.retainFromSource source keep).1

/-- The graph after changes of the empty one. -/
def after (changes : List Change) : DependencyGraph := changes.foldl apply empty

/-- Building a graph from edges is a sequence of insertions. -/
theorem fromEdges_eq_after (edges : List DependencyEdge) :
    fromEdges edges = after (edges.map Change.insert) := by
  rw [fromEdges, after, List.foldl_map]
  rfl

/-- The changes that move no edge away from where the indices have it: an edge
replaced keeps its ends, and everything of the source is kept. -/
def Keeps (graph : DependencyGraph) : Change → Prop
  | .insert edge => ∀ held, graph.edges.find? (fun e => e.id = edge.id) = some held →
    held.source = edge.source ∧ held.target = edge.target
  | .retainFromSource source keep => ∀ edge ∈ graph.edges, edge.discoverySource = source →
    edge.id ∈ keep

theorem indexed_empty : Indexed empty where
  outgoing := by intro entity; simp [empty, places]
  incoming := by intro entity; simp [empty, places]

/-- A new edge is appended to the list and to both indices. -/
theorem Indexed.append (h : graph.Indexed)
    (hnew : graph.edges.findIdx? (fun e => e.id = edge.id) = none) : (graph.insert edge).Indexed := by
  have hindex : ∀ (index : Std.ExtTreeMap EntityId (List ℕ)) (ends : DependencyEdge → EntityId),
      (∀ entity, index[entity]?.getD [] = places graph.edges fun e => ends e = entity) →
      ∀ entity, (index.insert (ends edge)
          (index[ends edge]?.getD [] ++ [graph.edges.length]))[entity]?.getD [] =
        places (graph.edges ++ [edge]) fun e => ends e = entity := by
    intro index ends hends entity
    rw [places_concat, Std.ExtTreeMap.getElem?_insert_eq]
    split
    · next heq => simp [← heq, hends]
    · next hne => simp [hne, hends]
  rw [insert, hnew]
  exact ⟨hindex graph.outgoing DependencyEdge.source h.outgoing,
    hindex graph.incoming DependencyEdge.target h.incoming⟩

/-- A graph built from edges of different identifiers has the right indices, and holds
those edges. -/
theorem indexed_fromEdges (edges : List DependencyEdge) (h : (edges.map DependencyEdge.id).Nodup) :
    (fromEdges edges).Indexed ∧ (fromEdges edges).edges = edges := by
  induction edges using List.reverseRecOn with
  | nil => exact ⟨indexed_empty, rfl⟩
  | append_singleton edges edge ih =>
    rw [List.map_append, List.nodup_append] at h
    obtain ⟨hindexed, hedges⟩ := ih h.1
    have hnew : (fromEdges edges).edges.findIdx? (fun e => e.id = edge.id) = none := by
      rw [hedges, List.findIdx?_eq_none_iff]
      intro e he
      simpa using h.2.2 e.id (List.mem_map_of_mem he) edge.id (by simp)
    have hlast : fromEdges (edges ++ [edge]) = (fromEdges edges).insert edge := by
      rw [fromEdges, List.foldl_append]
      rfl
    rw [hlast]
    refine ⟨hindexed.append hnew, ?_⟩
    rw [insert, hnew, hedges]

/-- The first edge with an identifier is the one at the first place with it. -/
theorem find?_of_findIdx? (hplace : edges.findIdx? p = some place) :
    edges.find? p = edges[place]? := by
  obtain ⟨hlt, hp, hbefore⟩ := List.findIdx?_eq_some_iff_getElem.mp hplace
  rw [List.getElem?_eq_getElem hlt, List.find?_eq_some_iff_getElem]
  exact ⟨hp, place, hlt, rfl, fun j hj => by simpa using hbefore j hj⟩

/-- Replacing an edge keeps the indices right exactly when it keeps the ends. -/
theorem Indexed.replace_iff (h : graph.Indexed)
    (hplace : graph.edges.findIdx? (fun e => e.id = edge.id) = some place) :
    (graph.insert edge).Indexed ↔ graph.Keeps (.insert edge) := by
  have hlt := (List.findIdx?_eq_some_iff_getElem.mp hplace).1
  obtain ⟨held, hheld⟩ : ∃ held, graph.edges[place]? = some held :=
    ⟨_, List.getElem?_eq_getElem hlt⟩
  have hkeeps : graph.Keeps (.insert edge) ↔ held.source = edge.source ∧ held.target = edge.target := by
    rw [Keeps, find?_of_findIdx? hplace, hheld]
    exact ⟨fun hk => hk held rfl, fun hk e he => Option.some.inj he ▸ hk⟩
  -- the place stays listed under the old ends
  have hends : ∀ ends : DependencyEdge → EntityId,
      (places (graph.edges.set place edge) fun e => ends e = ends held) =
        (places graph.edges fun e => ends e = ends held) → ends held = ends edge := by
    intro ends heq
    have hmem : place ∈ places graph.edges fun e => ends e = ends held :=
      mem_places.mpr ⟨held, hheld, decide_eq_true rfl⟩
    obtain ⟨e, he, hp⟩ := mem_places.mp (heq ▸ hmem)
    rw [List.getElem?_set_self hlt] at he
    rw [← of_decide_eq_true hp, Option.some.inj he]
  rw [hkeeps, insert, hplace]
  constructor
  · intro hnew
    exact ⟨hends _ ((hnew.outgoing _).symm.trans (h.outgoing _)),
      hends _ ((hnew.incoming _).symm.trans (h.incoming _))⟩
  · rintro ⟨hsource, htarget⟩
    refine ⟨fun entity => ?_, fun entity => ?_⟩
    · exact (h.outgoing entity).trans (places_set hheld (by rw [hsource])).symm
    · exact (h.incoming entity).trans (places_set hheld (by rw [htarget])).symm

/-- Dropping edges leaves the last place in an index, past the end. -/
theorem Indexed.retain_iff (h : graph.Indexed) (source : DiscoverySource) (keep : List Uuid) :
    (graph.retainFromSource source keep).1.Indexed ↔ graph.Keeps (.retainFromSource source keep) := by
  set kept : DependencyEdge → Bool := fun edge => edge.discoverySource ≠ source ∨ edge.id ∈ keep
    with hkept
  have hkeeps : graph.Keeps (.retainFromSource source keep) ↔ ∀ edge ∈ graph.edges, kept edge = true := by
    refine forall₂_congr fun edge _ => ?_
    rw [hkept, decide_eq_true_eq, ← imp_iff_not_or]
  rw [hkeeps]
  constructor
  · intro hnew
    by_contra hdrop
    have hshort : (graph.edges.filter kept).length < graph.edges.length := by
      refine lt_of_le_of_ne (List.length_filter_le _ _) fun heq => hdrop ?_
      exact List.length_filter_eq_length_iff.mp heq
    -- the place of the last edge is listed and has no edge any more
    have hlast : graph.edges.length - 1 < graph.edges.length := by omega
    obtain ⟨edge, hedge⟩ : ∃ edge, graph.edges[graph.edges.length - 1]? = some edge :=
      ⟨_, List.getElem?_eq_getElem hlast⟩
    have hmem : graph.edges.length - 1 ∈ graph.outgoing[edge.source]?.getD [] := by
      rw [h.outgoing, mem_places]
      exact ⟨edge, hedge, decide_eq_true rfl⟩
    have hbound : graph.edges.length - 1 < (graph.edges.filter kept).length :=
      hnew.answers.inBounds edge.source _ (Or.inl hmem)
    omega
  · intro hall
    have hsame : (graph.retainFromSource source keep).1 = graph := by
      rw [retainFromSource]
      exact congrArg (fun edges => { graph with edges := edges }) (List.filter_eq_self.mpr hall)
    rw [hsame]
    exact h

/-- **One change.**  The indices stay right exactly when no edge moves away from
where they have it. -/
theorem indexed_apply_iff (h : graph.Indexed) (change : Change) :
    (graph.apply change).Indexed ↔ graph.Keeps change := by
  cases change with
  | insert edge =>
    cases hplace : graph.edges.findIdx? (fun e => e.id = edge.id) with
    | some place => exact h.replace_iff hplace
    | none =>
      refine iff_of_true (h.append hplace) fun held hheld => ?_
      rw [List.findIdx?_eq_none_iff] at hplace
      have hid := List.find?_some hheld
      rw [hplace held (List.mem_of_find?_eq_some hheld)] at hid
      exact absurd hid Bool.false_ne_true
  | retainFromSource source keep => exact h.retain_iff source keep

theorem after_take_succ {changes : List Change} {k : ℕ} {change : Change}
    (hk : changes[k]? = some change) :
    after (changes.take (k + 1)) = (after (changes.take k)).apply change := by
  rw [List.take_add_one, hk, after, List.foldl_append]
  rfl

/-- **A sequence of changes.**  From the empty graph, every graph on the way answers
from its edges exactly as long as each insertion keeps the ends of the edge it
replaces and each retraction keeps everything it may drop. -/
theorem answers_throughout_iff (changes : List Change) :
    (∀ k ≤ changes.length, (after (changes.take k)).Answers) ↔
      ∀ k change, changes[k]? = some change → (after (changes.take k)).Keeps change := by
  constructor
  · intro hall k change hk
    have hlt := (List.getElem?_eq_some_iff.mp hk).1
    have hnext := (hall (k + 1) hlt).toIndexed
    rw [after_take_succ hk] at hnext
    exact (indexed_apply_iff (hall k (Nat.le_of_lt hlt)).toIndexed change).mp hnext
  · intro hkeeps k
    suffices hindexed : k ≤ changes.length → (after (changes.take k)).Indexed from
      fun hle => (hindexed hle).answers
    -- by the number of changes made: each is one more that keeps the indices right
    induction k with
    | zero => exact fun _ => indexed_empty
    | succ k ih =>
      intro hlt
      have hk : changes[k]? = some changes[k] := List.getElem?_eq_getElem hlt
      rw [after_take_succ hk]
      exact (indexed_apply_iff (ih (by omega)) _).mpr (hkeeps k _ hk)

/-- A retraction that drops an edge leaves its place in the index, past the end of
the edges that remain. -/
theorem dropped_edge_stays_indexed :
    let a : EntityId := ⟨⟨1⟩⟩
    let b : EntityId := ⟨⟨2⟩⟩
    let nfs : DiscoverySource := .integration "nfs"
    let graph := after [.insert ((DependencyEdge.new ⟨1⟩ a b .usesStorage).withDiscoverySource nfs),
      .retainFromSource nfs []]
    graph.edges = [] ∧ graph.outgoing[a]?.getD [] = [0] ∧ ¬ graph.Answers := by
  intro a b nfs graph
  have hindex : graph.outgoing[a]?.getD [] = [0] := by decide +kernel
  refine ⟨by decide +kernel, hindex, fun h => ?_⟩
  have hbound := h.inBounds a 0 (Or.inl (by rw [hindex]; exact List.mem_singleton.mpr rfl))
  have hempty : graph.edges.length = 0 := by decide +kernel
  omega

end DependencyGraph

end Sentinel
