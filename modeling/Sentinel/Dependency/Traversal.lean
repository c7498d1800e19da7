import Sentinel.Dependency
import Sentinel.Lib.Reach

/-!
# What a traversal returns

The breadth-first traversal returns each entity that can be reached, once, with its
distance from the origin: whatever the indices say the neighbours are, the rounds
the traversal is given empty its queue.

## Main results

* `DependencyGraph.mem_walk` — an entity is returned at a depth exactly when it is
  at that distance, and the distance is not beyond the bound.
* `DependencyGraph.mem_sharedUpstream` — what is shared is upstream of every one.
-/

namespace Sentinel

namespace DependencyGraph

variable {graph : DependencyGraph} {maxDepth : Option ℕ} {direction : Direction}
  {follow : DependencyEdge → Bool} {visited frontier : List EntityId} {depth rounds : ℕ}
  {origin : EntityId}

/-! ### One level of the traversal -/

/-- The entities not visited yet are the first occurrences, and they are put before
the visited ones. -/
theorem unvisited_eq (next : List EntityId) :
    ∀ visited : List EntityId, unvisited visited next =
      (List.firstsFrom id visited next, (List.firstsFrom id visited next).reverse ++ visited) := by
  induction next with
  | nil => intro visited; rfl
  | cons entity rest ih =>
    intro visited
    rw [unvisited, List.firstsFrom, id]
    split
    · exact ih visited
    · rw [ih, List.reverse_cons, List.append_assoc, List.singleton_append]

theorem mem_unvisited {next : List EntityId} {entity : EntityId} :
    entity ∈ (unvisited visited next).1 ↔ entity ∈ next ∧ entity ∉ visited := by
  have h : entity ∈ (List.firstsFrom id visited next).map id ↔
      entity ∈ next.map id ∧ entity ∉ visited := List.mem_map_firstsFrom
  rw [List.map_id, List.map_id] at h
  rw [unvisited_eq]
  exact h

theorem mem_unvisited_snd {next : List EntityId} {entity : EntityId} :
    entity ∈ (unvisited visited next).2 ↔ entity ∈ (unvisited visited next).1 ∨ entity ∈ visited := by
  simp [unvisited_eq]

theorem nodup_unvisited (next : List EntityId) : (unvisited visited next).1.Nodup := by
  have h : ((List.firstsFrom id visited next).map id).Nodup := List.nodup_firstsFrom
  rw [List.map_id] at h
  rw [unvisited_eq]
  exact h

/-- The traversal takes a level off the queue and puts the next one behind what
waits there. -/
theorem walkFrom_level (hdepth : ¬ maxDepth.any (fun limit => limit ≤ depth) = true)
    (frontier : List EntityId) :
    ∀ (visited : List EntityId) (queue : List Reachable),
      let level := unvisited visited
        (frontier.flatMap (graph.neighbours direction follow))
      let reached := level.1.map fun entity => (⟨entity, depth + 1⟩ : Reachable)
      graph.walkFrom maxDepth direction follow (frontier.length + rounds) visited
          (frontier.map (fun entity => ⟨entity, depth⟩) ++ queue) =
        reached ++ graph.walkFrom maxDepth direction follow rounds level.2 (queue ++ reached) := by
  induction frontier with
  | nil => intro visited queue; simp [unvisited]
  | cons entity frontier ih =>
    intro visited queue
    rw [List.length_cons, Nat.add_right_comm, List.map_cons, List.cons_append, walkFrom,
      if_neg hdepth]
    -- the rest of the level waits before what this entity leads to
    have hrest := ih (unvisited visited (graph.neighbours direction follow entity)).2
      (queue ++ ((unvisited visited (graph.neighbours direction follow entity)).1.map
        fun entity => ⟨entity, depth + 1⟩))
    simp only [unvisited_eq, List.append_assoc] at hrest
    simp only [unvisited_eq, List.flatMap_cons, List.firstsFrom_append, List.map_id,
      List.map_append, List.reverse_append, List.append_assoc, hrest]

/-- At the depth bound nothing is expanded. -/
theorem walkFrom_limited (hdepth : maxDepth.any (fun limit => limit ≤ depth) = true)
    (frontier : List EntityId) :
    ∀ rounds : ℕ, graph.walkFrom maxDepth direction follow rounds visited
      (frontier.map fun entity => ⟨entity, depth⟩) = [] := by
  induction frontier with
  | nil => intro rounds; cases rounds <;> rfl
  | cons entity frontier ih =>
    intro rounds
    cases rounds with
    | zero => rfl
    | succ rounds => rw [List.map_cons, walkFrom, if_pos hdepth, ih]

/-! ### The whole traversal -/

/-- A level takes as many rounds as it found entities, and those are visited
after it. -/
theorem length_unvisited_add_le {known next : List EntityId} (hknown : known.Nodup)
    (hnext : ∀ entity ∈ next, entity ∈ known) :
    (unvisited visited next).1.length + (known.filter (· ∉ (unvisited visited next).2)).length ≤
      (known.filter (· ∉ visited)).length := by
  rw [← List.length_append]
  refine List.Subperm.length_le (List.Nodup.subperm ?_ ?_)
  · refine (nodup_unvisited next).append (hknown.filter _) fun entity hfound hrest => ?_
    have hnot := of_decide_eq_true (List.mem_filter.mp hrest).2
    exact hnot (mem_unvisited_snd.mpr (Or.inl hfound))
  · intro entity h
    rw [List.mem_filter, decide_eq_true_eq]
    rcases List.mem_append.mp h with hfound | hrest
    · obtain ⟨hmem, hnot⟩ := mem_unvisited.mp hfound
      exact ⟨hnext entity hmem, hnot⟩
    · obtain ⟨hmem, hnot⟩ := List.mem_filter.mp hrest
      exact ⟨hmem, fun hv => of_decide_eq_true hnot (mem_unvisited_snd.mpr (Or.inr hv))⟩

/-- **The traversal from a whole level.**  With everything nearer visited, it returns
exactly what is further out, each at its distance. -/
theorem mem_walkFrom {known : List EntityId} (hknown : known.Nodup)
    (hnext : ∀ entity, ∀ next ∈ graph.neighbours direction follow entity, next ∈ known)
    {r : Reachable} :
    ∀ {rounds depth : ℕ} {visited frontier : List EntityId},
      (∀ x, x ∈ frontier ↔ AtDistance (graph.neighbours direction follow) depth origin x) →
      (∀ x, x ∈ visited ↔
        ∃ m ≤ depth, AtDistance (graph.neighbours direction follow) m origin x) →
      frontier.length + (known.filter (· ∉ visited)).length ≤ rounds →
      (r ∈ graph.walkFrom maxDepth direction follow rounds visited
          (frontier.map fun entity => ⟨entity, depth⟩) ↔
        depth < r.depth ∧ (∀ limit ∈ maxDepth, r.depth ≤ limit) ∧
          AtDistance (graph.neighbours direction follow) r.depth origin r.entity) := by
  intro rounds
  induction rounds using Nat.strong_induction_on with
  | _ rounds ih =>
    intro depth visited frontier hfrontier hvisited hrounds
    by_cases hnil : frontier = []
    · -- an empty level: nothing is further out
      subst hnil
      have hnone : ∀ x, ¬ AtDistance (graph.neighbours direction follow) depth origin x :=
        fun x hx => List.not_mem_nil ((hfrontier x).mpr hx)
      have hempty : graph.walkFrom maxDepth direction follow rounds visited [] = [] := by
        cases rounds <;> rfl
      rw [List.map_nil, hempty]
      exact iff_of_false List.not_mem_nil
        fun h => not_atDistance_of_le hnone (Nat.le_of_lt h.1) h.2.2
    by_cases hlimit : maxDepth.any (fun limit => limit ≤ depth) = true
    · rw [walkFrom_limited hlimit]
      refine iff_of_false List.not_mem_nil fun h => ?_
      obtain ⟨limit, hlim, hle⟩ := (Option.any_eq_true _ _).mp hlimit
      have hbound := h.2.1 limit hlim
      have hle := of_decide_eq_true hle
      omega
    -- one level, and then the traversal from the next one
    obtain ⟨rest, rfl⟩ := Nat.exists_eq_add_of_le (Nat.le_of_add_right_le hrounds)
    set found := unvisited visited (frontier.flatMap (graph.neighbours direction follow)) with hfound
    have hfoundmem : ∀ x, x ∈ found.1 ↔
        AtDistance (graph.neighbours direction follow) (depth + 1) origin x := by
      intro x
      rw [hfound, mem_unvisited, List.mem_flatMap, hvisited, atDistance_succ_iff]
      constructor
      · rintro ⟨⟨c, hc, hx⟩, hnot⟩
        exact ⟨⟨c, (hfrontier c).mp hc, hx⟩, fun m hm h => hnot ⟨m, hm, h⟩⟩
      · rintro ⟨⟨c, hc, hx⟩, hnot⟩
        exact ⟨⟨c, (hfrontier c).mpr hc, hx⟩, fun ⟨m, hm, h⟩ => hnot m hm h⟩
    have hvisited' : ∀ x, x ∈ found.2 ↔
        ∃ m ≤ depth + 1, AtDistance (graph.neighbours direction follow) m origin x := by
      intro x
      rw [hfound, mem_unvisited_snd, ← hfound, hfoundmem, hvisited]
      constructor
      · rintro (h | ⟨m, hm, h⟩)
        · exact ⟨depth + 1, le_rfl, h⟩
        · exact ⟨m, by omega, h⟩
      · rintro ⟨m, hm, h⟩
        rcases Nat.lt_or_ge depth m with hlt | hge
        · obtain rfl : m = depth + 1 := by omega
          exact Or.inl h
        · exact Or.inr ⟨m, hge, h⟩
    have hrest : found.1.length + (known.filter (· ∉ found.2)).length ≤ rest := by
      refine le_trans (length_unvisited_add_le hknown ?_) (Nat.add_le_add_iff_left.mp hrounds)
      intro entity h
      obtain ⟨c, -, hc⟩ := List.mem_flatMap.mp h
      exact hnext c entity hc
    have hpos : 0 < frontier.length := List.length_pos_iff.mpr hnil
    have hlevel : graph.walkFrom maxDepth direction follow (frontier.length + rest) visited
        (frontier.map (fun entity => ⟨entity, depth⟩) ++ []) = _ :=
      walkFrom_level hlimit frontier visited []
    simp only [List.append_nil, List.nil_append] at hlevel
    rw [hlevel, List.mem_append, ih rest (by omega) hfoundmem hvisited' hrest]
    have hdepth : ∀ limit ∈ maxDepth, depth + 1 ≤ limit := by
      intro limit hlim
      by_contra hgt
      exact hlimit ((Option.any_eq_true _ _).mpr ⟨limit, hlim, decide_eq_true (by omega)⟩)
    obtain ⟨entity, d⟩ := r
    constructor
    · rintro (h | ⟨hlt, hlim, hat⟩)
      · obtain ⟨x, hx, heq⟩ := List.mem_map.mp h
        cases heq
        exact ⟨Nat.lt_succ_self depth, hdepth, (hfoundmem _).mp hx⟩
      · exact ⟨by omega, hlim, hat⟩
    · rintro ⟨hlt, hlim, hat⟩
      rcases Nat.lt_or_ge (depth + 1) d with hfar | hnear
      · exact Or.inr ⟨hfar, hlim, hat⟩
      · obtain rfl : d = depth + 1 := by
          change depth < d at hlt
          omega
        exact Or.inl (List.mem_map.mpr ⟨entity, (hfoundmem _).mpr hat, rfl⟩)

/-- Every neighbour is an end of some edge. -/
theorem neighbours_mem_ends (entity next : EntityId)
    (h : next ∈ graph.neighbours direction follow entity) :
    next ∈ graph.edges.map (match direction with
      | .upstream => DependencyEdge.target
      | .downstream => DependencyEdge.source) := by
  have hlisted : ∀ {places : List ℕ} {edge : DependencyEdge},
      edge ∈ places.filterMap (fun place => graph.edges[place]?) → edge ∈ graph.edges := by
    intro places edge h
    obtain ⟨place, -, hplace⟩ := List.mem_filterMap.mp h
    exact List.mem_of_getElem? hplace
  cases direction with
  | upstream =>
    obtain ⟨edge, hedge, rfl⟩ := List.mem_map.mp h
    exact List.mem_map_of_mem (hlisted (List.mem_of_mem_filter hedge))
  | downstream =>
    obtain ⟨edge, hedge, rfl⟩ := List.mem_map.mp h
    exact List.mem_map_of_mem (hlisted (List.mem_of_mem_filter hedge))

/-- The ends to which edges lead are no more than the edges. -/
theorem exists_ends (graph : DependencyGraph) (direction : Direction) (follow : DependencyEdge → Bool)
    (visited : List EntityId) :
    ∃ ends : List EntityId, ends.Nodup ∧
      (∀ entity, ∀ next ∈ graph.neighbours direction follow entity, next ∈ ends) ∧
      (ends.filter (· ∉ visited)).length ≤ graph.edges.length := by
  set ends := graph.edges.map (match direction with
    | .upstream => DependencyEdge.target
    | .downstream => DependencyEdge.source) with hends
  refine ⟨ends.dedup, ends.nodup_dedup, fun entity next h => ?_, ?_⟩
  · exact List.mem_dedup.mpr (neighbours_mem_ends entity next h)
  · have hfilter := List.length_filter_le (fun x => decide (x ∉ visited)) ends.dedup
    have hdedup : ends.dedup.length ≤ ends.length := (List.dedup_sublist ends).length_le
    have hlength : ends.length = graph.edges.length := by rw [hends, List.length_map]
    omega

/-- **The traversal returns what can be reached.**  An entity is returned at a depth
exactly when that is its distance from the origin, the origin itself apart, and the
distance is within the bound. -/
theorem mem_walk {r : Reachable} : r ∈ graph.walk origin maxDepth direction follow ↔
    0 < r.depth ∧ (∀ limit ∈ maxDepth, r.depth ≤ limit) ∧
      AtDistance (graph.neighbours direction follow) r.depth origin r.entity := by
  obtain ⟨ends, hnodup, hends, hfew⟩ := graph.exists_ends direction follow [origin]
  refine mem_walkFrom hnodup hends (fun x => ?_ : ∀ x, x ∈ [origin] ↔ _) ?_ ?_
  · simp
  · intro x
    simp
  · rw [List.length_singleton]
    omega

/-! ### What is shared -/

theorem mem_reached {found : List Reachable} {entity : EntityId} :
    entity ∈ reached found ↔ ∃ depth, (⟨entity, depth⟩ : Reachable) ∈ found := by
  rw [reached, Std.ExtTreeSet.mem_ofList, List.contains_iff_mem, List.mem_map]
  constructor
  · rintro ⟨⟨e, d⟩, h, rfl⟩
    exact ⟨d, h⟩
  · rintro ⟨d, h⟩
    exact ⟨_, h, rfl⟩

theorem mem_sharedWith {entity : EntityId} (entities : List EntityId) :
    ∀ shared : Std.ExtTreeSet EntityId, entity ∈ graph.sharedWith maxDepth shared entities ↔
      entity ∈ shared ∧ ∀ e ∈ entities, entity ∈ reached (graph.upstream e maxDepth) := by
  induction entities with
  | nil => intro shared; simp [sharedWith]
  | cons first rest ih =>
    intro shared
    have hfilter : ∀ e, e ∈ shared.filter (fun e => (reached (graph.upstream first maxDepth)).contains e) ↔
        e ∈ shared ∧ e ∈ reached (graph.upstream first maxDepth) := by
      intro e
      simp [Std.ExtTreeSet.mem_filter]
    rw [sharedWith]
    split
    · next hempty =>
      -- nothing is shared any more, so nothing is shared by all
      rw [List.forall_mem_cons, ← and_assoc, ← hfilter]
      refine ⟨fun h => ?_, fun h => h.1⟩
      rw [Std.ExtTreeSet.isEmpty_iff] at hempty
      rw [hempty] at h
      exact absurd h Std.ExtTreeSet.not_mem_empty
    · rw [ih, hfilter, List.forall_mem_cons, and_assoc]

/-- What is shared is upstream of every one of the entities. -/
theorem mem_sharedUpstream {entity : EntityId} {entities : List EntityId} :
    entity ∈ graph.sharedUpstream entities maxDepth ↔
      entities ≠ [] ∧ ∀ e ∈ entities, ∃ depth, (⟨entity, depth⟩ : Reachable) ∈ graph.upstream e maxDepth := by
  cases entities with
  | nil => simp [sharedUpstream]
  | cons first rest =>
    rw [sharedUpstream, mem_sharedWith, List.forall_mem_cons]
    simp only [mem_reached, ne_eq, List.cons_ne_nil, not_false_eq_true, true_and]

end DependencyGraph

end Sentinel
