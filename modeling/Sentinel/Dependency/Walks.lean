import Sentinel.Dependency.Indices

/-!
# Walks over the dependency graph

The breadth-first traversal returns every entity it can reach once, nearest first and at
its distance, however the graph is made up.  What is upstream of one entity has that
entity downstream at the same distance, and the groups of entities that share an upstream
one are read off the walks.

## Main results

* `DependencyGraph.pairwise_depth_walk` — nearest first.
* `DependencyGraph.nodup_walk` — each entity once.
* `DependencyGraph.walkFrom_rounds` — the queue is empty in the end.
* `DependencyGraph.walks_spec` — walks, shared upstream entities and groups.
-/

namespace Sentinel

namespace DependencyGraph

variable {graph : DependencyGraph} {maxDepth : Option ℕ} {direction : Direction}
  {follow : DependencyEdge → Bool}

/-! ### Order and repetition -/

/-- The queue holds entities of one depth and then of the next, so what is returned has
nondecreasing depth. -/
theorem pairwise_depth_walkFrom (rounds : ℕ) :
    ∀ (visited : List EntityId) (queue : List Reachable) (depth : ℕ),
      queue.Pairwise (fun r r' => r.depth ≤ r'.depth) →
      (∀ r ∈ queue, depth ≤ r.depth ∧ r.depth ≤ depth + 1) →
      (graph.walkFrom maxDepth direction follow rounds visited queue).Pairwise
          (fun r r' => r.depth ≤ r'.depth) ∧
        ∀ r ∈ graph.walkFrom maxDepth direction follow rounds visited queue, depth < r.depth := by
  induction rounds with
  | zero => intro visited queue depth _ _; simp [walkFrom]
  | succ rounds ih =>
    intro visited queue depth hsorted hdepth
    cases queue with
    | nil => simp [walkFrom]
    | cons current queue =>
      rw [List.pairwise_cons] at hsorted
      rw [List.forall_mem_cons] at hdepth
      obtain ⟨hcurrent, hqueue⟩ := hdepth
      rw [walkFrom]
      split
      · exact ih visited queue depth hsorted.2 hqueue
      · set found := unvisited visited (graph.neighbours direction follow current.entity)
        set level : List Reachable := found.1.map fun entity => ⟨entity, current.depth + 1⟩ with hlevel
        have hnext : ∀ r ∈ level, r.depth = current.depth + 1 := by
          intro r hr
          obtain ⟨entity, -, rfl⟩ := List.mem_map.mp hr
          rfl
        have hsame : level.Pairwise fun r r' => r.depth ≤ r'.depth := by
          refine List.pairwise_of_forall_mem_list fun r hr r' hr' => ?_
          rw [hnext r hr, hnext r' hr']
        -- the queue now starts at the depth of the entity taken off it
        have hsortedNext : (queue ++ level).Pairwise fun r r' => r.depth ≤ r'.depth := by
          refine List.pairwise_append.mpr ⟨hsorted.2, hsame, ?_⟩
          intro r hr r' hr'
          have hbound := (hqueue r hr).2
          rw [hnext r' hr']
          omega
        have hdepthNext : ∀ r ∈ queue ++ level, current.depth ≤ r.depth ∧ r.depth ≤ current.depth + 1 := by
          intro r hr
          rcases List.mem_append.mp hr with hr | hr
          · have hbound := (hqueue r hr).2
            exact ⟨hsorted.1 r hr, by omega⟩
          · rw [hnext r hr]
            omega
        obtain ⟨hsorted', hdepth'⟩ := ih found.2 (queue ++ level) current.depth hsortedNext hdepthNext
        change (level ++ graph.walkFrom maxDepth direction follow rounds found.2
          (queue ++ level)).Pairwise _ ∧ ∀ r ∈ level ++ _, _
        refine ⟨List.pairwise_append.mpr ⟨hsame, hsorted', ?_⟩, ?_⟩
        · intro r hr r' hr'
          have hlater := hdepth' r' hr'
          rw [hnext r hr]
          omega
        · intro r hr
          rcases List.mem_append.mp hr with hr | hr
          · rw [hnext r hr]
            omega
          · have hlater := hdepth' r hr
            omega

/-- **Nearest first.** -/
theorem pairwise_depth_walk (graph : DependencyGraph) (origin : EntityId) (maxDepth : Option ℕ)
    (direction : Direction) (follow : DependencyEdge → Bool) :
    (graph.walk origin maxDepth direction follow).Pairwise fun r r' => r.depth ≤ r'.depth := by
  refine (pairwise_depth_walkFrom _ [origin] [⟨origin, 0⟩] 0 (List.pairwise_singleton _ _) ?_).1
  intro r hr
  rw [List.mem_singleton.mp hr]
  exact ⟨le_rfl, Nat.zero_le 1⟩

/-- What is returned was not visited before, and is returned once. -/
theorem nodup_walkFrom (rounds : ℕ) :
    ∀ (visited : List EntityId) (queue : List Reachable),
      ((graph.walkFrom maxDepth direction follow rounds visited queue).map Reachable.entity).Nodup ∧
        ∀ r ∈ graph.walkFrom maxDepth direction follow rounds visited queue, r.entity ∉ visited := by
  induction rounds with
  | zero => intro visited queue; simp [walkFrom]
  | succ rounds ih =>
    intro visited queue
    cases queue with
    | nil => simp [walkFrom]
    | cons current queue =>
      rw [walkFrom]
      split
      · exact ih visited queue
      · set found := unvisited visited (graph.neighbours direction follow current.entity) with hfound
        set level : List Reachable := found.1.map fun entity => ⟨entity, current.depth + 1⟩
        obtain ⟨hnodup, hnew⟩ := ih found.2 (queue ++ level)
        have hentities : level.map Reachable.entity = found.1 := by
          simp [level, Function.comp_def]
        change ((level ++ graph.walkFrom maxDepth direction follow rounds found.2
          (queue ++ level)).map _).Nodup ∧ ∀ r ∈ level ++ _, _
        rw [List.map_append, hentities]
        refine ⟨(nodup_unvisited _).append hnodup fun entity hlevel hrest => ?_, ?_⟩
        · obtain ⟨r, hr, rfl⟩ := List.mem_map.mp hrest
          exact hnew r hr (mem_unvisited_snd.mpr (Or.inl hlevel))
        · intro r hr hvisited
          rcases List.mem_append.mp hr with hr | hr
          · have hr : r.entity ∈ level.map Reachable.entity := List.mem_map_of_mem hr
            rw [hentities] at hr
            exact (mem_unvisited.mp hr).2 hvisited
          · exact hnew r hr (mem_unvisited_snd.mpr (Or.inr hvisited))

/-- **Each entity once.** -/
theorem nodup_walk (graph : DependencyGraph) (origin : EntityId) (maxDepth : Option ℕ)
    (direction : Direction) (follow : DependencyEdge → Bool) :
    ((graph.walk origin maxDepth direction follow).map Reachable.entity).Nodup :=
  (nodup_walkFrom _ _ _).1

/-! ### The loop ends -/

/-- With as many rounds as there are entities in the queue and entities to visit, the
queue is empty in the end: more rounds make no difference. -/
theorem walkFrom_rounds {known : List EntityId} (hknown : known.Nodup)
    (hnext : ∀ entity, ∀ next ∈ graph.neighbours direction follow entity, next ∈ known) (more : ℕ) :
    ∀ (rounds : ℕ) (visited : List EntityId) (queue : List Reachable),
      queue.length + (known.filter (· ∉ visited)).length ≤ rounds →
      graph.walkFrom maxDepth direction follow (rounds + more) visited queue =
        graph.walkFrom maxDepth direction follow rounds visited queue := by
  intro rounds
  induction rounds with
  | zero =>
    intro visited queue hrounds
    obtain rfl : queue = [] := List.length_eq_zero_iff.mp (by omega)
    cases more <;> simp [walkFrom]
  | succ rounds ih =>
    intro visited queue hrounds
    rw [Nat.succ_add]
    cases queue with
    | nil => simp [walkFrom]
    | cons current queue =>
      rw [List.length_cons] at hrounds
      rw [walkFrom, walkFrom]
      split
      · exact ih visited queue (by omega)
      · have hlength : (unvisited visited (graph.neighbours direction follow current.entity)).1.length +
            _ ≤ _ := length_unvisited_add_le hknown (hnext current.entity)
        refine congrArg (_ ++ ·) (ih _ _ ?_)
        rw [List.length_append, List.length_map]
        omega

/-- **The loop ends**: no more rounds are needed than there are edges, and one for the
origin. -/
theorem walk_rounds (graph : DependencyGraph) (origin : EntityId) (maxDepth : Option ℕ)
    (direction : Direction) (follow : DependencyEdge → Bool) {rounds : ℕ}
    (hrounds : graph.edges.length + 1 ≤ rounds) :
    graph.walkFrom maxDepth direction follow rounds [origin] [⟨origin, 0⟩] =
      graph.walk origin maxDepth direction follow := by
  obtain ⟨ends, hnodup, hends, hfew⟩ := graph.exists_ends direction follow [origin]
  obtain ⟨more, rfl⟩ := Nat.exists_eq_add_of_le hrounds
  apply walkFrom_rounds hnodup hends
  rw [List.length_singleton]
  omega

/-! ### Both directions -/

/-- An edge leads to an entity one way exactly if it leads back the other way. -/
theorem mem_adjacent_iff (edges : List DependencyEdge) (follow : DependencyEdge → Bool) (a b : EntityId) :
    b ∈ adjacent edges .upstream follow a ↔ a ∈ adjacent edges .downstream follow b := by
  simp only [adjacent, List.mem_map, List.mem_filter, decide_eq_true_iff]
  constructor
  · rintro ⟨edge, ⟨⟨hedge, rfl⟩, hfollow⟩, rfl⟩
    exact ⟨edge, ⟨⟨hedge, rfl⟩, hfollow⟩, rfl⟩
  · rintro ⟨edge, ⟨⟨hedge, rfl⟩, hfollow⟩, rfl⟩
    exact ⟨edge, ⟨⟨hedge, rfl⟩, hfollow⟩, rfl⟩

/-- **What is upstream of an entity has it downstream**, at the same distance. -/
theorem Indexed.mem_upstream_iff (h : graph.Indexed) {a b : EntityId} {depth : ℕ} :
    (⟨b, depth⟩ : Reachable) ∈ graph.upstream a maxDepth ↔
      (⟨a, depth⟩ : Reachable) ∈ graph.downstream b maxDepth := by
  rw [upstream, downstream, mem_walk, mem_walk, h.neighbours_eq, h.neighbours_eq,
    atDistance_reverse_iff (mem_adjacent_iff graph.edges fun _ => true)]

/-! ### Groups -/

/-- **The groups** are the entities that reach one thing, where they are at least two. -/
theorem getElem?_groupBySharedUpstream {entities : List EntityId} {shared : EntityId}
    {members : Std.ExtTreeSet EntityId} :
    (graph.groupBySharedUpstream entities maxDepth)[shared]? = some members ↔
      (∀ e, e ∈ members ↔ e ∈ entities ∧
        ∃ depth, (⟨shared, depth⟩ : Reachable) ∈ graph.upstream e maxDepth) ∧ 1 < members.size := by
  set reaching := entities.flatMap fun entity =>
    (graph.upstream entity maxDepth).map fun reachable => (reachable.entity, entity) with hreaching
  have hmem : ∀ e, (shared, e) ∈ reaching ↔ e ∈ entities ∧
      ∃ depth, (⟨shared, depth⟩ : Reachable) ∈ graph.upstream e maxDepth := by
    intro e
    rw [hreaching, List.mem_flatMap]
    constructor
    · rintro ⟨entity, hentity, hpair⟩
      obtain ⟨r, hr, heq⟩ := List.mem_map.mp hpair
      cases heq
      exact ⟨hentity, r.depth, hr⟩
    · rintro ⟨hentity, depth, hr⟩
      exact ⟨e, hentity, List.mem_map.mpr ⟨_, hr, rfl⟩⟩
  have hgroup : ∀ e, e ∈ ((reaching.foldl Std.ExtTreeMap.addTo ∅)[shared]?).getD ∅ ↔
      (shared, e) ∈ reaching := by
    intro e
    rw [Std.ExtTreeMap.mem_foldl_addTo]
    simp
  rw [groupBySharedUpstream, Std.ExtTreeMap.getElem?_filter', Option.filter_eq_some_iff,
    decide_eq_true_iff]
  refine and_congr_left fun hsize => ?_
  constructor
  · intro hsome e
    rw [← hmem, ← hgroup, hsome, Option.getD_some]
  · intro hmembers
    -- a group with members is in the map, and has no others
    have hsame : ((reaching.foldl Std.ExtTreeMap.addTo ∅)[shared]?).getD ∅ = members := by
      refine Std.ExtTreeSet.ext_mem fun e => ?_
      rw [hgroup, hmem, hmembers]
    cases hheld : (reaching.foldl Std.ExtTreeMap.addTo ∅)[shared]? with
    | some group =>
      rw [hheld, Option.getD_some] at hsame
      rw [hsame]
    | none =>
      rw [hheld, Option.getD_none] at hsame
      rw [← hsame, Std.ExtTreeSet.size_empty] at hsize
      omega

/-! ### All of it -/

/-- A graph built from edges has the right indices, if an identifier always has the same
ends. -/
theorem indexed_fromEdges_of_ends {edges : List DependencyEdge}
    (hends : ∀ e ∈ edges, ∀ e' ∈ edges, e.id = e'.id → e.source = e'.source ∧ e.target = e'.target) :
    (fromEdges edges).Indexed ∧ ∀ edge ∈ (fromEdges edges).edges, edge ∈ edges := by
  induction edges using List.reverseRecOn with
  | nil => exact ⟨indexed_empty, fun edge hedge => hedge⟩
  | append_singleton edges edge ih =>
    obtain ⟨hindexed, hsubset⟩ := ih fun e he e' he' =>
      hends e (List.mem_append_left _ he) e' (List.mem_append_left _ he')
    have hlast : fromEdges (edges ++ [edge]) = (fromEdges edges).insert edge := by
      rw [fromEdges, List.foldl_append]
      rfl
    rw [hlast]
    refine ⟨(indexed_apply_iff hindexed (.insert edge)).mpr ?_, ?_⟩
    · intro held hheld
      have hid : held.id = edge.id := by simpa using List.find?_some hheld
      have hmem := hsubset held (List.mem_of_find?_eq_some hheld)
      exact hends held (List.mem_append_left _ hmem) edge (by simp) hid
    · intro e he
      rw [insert] at he
      split at he
      · rcases List.mem_or_eq_of_mem_set he with he | rfl
        · exact List.mem_append_left _ (hsubset e he)
        · simp
      · rcases List.mem_append.mp he with he | he
        · exact List.mem_append_left _ (hsubset e he)
        · exact List.mem_append_right _ he

/-- **Walks over a graph built from edges.**  In either direction and along whichever
edges, the loop of the walk ends, and it returns each entity that can be reached, other
than the origin and within the bound, once, at its distance and nearest first.  Upstream
and downstream mirror each other; what several entities share is upstream of all of them;
and a group is the set of the entities that reach one thing, if they are at least two. -/
theorem walks_spec (edges : List DependencyEdge)
    (hends : ∀ e ∈ edges, ∀ e' ∈ edges, e.id = e'.id → e.source = e'.source ∧ e.target = e'.target) :
    let graph := fromEdges edges
    (∀ origin maxDepth direction follow,
      let found := graph.walk origin maxDepth direction follow
      (∀ rounds, graph.edges.length + 1 ≤ rounds →
        graph.walkFrom maxDepth direction follow rounds [origin] [⟨origin, 0⟩] = found) ∧
      (found.map Reachable.entity).Nodup ∧ found.Pairwise (fun r r' => r.depth ≤ r'.depth) ∧
      ∀ r, r ∈ found ↔ r.entity ≠ origin ∧ (∀ limit ∈ maxDepth, r.depth ≤ limit) ∧
        AtDistance (adjacent graph.edges direction follow) r.depth origin r.entity) ∧
    (∀ a b maxDepth depth, (⟨b, depth⟩ : Reachable) ∈ graph.upstream a maxDepth ↔
      (⟨a, depth⟩ : Reachable) ∈ graph.downstream b maxDepth) ∧
    (∀ entities maxDepth e, entities ≠ [] → (e ∈ graph.sharedUpstream entities maxDepth ↔
      ∀ entity ∈ entities, e ∈ reached (graph.upstream entity maxDepth))) ∧
    ∀ entities maxDepth shared members,
      (graph.groupBySharedUpstream entities maxDepth)[shared]? = some members ↔
        (∀ e, e ∈ members ↔ e ∈ entities ∧ shared ∈ reached (graph.upstream e maxDepth)) ∧
          2 ≤ members.size := by
  intro graph
  have hindexed : graph.Indexed := (indexed_fromEdges_of_ends hends).1
  refine ⟨?_, fun a b maxDepth depth => hindexed.mem_upstream_iff, ?_, ?_⟩
  · intro origin maxDepth direction follow found
    refine ⟨fun rounds => graph.walk_rounds origin maxDepth direction follow,
      graph.nodup_walk origin maxDepth direction follow,
      graph.pairwise_depth_walk origin maxDepth direction follow, fun r => ?_⟩
    rw [mem_walk, hindexed.neighbours_eq, Nat.pos_iff_ne_zero]
    -- the origin is what is at no distance
    refine and_congr_left fun hfar => not_congr ⟨fun hzero => ?_, fun horigin => ?_⟩
    · have hat := hfar.2
      rw [hzero] at hat
      exact atDistance_zero_iff.mp hat
    · exact hfar.2.unique (atDistance_zero_iff.mpr horigin)
  · intro entities maxDepth e hsome
    rw [mem_sharedUpstream]
    simp only [mem_reached, ne_eq, hsome, not_false_eq_true, true_and]
  · intro entities maxDepth shared members
    rw [getElem?_groupBySharedUpstream]
    simp only [mem_reached]
    rfl

/-- Two clients of one storage that depends on itself: it is upstream of both, once. -/
theorem walks_spec_two_clients :
    let a : EntityId := ⟨⟨1⟩⟩
    let b : EntityId := ⟨⟨2⟩⟩
    let s : EntityId := ⟨⟨3⟩⟩
    let graph := fromEdges [.new ⟨1⟩ a s .usesStorage, .new ⟨2⟩ b s .usesStorage,
      .new ⟨3⟩ s s .dependsOn]
    graph.upstream a none = [⟨s, 1⟩] ∧ (⟨a, 1⟩ : Reachable) ∈ graph.downstream s none := by
  intro a b s graph
  have hup : graph.upstream a none = [⟨s, 1⟩] := by decide +kernel
  obtain ⟨-, hdual, -⟩ := walks_spec [.new ⟨1⟩ a s .usesStorage, .new ⟨2⟩ b s .usesStorage,
    .new ⟨3⟩ s s .dependsOn] (by decide +kernel)
  exact ⟨hup, (hdual a s none 1).mp (by rw [hup]; exact List.mem_singleton_self _)⟩

end DependencyGraph

end Sentinel
