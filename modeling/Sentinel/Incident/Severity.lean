import Sentinel.Dependency.Walks
import Sentinel.Incident.Engine

/-!
# Severity and fan-out

How serious a diagnosis is follows from its kind, from how sure it is, and from how many
entities depend on what it suspects.  Of the graph nothing else is looked at, so an edge
more or a suspect more never makes a fault less serious.

## Main definitions

* `DependencyGraph.DependsOn`, `DependencyGraph.blastRadius` — what depends on an entity,
  directly and at all.
* `Diagnosis.fanOut` — how many entities depend on one suspected root, at most.
* `Diagnosis.severityAt` — the severity at a fan-out.

## Main results

* `DependencyGraph.length_downstream` — the traversal counts the blast radius.
* `DependencyGraph.DependsOn.foldl_insert` — edges are added to what depends on what.
* `severityFor_spec` — **the severity is a monotone function of the fan-out.**
-/

namespace Sentinel

/-! ### What depends on an entity -/

namespace DependencyGraph

variable {graph graph' : DependencyGraph} {edge : DependencyEdge} {root e e' : EntityId}

/-- An entity depends on another one, as the graph answers. -/
def DependsOn (graph : DependencyGraph) (e e' : EntityId) : Prop :=
  ∃ edge ∈ graph.dependentsOf e', edge.source = e

/-- The entities that transitively depend on an entity, itself apart. -/
def blastRadius (graph : DependencyGraph) (root : EntityId) : Set EntityId :=
  {e | e ≠ root ∧ Relation.ReflTransGen graph.DependsOn e root}

/-- Where the indices are right, the edges say what depends on what. -/
theorem Indexed.dependsOn_iff (h : graph.Indexed) :
    graph.DependsOn e e' ↔ ∃ edge ∈ graph.edges, edge.source = e ∧ edge.target = e' := by
  unfold DependsOn
  rw [h.dependentsOf_eq]
  simp only [List.mem_filter, decide_eq_true_eq]
  constructor
  · rintro ⟨edge, ⟨hedge, htarget⟩, hsource⟩
    exact ⟨edge, hedge, hsource, htarget⟩
  · rintro ⟨edge, hedge, hsource, htarget⟩
    exact ⟨edge, ⟨hedge, htarget⟩, hsource⟩

theorem mem_neighbours_downstream :
    e ∈ graph.neighbours .downstream (fun _ => true) e' ↔ graph.DependsOn e e' := by
  simp [neighbours, DependsOn]

/-- **The traversal finds the blast radius.** -/
theorem mem_downstream_iff :
    e ∈ (graph.downstream root none).map Reachable.entity ↔ e ∈ graph.blastRadius root := by
  have hreached : Relation.ReflTransGen graph.DependsOn e root ↔
      ∃ n, Steps (graph.neighbours .downstream fun _ => true) n root e := by
    rw [exists_steps_iff, ← Relation.reflTransGen_swap]
    simp only [mem_neighbours_downstream]
  rw [blastRadius, Set.mem_ofPred_eq, hreached, List.mem_map]
  simp only [downstream, mem_walk]
  constructor
  · rintro ⟨r, ⟨hpos, -, hat⟩, rfl⟩
    refine ⟨fun hroot => ?_, r.depth, hat.1⟩
    -- the root is at no distance from itself
    have hzero := hat.unique (atDistance_zero_iff.mpr hroot)
    omega
  · rintro ⟨hne, n, hsteps⟩
    obtain ⟨depth, -, hat⟩ := exists_atDistance_of_steps hsteps
    refine ⟨⟨e, depth⟩, ⟨Nat.pos_of_ne_zero fun hzero => ?_, by simp, hat⟩, rfl⟩
    subst hzero
    exact hne (atDistance_zero_iff.mp hat)

theorem finite_blastRadius (graph : DependencyGraph) (root : EntityId) : (graph.blastRadius root).Finite :=
  (List.finite_toSet ((graph.downstream root none).map Reachable.entity)).subset
    fun _ he => mem_downstream_iff.mpr he

/-- **The traversal counts the blast radius.** -/
theorem length_downstream (graph : DependencyGraph) (root : EntityId) :
    (graph.downstream root none).length = (graph.blastRadius root).ncard := by
  have hset : graph.blastRadius root = ((graph.downstream root none).map Reachable.entity).toFinset := by
    apply Set.ext
    intro e
    rw [List.coe_toFinset]
    exact mem_downstream_iff.symm
  have hnodup : ((graph.downstream root none).map Reachable.entity).Nodup := graph.nodup_walk _ _ _ _
  rw [hset, Set.ncard_coe_finset, List.toFinset_card_of_nodup hnodup, List.length_map]

/-- What depends on more reaches further. -/
theorem blastRadius_mono (h : ∀ e e', graph.DependsOn e e' → graph'.DependsOn e e') :
    (graph.blastRadius root).ncard ≤ (graph'.blastRadius root).ncard :=
  Set.ncard_le_ncard (fun _ he => ⟨he.1, Relation.ReflTransGen.mono h _ _ he.2⟩) (graph'.finite_blastRadius root)

/-- Edges with the same identifier have the same ends: it is derived from them. -/
def SameEnds (edges : List DependencyEdge) : Prop :=
  ∀ e ∈ edges, ∀ e' ∈ edges, e.id = e'.id → e.source = e'.source ∧ e.target = e'.target

/-- An edge is added to what depends on what. -/
theorem DependsOn.insert (h : graph.DependsOn e e')
    (hends : ∀ held ∈ graph.edges, held.id = edge.id → held.source = edge.source) :
    (graph.insert edge).DependsOn e e' := by
  obtain ⟨held, hheld, rfl⟩ := h
  obtain ⟨place, hplace, hget⟩ := List.mem_filterMap.mp hheld
  unfold DependsOn dependentsOf DependencyGraph.insert
  simp only [List.mem_filterMap]
  split
  · next replaced hreplaced =>
    obtain ⟨hlt, hid, -⟩ := List.findIdx?_eq_some_iff_getElem.mp hreplaced
    by_cases hsame : replaced = place
    · -- the edge that is replaced had the same source
      subst hsame
      refine ⟨edge, ⟨replaced, hplace, List.getElem?_set_self hlt⟩, ?_⟩
      rw [List.getElem?_eq_getElem hlt, Option.some.injEq] at hget
      rw [hget, decide_eq_true_eq] at hid
      exact (hends held (hget ▸ List.getElem_mem hlt) hid).symm
    · exact ⟨held, ⟨place, hplace, by rw [List.getElem?_set_ne hsame, hget]⟩, rfl⟩
  · have hlt := (List.getElem?_eq_some_iff.mp hget).1
    refine ⟨held, ⟨place, ?_, by rw [List.getElem?_append_left hlt, hget]⟩, rfl⟩
    dsimp only
    rw [Std.ExtTreeMap.getElem?_insert_eq]
    split
    · next htarget =>
      subst htarget
      exact List.mem_append_left _ hplace
    · exact hplace

/-- So are many. -/
theorem DependsOn.foldl_insert (edges : List DependencyEdge) : ∀ {graph : DependencyGraph},
    SameEnds (graph.edges ++ edges) → graph.DependsOn e e' → (edges.foldl DependencyGraph.insert graph).DependsOn e e' := by
  induction edges with
  | nil => exact fun _ h => h
  | cons edge edges ih =>
    intro graph hends h
    have hedges : ∀ e ∈ (graph.insert edge).edges, e ∈ graph.edges ++ edge :: edges :=
      forall_mem_insert (fun e he => List.mem_append_left _ he)
        (List.mem_append_right _ List.mem_cons_self)
    have hsub : ∀ e ∈ (graph.insert edge).edges ++ edges, e ∈ graph.edges ++ edge :: edges := by
      intro e he
      rcases List.mem_append.mp he with he | he
      · exact hedges e he
      · exact List.mem_append_right _ (List.mem_cons_of_mem _ he)
    refine ih (fun e he e' he' => hends e (hsub e he) e' (hsub e' he')) (h.insert fun held hheld hid => ?_)
    exact (hends held (List.mem_append_left _ hheld) edge
      (List.mem_append_right _ List.mem_cons_self) hid).1

end DependencyGraph

/-! ### The severity at a fan-out -/

theorem foldl_max_le_iff {ns : List ℕ} {n : ℕ} : ∀ {m : ℕ}, ns.foldl max m ≤ n ↔ m ≤ n ∧ ∀ k ∈ ns, k ≤ n := by
  induction ns with
  | nil => simp
  | cons k ns ih =>
    intro m
    rw [List.foldl_cons, ih, List.forall_mem_cons, max_le_iff, and_assoc]

theorem greatest_le_iff {ns : List ℕ} {n : ℕ} : greatest ns ≤ n ↔ ∀ k ∈ ns, k ≤ n := by
  rw [greatest, foldl_max_le_iff]
  exact and_iff_right (Nat.zero_le n)

theorem le_greatest {ns : List ℕ} {n : ℕ} (h : n ∈ ns) : n ≤ greatest ns := greatest_le_iff.mp le_rfl n h

namespace Diagnosis

variable {d : Diagnosis} {graph graph' : DependencyGraph}

/-- How many entities depend on one suspected root, at most. -/
noncomputable def fanOut (d : Diagnosis) (graph : DependencyGraph) : ℕ :=
  greatest (d.suspectedRootEntities.map fun root => (graph.blastRadius root).ncard)

/-- The severity that a fan-out calls for. -/
def raisedTo (fanOut : ℕ) : Severity :=
  if 3 ≤ fanOut then .critical else if 1 ≤ fanOut then .warning else .info

theorem raisedTo_mono : Monotone raisedTo := by
  intro n m hle
  unfold raisedTo
  split_ifs
  all_goals first | omega | decide

/-- The two thresholds take the severity to what the fan-out calls for, and never below
where it is. -/
theorem raise_eq_max (base : Severity) (fanOut : ℕ) :
    (if 3 ≤ fanOut ∧ base < .critical then .critical
      else if 1 ≤ fanOut ∧ base < .warning then .warning
      else base) = max base (raisedTo fanOut) := by
  unfold raisedTo
  by_cases hthree : 3 ≤ fanOut
  · have hone : 1 ≤ fanOut := by omega
    simp only [hthree, hone, true_and, if_true]
    cases base <;> decide
  · by_cases hone : 1 ≤ fanOut
    · simp only [hthree, hone, true_and, false_and, if_true, if_false]
      cases base <;> decide
    · simp only [hthree, hone, false_and, if_false]
      cases base <;> decide

/-- The severity of a diagnosis at a fan-out. -/
def severityAt (d : Diagnosis) (fanOut : ℕ) : Severity :=
  if d.confidence = .low then .info else max (baseSeverity d) (raisedTo fanOut)

theorem severityAt_mono (d : Diagnosis) : Monotone d.severityAt := by
  intro n m hle
  unfold severityAt
  split_ifs
  · exact le_rfl
  · exact max_le_max le_rfl (raisedTo_mono hle)

/-- More edges make no fan-out less. -/
theorem fanOut_mono (h : ∀ e e', graph.DependsOn e e' → graph'.DependsOn e e') :
    d.fanOut graph ≤ d.fanOut graph' := by
  refine greatest_le_iff.mpr fun n hn => ?_
  obtain ⟨root, hroot, rfl⟩ := List.mem_map.mp hn
  exact (DependencyGraph.blastRadius_mono h).trans (le_greatest (List.mem_map_of_mem hroot))

/-- Nor do more roots. -/
theorem fanOut_mono_roots {roots : List EntityId} (h : d.suspectedRootEntities ⊆ roots) :
    d.fanOut graph ≤ fanOut { d with suspectedRootEntities := roots } graph := by
  refine greatest_le_iff.mpr fun n hn => ?_
  obtain ⟨root, hroot, rfl⟩ := List.mem_map.mp hn
  exact le_greatest (List.mem_map_of_mem (h hroot))

end Diagnosis

/-- The code's severity is the one at the fan-out. -/
theorem severityFor_eq (d : Diagnosis) (graph : DependencyGraph) :
    severityFor d graph = d.severityAt (d.fanOut graph) := by
  unfold severityFor Diagnosis.severityAt Diagnosis.fanOut
  simp only [DependencyGraph.length_downstream, Diagnosis.raise_eq_max]

/-- **Severity is a monotone function of the fan-out.**  A diagnosis of low confidence is
informational, any other one at least as serious as it is on its own.  The graph counts
only through the fan-out; edges and roots that are added make nothing less serious; and
the traversal ends, whatever cycles there are. -/
theorem severityFor_spec (d : Diagnosis) (graph : DependencyGraph) :
    (d.confidence = .low → severityFor d graph = .info) ∧
    (d.confidence ≠ .low → baseSeverity d ≤ severityFor d graph) ∧
    (∃ severity : ℕ → Severity, Monotone severity ∧ ∀ graph, severityFor d graph = severity (d.fanOut graph)) ∧
    (∀ edges, DependencyGraph.SameEnds (graph.edges ++ edges) →
      severityFor d graph ≤ severityFor d (edges.foldl DependencyGraph.insert graph)) ∧
    (∀ roots, d.suspectedRootEntities ⊆ roots →
      severityFor d graph ≤ severityFor { d with suspectedRootEntities := roots } graph) ∧
    (∀ root rounds, graph.edges.length + 1 ≤ rounds →
      graph.walkFrom none .downstream (fun _ => true) rounds [root] [⟨root, 0⟩] = graph.downstream root none) ∧
    (graph.Indexed → ∀ e e', graph.DependsOn e e' ↔ ∃ edge ∈ graph.edges, edge.source = e ∧ edge.target = e') := by
  refine ⟨fun hlow => if_pos hlow, fun hconfident => ?_, ⟨d.severityAt, d.severityAt_mono, severityFor_eq d⟩,
    fun edges hends => ?_, fun roots hroots => ?_, fun root rounds => graph.walk_rounds root none _ _,
    fun hindexed e e' => hindexed.dependsOn_iff⟩
  · rw [severityFor_eq, Diagnosis.severityAt, if_neg hconfident]
    exact le_max_left _ _
  · rw [severityFor_eq, severityFor_eq]
    exact d.severityAt_mono (Diagnosis.fanOut_mono fun e e' => DependencyGraph.DependsOn.foldl_insert edges hends)
  · rw [severityFor_eq, severityFor_eq]
    -- the roots decide the fan-out only
    change d.severityAt _ ≤ d.severityAt _
    exact d.severityAt_mono (Diagnosis.fanOut_mono_roots hroots)

/-- A client is added to a storage that depends on a host that depends on it. -/
theorem severityFor_spec_of_cycle :
    let host : EntityId := ⟨⟨1⟩⟩
    let storage : EntityId := ⟨⟨2⟩⟩
    let client : EntityId := ⟨⟨3⟩⟩
    let d : Diagnosis := ⟨Kind.hostRebooted, [host], [], .high, [], ⟨"boot"⟩, "", []⟩
    let graph := DependencyGraph.fromEdges [.new ⟨1⟩ host storage .usesStorage, .new ⟨2⟩ storage host .hostedOn]
    let more := graph.insert (.new ⟨3⟩ client storage .usesStorage)
    severityFor d graph = .info ∧ severityFor { d with suspectedRootEntities := [host] } graph = .warning ∧
      severityFor { d with suspectedRootEntities := [host] } graph ≤
        severityFor { d with suspectedRootEntities := [host] } more := by
  intro host storage client d graph more
  refine ⟨by decide +kernel, by decide +kernel, ?_⟩
  obtain ⟨-, -, -, hedges, -⟩ := severityFor_spec { d with suspectedRootEntities := [host] } graph
  refine hedges [.new ⟨3⟩ client storage .usesStorage] ?_
  unfold DependencyGraph.SameEnds
  decide +kernel

end Sentinel
