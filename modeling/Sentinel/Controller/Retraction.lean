import Sentinel.Controller.Discovery

/-!
# Who reported an edge

An edge carries one discovery source, which every new report overwrites, and a
retraction of a source drops the edges attributed to it.  Only the storage topology
is retracted; the edges of the other providers stay until somebody reports them again.

So a topology that drops an edge removes it although another source still reports it,
when the topology was the last to report it.  And an edge that a provider no longer
declares stays, unless it was the topology's.

## Main definitions

* `lastReporter`, `latest` — who reported an edge last; the last snapshot of a source.
* `Cycle.Tracks` — after a cycle, the edges attributed to a provider that answered are
  those of its snapshot.

## Main results

* `Tables.attributed_run` — an edge attributed to the topology was reported by it last.
* `Cycle.survives_retraction` — which edges survive a retraction.
* `Cycle.tracks_iff` — when a cycle attributes to every provider what it reported.
-/

namespace Sentinel

variable {names : Uuid → Relation} {topologySource : DiscoverySource} {tables : Tables}
  {cycle : Cycle} {log : List Update} {row edge : DependencyEdge} {id : Uuid}
  {history history' : List InventorySnapshot}

/-! ### Reports of an edge -/

/-- The source of the last snapshot that holds an edge. -/
def lastReporter (history : List InventorySnapshot) (id : Uuid) : Option DiscoverySource :=
  (history.reverse.find? fun snapshot => id ∈ snapshot.edgeIds).map InventorySnapshot.source

/-- The last snapshot of a source. -/
def latest (history : List InventorySnapshot) (source : DiscoverySource) : Option InventorySnapshot :=
  history.reverse.find? fun snapshot => snapshot.source = source

/-- Whether the last snapshot of another source holds an edge. -/
def ReportedElsewhere (history : List InventorySnapshot) (source : DiscoverySource) (id : Uuid) : Prop :=
  ∃ other ≠ source, ∃ snapshot, latest history other = some snapshot ∧ id ∈ snapshot.edgeIds

/-- Snapshots that do not hold an edge do not change who reported it last. -/
theorem lastReporter_append_of_forall_notMem (h : ∀ snapshot ∈ history', id ∉ snapshot.edgeIds) :
    lastReporter (history ++ history') id = lastReporter history id := by
  have hnone : history'.reverse.find? (fun snapshot => id ∈ snapshot.edgeIds) = none := by
    rw [List.find?_eq_none]
    intro snapshot hsnapshot
    simpa using h snapshot (List.mem_reverse.mp hsnapshot)
  rw [lastReporter, lastReporter, List.reverse_append, List.find?_append, hnone, Option.none_or]

/-- The last of some snapshots reported an edge last, if it holds it. -/
theorem lastReporter_concat {snapshot : InventorySnapshot} (h : id ∈ snapshot.edgeIds) :
    lastReporter (history ++ [snapshot]) id = some snapshot.source := by
  rw [lastReporter, List.reverse_append, List.reverse_singleton, List.singleton_append,
    List.find?_cons_of_pos (by simpa using h), Option.map_some]

theorem mem_of_lastReporter {source : DiscoverySource} (h : lastReporter history id = some source) :
    ∃ snapshot ∈ history, snapshot.source = source := by
  obtain ⟨snapshot, hfind, hsource⟩ := Option.map_eq_some_iff.mp h
  exact ⟨snapshot, List.mem_reverse.mp (List.mem_of_find?_eq_some hfind), hsource⟩

namespace Tables

/-- **An edge attributed to the topology was reported by it last.** -/
theorem attributed_run (hrun : (discovery topologySource names).Run log tables) :
    ∀ row ∈ tables.dependencies, row.discoverySource = topologySource →
      lastReporter (reports log) row.id = some topologySource := by
  refine hrun.invariant (P := fun log tables => ∀ row ∈ tables.dependencies,
    row.discoverySource = topologySource → lastReporter (reports log) row.id = some topologySource) ?_ ?_
  · rintro tables rfl row hrow
    exact absurd hrow List.not_mem_nil
  · intro log tables update hrun ih hallowed row hrow hsource
    have hsound := Sound.run hrun
    rw [reports_concat]
    cases update with
    | ingest snapshot =>
      have hnames := hallowed.1 snapshot List.mem_cons_self
      have hheld := hsound.held.merge snapshot hsound.named (by simpa using hnames)
      have hmem := (hsound.mem_dependencies_ingestSnapshot hnames).mp hrow
      rcases hheld.origin row hmem with hoffer | ⟨hbefore, hnone⟩
      · rw [List.nil_append] at hoffer
        rw [← hsource, snapshot.stamped row hoffer]
        exact lastReporter_concat (List.mem_map_of_mem hoffer)
      · refine (lastReporter_append_of_forall_notMem ?_).trans (ih row hbefore hsource)
        rintro s hs hid
        rw [Update.snapshots, List.mem_singleton] at hs
        obtain ⟨edge, hedge, heq⟩ := List.mem_map.mp (hs ▸ hid)
        exact hnone edge hedge heq
    | discover cycle =>
      have hmem := (mem_edges_inventory.mp ((hsound.mem_dependencies_discoverOnce hallowed.1).mp hrow)).1
      rcases (hsound.held_merged hallowed.1).origin row hmem with hoffer | ⟨hbefore, hnone⟩
      · -- only the topology, which comes last, reports for its source
        obtain ⟨snapshot, hsnapshot, hoffer⟩ := List.mem_flatMap.mp hoffer
        have hstamp := (snapshot.stamped row hoffer).symm.trans hsource
        rcases List.mem_append.mp hsnapshot with hprovider | htopology
        · exact absurd hstamp (hallowed.2.2 snapshot hprovider)
        · rw [Option.mem_toList] at htopology
          rw [Update.snapshots, Cycle.snapshots, htopology, Option.toList_some, ← List.append_assoc,
            lastReporter_concat (List.mem_map_of_mem hoffer), hstamp]
      · refine (lastReporter_append_of_forall_notMem ?_).trans (ih row hbefore hsource)
        intro s hs hid
        obtain ⟨edge, hedge, heq⟩ := List.mem_map.mp hid
        exact hnone edge (List.mem_flatMap.mpr ⟨s, hs, hedge⟩) heq

end Tables

/-! ### Which edges survive a retraction -/

namespace Cycle

/-- **Which edges survive a retraction.**  In every run, a cycle whose topology does
not drop an edge that it was the last to report and that another source's last
snapshot holds removes no edge that another source's last snapshot holds: neither from
the inventory nor from the stored dependencies. -/
theorem survives_retraction (hrun : (discovery topologySource names).Run log tables)
    (hallowed : (discovery topologySource names).Allowed tables (.discover cycle))
    {topology : InventorySnapshot} (htopology : cycle.topology = some topology)
    (hlast : ∀ id, id ∉ topology.edgeIds →
      ReportedElsewhere (reports log ++ cycle.snapshots) topologySource id →
      lastReporter (reports log ++ cycle.providers) id ≠ some topologySource) :
    ∀ edge ∈ (cycle.merged tables).graph.edges,
      ReportedElsewhere (reports log ++ cycle.snapshots) topologySource edge.id →
      edge ∈ ((cycle.merged tables).retractAbsentDependencies topology).graph.edges ∧
      edge ∈ (tables.discoverOnce cycle).dependencies := by
  intro edge hedge helsewhere
  have hsound := Tables.Sound.run hrun
  have hinventory : cycle.inventory tables =
      (cycle.merged tables).retractAbsentDependencies topology := by rw [inventory, htopology]
  suffices hkeep : edge ∈ (cycle.inventory tables).graph.edges by
    exact ⟨hinventory ▸ hkeep, (hsound.mem_dependencies_discoverOnce hallowed.1).mpr hkeep⟩
  refine Tables.mem_edges_inventory.mpr ⟨hedge, fun t ht hsource => ?_⟩
  obtain rfl : topology = t := Option.some.inj (htopology.symm.trans ht)
  rw [hallowed.2.1 topology ht] at hsource
  rcases (hsound.held_merged hallowed.1).origin edge hedge with hoffer | ⟨hbefore, hnone⟩
  · exact Tables.reported_of_mem_offers hoffer ht (hsource.trans (hallowed.2.1 topology ht).symm)
  · -- nobody reported it in this cycle, so the topology was the last to do so
    have hnobody : ∀ s ∈ cycle.snapshots, edge.id ∉ s.edgeIds := by
      intro s hs hid
      obtain ⟨e, he, heq⟩ := List.mem_map.mp hid
      exact hnone e (List.mem_flatMap.mpr ⟨s, hs, he⟩) heq
    have hmem : topology ∈ cycle.snapshots :=
      List.mem_append_right _ (Option.mem_toList.mpr htopology)
    refine absurd ?_ (hlast edge.id (hnobody topology hmem) helsewhere)
    rw [lastReporter_append_of_forall_notMem fun s hs => hnobody s (List.mem_append_left _ hs)]
    exact Tables.attributed_run hrun edge hbefore hsource

/-- An edge the topology never reported survives what it drops. -/
theorem survives_retraction_of_another :
    let a : EntityId := ⟨⟨1⟩⟩
    let b : EntityId := ⟨⟨2⟩⟩
    let edge := (DependencyEdge.new ⟨1⟩ a b .usesStorage).withDiscoverySource .manual
    let manual := (((InventorySnapshot.new .manual).addEntity (.new a .host "a") rfl).addEntity
      (.new b .storage "b") rfl).addDependency edge
    let quiet := InventorySnapshot.new (.integration "nfs")
    let cycle : Cycle := ⟨[some (.new .staticConfig)], some quiet, by decide⟩
    let tables := (Tables.mk ∅ []).ingestSnapshot manual
    edge ∈ ((cycle.merged tables).retractAbsentDependencies quiet).graph.edges ∧
      edge ∈ (tables.discoverOnce cycle).dependencies := by
  intro a b edge manual quiet cycle tables
  have hrun : (discovery (.integration "nfs") fun _ => edge.relation).Run [.ingest manual] tables := by
    refine Machine.Run.snoc (.init rfl) ⟨?_, trivial⟩
    intro snapshot hsnapshot e he
    rw [Update.snapshots, List.mem_singleton] at hsnapshot
    rw [hsnapshot] at he
    rw [List.mem_singleton.mp he]
    rfl
  refine survives_retraction hrun ⟨?_, ?_, ?_⟩ rfl ?_ edge (by decide +kernel) ?_
  · intro snapshot hsnapshot e he
    have hempty : ∀ s ∈ cycle.snapshots, s.dependencies = [] := by
      simp [cycle, Cycle.snapshots, Cycle.providers, quiet, InventorySnapshot.new]
    rw [hempty snapshot hsnapshot] at he
    exact absurd he List.not_mem_nil
  · rintro topology ⟨⟩
    rfl
  · intro snapshot hsnapshot
    rw [List.mem_singleton.mp hsnapshot]
    exact DiscoverySource.noConfusion
  · intro id _ _ hlast
    obtain ⟨snapshot, hsnapshot, hsource⟩ := mem_of_lastReporter hlast
    have hother : ∀ s ∈ reports [.ingest manual] ++ cycle.providers, s.source ≠ .integration "nfs" := by
      decide
    exact hother snapshot hsnapshot hsource
  · exact ⟨.manual, by decide, manual, rfl, by decide⟩

/-- The topology reports an edge that another source declared, and then drops it: it
is gone, although the other source's last snapshot holds it. -/
theorem dropped_though_reported_elsewhere :
    let a : EntityId := ⟨⟨1⟩⟩
    let b : EntityId := ⟨⟨2⟩⟩
    let edge := DependencyEdge.new ⟨1⟩ a b .usesStorage
    let manual := (((InventorySnapshot.new .manual).addEntity (.new a .host "a") rfl).addEntity
      (.new b .storage "b") rfl).addDependency edge
    let nfs := (InventorySnapshot.new (.integration "nfs")).addDependency edge
    let quiet := InventorySnapshot.new (.integration "nfs")
    let first : Cycle := ⟨[some (.new .staticConfig)], some nfs, by decide⟩
    let second : Cycle := ⟨[some (.new .staticConfig)], some quiet, by decide⟩
    let tables := ((Tables.mk ∅ []).ingestSnapshot manual).discoverOnce first
    let history := reports [.ingest manual, .discover first] ++ second.snapshots
    ReportedElsewhere history (.integration "nfs") edge.id ∧
      edge.id ∈ (second.merged tables).graph.ids ∧
      edge.id ∉ ((second.merged tables).retractAbsentDependencies quiet).graph.ids ∧
      edge.id ∈ tables.dependencies.map DependencyEdge.id ∧
      edge.id ∉ (tables.discoverOnce second).dependencies.map DependencyEdge.id := by
  intro a b edge manual nfs quiet first second tables history
  exact ⟨⟨.manual, by decide, manual, rfl, by decide⟩, by decide +kernel, by decide +kernel,
    by decide +kernel, by decide +kernel⟩

/-! ### What is attributed to a provider -/

/-- After the cycle, the edges attributed to a provider that answered are those of its
snapshot whose ends are known, in the inventory and in the stored dependencies; and
the edges of a provider that did not answer are still there. -/
def Tracks (cycle : Cycle) (tables : Tables) : Prop :=
  (∀ snapshot ∈ cycle.snapshots, ∀ id,
    ((∃ edge ∈ (cycle.inventory tables).graph.edges,
        edge.id = id ∧ edge.discoverySource = snapshot.source) ↔
      ∃ edge ∈ snapshot.dependencies, edge.id = id ∧ cycle.Knows tables edge) ∧
    ((∃ row ∈ (tables.discoverOnce cycle).dependencies,
        row.id = id ∧ row.discoverySource = snapshot.source) ↔
      ∃ edge ∈ snapshot.dependencies, edge.id = id ∧ cycle.Knows tables edge)) ∧
  ∀ row ∈ tables.dependencies, row.discoverySource ∉ cycle.snapshots.map InventorySnapshot.source →
    row.id ∈ (cycle.inventory tables).graph.ids ∧
    row.id ∈ (tables.discoverOnce cycle).dependencies.map DependencyEdge.id

/-- No edge with known ends is in two snapshots of the cycle. -/
def Apart (cycle : Cycle) (tables : Tables) : Prop :=
  ∀ s ∈ cycle.snapshots, ∀ s' ∈ cycle.snapshots, ∀ edge ∈ s.dependencies, ∀ edge' ∈ s'.dependencies,
    edge.id = edge'.id → cycle.Knows tables edge → s.source = s'.source

/-- Every stored edge of a provider that answered, the topology apart, is in some
snapshot of the cycle. -/
def Renewed (cycle : Cycle) (tables : Tables) : Prop :=
  ∀ row ∈ tables.dependencies, row.discoverySource ∈ cycle.providers.map InventorySnapshot.source →
    ∃ snapshot ∈ cycle.snapshots, row.id ∈ snapshot.edgeIds

/-- A stored edge that nobody reports and that is not the topology's stays. -/
theorem mem_inventory_of_unreported (hsound : tables.Sound names)
    (hnames : ∀ snapshot ∈ cycle.snapshots, ∀ edge ∈ snapshot.dependencies, edge.Names names)
    (hrow : row ∈ tables.dependencies)
    (htopology : ∀ topology ∈ cycle.topology, row.discoverySource ≠ topology.source)
    (hnone : ∀ snapshot ∈ cycle.snapshots, row.id ∉ snapshot.edgeIds) :
    row ∈ (cycle.inventory tables).graph.edges := by
  have hheld := hsound.held_merged hnames
  obtain ⟨edge, hedge, hid⟩ := List.mem_map.mp (hheld.kept row hrow)
  rcases hheld.origin edge hedge with hoffer | ⟨hbefore, -⟩
  · obtain ⟨snapshot, hsnapshot, hoffer⟩ := List.mem_flatMap.mp hoffer
    exact absurd (hid ▸ List.mem_map_of_mem hoffer) (hnone snapshot hsnapshot)
  · obtain rfl := List.inj_on_of_nodup_map hsound.nodup hbefore hrow hid
    exact Tables.mem_edges_inventory.mpr
      ⟨hedge, fun topology ht hsource => absurd hsource (htopology topology ht)⟩

/-- Where an edge of the saved inventory comes from. -/
theorem origin_of_mem_inventory (hsound : tables.Sound names)
    (hnames : ∀ snapshot ∈ cycle.snapshots, ∀ edge ∈ snapshot.dependencies, edge.Names names)
    (hedge : edge ∈ (cycle.inventory tables).graph.edges) :
    (∃ snapshot ∈ cycle.snapshots, edge ∈ snapshot.dependencies) ∨
      edge ∈ tables.dependencies ∧ (∀ snapshot ∈ cycle.snapshots, edge.id ∉ snapshot.edgeIds) ∧
        ∀ topology ∈ cycle.topology, edge.discoverySource ≠ topology.source := by
  obtain ⟨hmerged, hkeep⟩ := Tables.mem_edges_inventory.mp hedge
  rcases (hsound.held_merged hnames).origin edge hmerged with hoffer | ⟨hbefore, hnone⟩
  · exact Or.inl (List.mem_flatMap.mp hoffer)
  · have hnobody : ∀ snapshot ∈ cycle.snapshots, edge.id ∉ snapshot.edgeIds := by
      intro s hs hid
      obtain ⟨e, he, heq⟩ := List.mem_map.mp hid
      exact hnone e (List.mem_flatMap.mpr ⟨s, hs, he⟩) heq
    refine Or.inr ⟨hbefore, hnobody, fun topology ht hsource => ?_⟩
    exact hnobody topology (List.mem_append_right _ (Option.mem_toList.mpr ht)) (hkeep topology ht hsource)

/-- An edge reported in the cycle with known ends is in the saved inventory, under the
source of a snapshot that holds it. -/
theorem exists_mem_inventory_of_reported (hsound : tables.Sound names)
    (hnames : ∀ snapshot ∈ cycle.snapshots, ∀ edge ∈ snapshot.dependencies, edge.Names names)
    {snapshot : InventorySnapshot} (hsnapshot : snapshot ∈ cycle.snapshots)
    (hedge : edge ∈ snapshot.dependencies) (hknows : cycle.Knows tables edge) :
    ∃ s ∈ cycle.snapshots, ∃ edge' ∈ s.dependencies, edge'.id = edge.id ∧
      edge' ∈ (cycle.inventory tables).graph.edges := by
  have hheld := hsound.held_merged hnames
  have hmem : edge ∈ offers cycle.snapshots := List.mem_flatMap.mpr ⟨snapshot, hsnapshot, hedge⟩
  have hlanded := hheld.landed_of_knows (names_offers hnames) Tables.pending_merged hmem (knows_merged.mpr hknows)
  obtain ⟨edge', hedge', hid⟩ := List.mem_map.mp hlanded
  rcases hheld.origin edge' hedge' with hoffer | ⟨-, hnone⟩
  · obtain ⟨s, hs, hin⟩ := List.mem_flatMap.mp hoffer
    refine ⟨s, hs, edge', hin, hid, Tables.mem_edges_inventory.mpr ⟨hedge', ?_⟩⟩
    exact fun topology ht hsource => Tables.reported_of_mem_offers hoffer ht hsource
  · exact absurd hid.symm (hnone edge hmem)

/-- The topology's source is no provider's. -/
theorem source_ne_of_mem_providers {snapshot topology : InventorySnapshot}
    (hsnapshot : snapshot ∈ cycle.providers) (htopology : topology ∈ cycle.topology) :
    snapshot.source ≠ topology.source := by
  have hdistinct := cycle.distinct
  rw [List.map_append, List.nodup_append] at hdistinct
  exact hdistinct.2.2 _ (List.mem_map_of_mem hsnapshot) _
    (List.mem_map_of_mem (Option.mem_toList.mpr htopology))

/-- **What is attributed to a provider.**  After a cycle of any run, the edges
attributed to the providers that answered are those they reported exactly when no edge
is in two snapshots of the cycle, and every stored edge of a provider other than the
topology is in one of them. -/
theorem tracks_iff (hrun : (discovery topologySource names).Run log tables)
    (hallowed : (discovery topologySource names).Allowed tables (.discover cycle)) :
    cycle.Tracks tables ↔ cycle.Apart tables ∧ cycle.Renewed tables := by
  have hsound := Tables.Sound.run hrun
  have hnames := hallowed.1
  have hrows : ∀ row, row ∈ (tables.discoverOnce cycle).dependencies ↔
      row ∈ (cycle.inventory tables).graph.edges :=
    fun row => hsound.mem_dependencies_discoverOnce hnames
  have hids := hsound.nodup_inventory hnames
  constructor
  · rintro ⟨htracks, -⟩
    refine ⟨?_, ?_⟩
    · -- one edge for an identifier has one source
      intro s hs s' hs' edge hedge edge' hedge' hid hknows
      have hrel := (hnames s hs edge hedge).relation_eq (hnames s' hs' edge' hedge') hid
      have hknows' : cycle.Knows tables edge' := by
        rw [← knows_merged, ← Inventory.knows_congr hrel]
        exact knows_merged.mpr hknows
      obtain ⟨f, hf, hfid, hsource⟩ := (htracks s hs edge.id).1.mpr ⟨edge, hedge, rfl, hknows⟩
      obtain ⟨f', hf', hfid', hsource'⟩ := (htracks s' hs' edge.id).1.mpr ⟨edge', hedge', hid.symm, hknows'⟩
      rw [← hsource, ← hsource', List.inj_on_of_nodup_map hids hf hf' (hfid.trans hfid'.symm)]
    · intro row hrow hsource
      obtain ⟨s, hs, hsource⟩ := List.mem_map.mp hsource
      by_contra hnone
      push Not at hnone
      have hmem := mem_inventory_of_unreported hsound hnames hrow
        (fun topology ht => hsource ▸ source_ne_of_mem_providers hs ht) hnone
      have hsnapshot : s ∈ cycle.snapshots := List.mem_append_left _ hs
      obtain ⟨edge, hedge, hid, -⟩ := (htracks s hsnapshot row.id).1.mp ⟨row, hmem, rfl, hsource.symm⟩
      exact hnone s hsnapshot (hid ▸ List.mem_map_of_mem hedge)
  · rintro ⟨hapart, hrenewed⟩
    refine ⟨fun snapshot hsnapshot id => ?_, fun row hrow hfailed => ?_⟩
    · have hgraph : (∃ edge ∈ (cycle.inventory tables).graph.edges,
          edge.id = id ∧ edge.discoverySource = snapshot.source) ↔
          ∃ edge ∈ snapshot.dependencies, edge.id = id ∧ cycle.Knows tables edge := by
        constructor
        · rintro ⟨edge, hedge, hid, hsource⟩
          rcases origin_of_mem_inventory hsound hnames hedge with ⟨s, hs, hin⟩ | ⟨hbefore, hnone, htop⟩
          · obtain rfl := eq_of_source_eq hs hsnapshot ((s.stamped edge hin).symm.trans hsource)
            have hmerged := (Tables.mem_edges_inventory.mp hedge).1
            exact ⟨edge, hin, hid, knows_merged.mp ((hsound.held_merged hnames).known edge hmerged)⟩
          · rcases List.mem_append.mp hsnapshot with hprovider | htopology
            · obtain ⟨s, hs, hreported⟩ := hrenewed edge hbefore
                (hsource ▸ List.mem_map_of_mem hprovider)
              exact absurd hreported (hnone s hs)
            · exact absurd hsource (htop snapshot (Option.mem_toList.mp htopology))
        · rintro ⟨edge, hedge, hid, hknows⟩
          obtain ⟨s, hs, edge', hin, hid', hmem⟩ :=
            exists_mem_inventory_of_reported hsound hnames hsnapshot hedge hknows
          refine ⟨edge', hmem, hid'.trans hid, (s.stamped edge' hin).trans ?_⟩
          exact (hapart snapshot hsnapshot s hs edge hedge edge' hin hid'.symm hknows).symm
      simp only [hrows]
      exact ⟨hgraph, hgraph⟩
    · suffices hmem : row.id ∈ (cycle.inventory tables).graph.ids by
        refine ⟨hmem, ?_⟩
        obtain ⟨edge, hedge, hid⟩ := List.mem_map.mp hmem
        exact List.mem_map.mpr ⟨edge, (hrows edge).mpr hedge, hid⟩
      by_cases hreported : ∃ snapshot ∈ cycle.snapshots, row.id ∈ snapshot.edgeIds
      · -- reported by another: it is there, under that source
        obtain ⟨s, hs, hid⟩ := hreported
        obtain ⟨edge, hedge, hid⟩ := List.mem_map.mp hid
        have hrel := (hnames s hs edge hedge).relation_eq (hsound.named row hrow) hid
        obtain ⟨-, -, edge', -, hid', hmem⟩ :=
          exists_mem_inventory_of_reported hsound hnames hs hedge (hsound.knows_of_stored hrow hrel)
        exact List.mem_map.mpr ⟨edge', hmem, hid'.trans hid⟩
      · push Not at hreported
        refine List.mem_map_of_mem (mem_inventory_of_unreported hsound hnames hrow ?_ hreported)
        intro topology ht hsource
        refine hfailed (hsource ▸ List.mem_map_of_mem ?_)
        exact List.mem_append_right _ (Option.mem_toList.mpr ht)

/-- The first cycle of a configuration that declares an edge. -/
theorem tracks_declared_edge :
    let a : EntityId := ⟨⟨1⟩⟩
    let b : EntityId := ⟨⟨2⟩⟩
    let edge := DependencyEdge.new ⟨1⟩ a b .usesStorage
    let declared := (((InventorySnapshot.new .staticConfig).addEntity (.new a .host "a") rfl).addEntity
      (.new b .storage "b") rfl).addDependency edge
    let cycle : Cycle := ⟨[some declared], none, by decide⟩
    cycle.Tracks (Tables.mk ∅ []) := by
  intro a b edge declared cycle
  have hone : ∀ s ∈ cycle.snapshots, s = declared := fun s hs => List.mem_singleton.mp hs
  have hrun : (discovery (.integration "nfs") fun _ => edge.relation).Run [] (Tables.mk ∅ []) :=
    .init rfl
  refine (tracks_iff hrun ⟨?_, ?_, ?_⟩).mpr ⟨?_, ?_⟩
  · intro s hs e he
    rw [hone s hs] at he
    rw [List.mem_singleton.mp he]
    rfl
  · rintro topology ⟨⟩
  · intro s hs
    rw [List.mem_singleton.mp hs]
    exact DiscoverySource.noConfusion
  · intro s hs s' hs' _ _ _ _ _ _
    rw [hone s hs, hone s' hs']
  · intro row hrow
    exact absurd hrow List.not_mem_nil

/-- An edge that the configuration no longer declares stays, attributed to it. -/
theorem undeclared_edge_stays :
    let a : EntityId := ⟨⟨1⟩⟩
    let b : EntityId := ⟨⟨2⟩⟩
    let edge := DependencyEdge.new ⟨1⟩ a b .usesStorage
    let entities := ((InventorySnapshot.new .staticConfig).addEntity (.new a .host "a") rfl).addEntity
      (.new b .storage "b") rfl
    let first : Cycle := ⟨[some (entities.addDependency edge)], none, by decide⟩
    let second : Cycle := ⟨[some entities], none, by decide⟩
    let tables := (Tables.mk ∅ []).discoverOnce first
    entities ∈ second.snapshots ∧ entities.dependencies = [] ∧
      (tables.discoverOnce second).dependencies = [edge.withDiscoverySource .staticConfig] ∧
      ¬ second.Tracks tables := by
  intro a b edge entities first second tables
  have hrows : (tables.discoverOnce second).dependencies = [edge.withDiscoverySource .staticConfig] := by
    decide +kernel
  have hmem : entities ∈ second.snapshots := List.mem_singleton.mpr rfl
  refine ⟨hmem, rfl, hrows, fun htracks => ?_⟩
  obtain ⟨e, he, -⟩ := (htracks.1 entities hmem ⟨1⟩).2.mp
    ⟨edge.withDiscoverySource .staticConfig, by rw [hrows]; exact List.mem_singleton.mpr rfl, rfl, rfl⟩
  exact absurd he List.not_mem_nil

end Cycle

end Sentinel
