import Sentinel.Controller.SlurmCycle
import Sentinel.Diagnosis.Shown

/-!
# The order in which Slurm lists its records

The records of one entity are observations of one stream, and what was listed last of them
is what counts.  So what is made of a cycle does not depend on the order of the records
exactly if the records that share an entity tell the same.

## Main definitions

* `Reading.signal`, `SlurmNode.told` — what diagnosis reads of a record.
* `Agreed` — records that share an entity tell the same.
* `Agree` — the same is made of two cycles.
* `Orderless` — the same is made of every order of the records.

## Main results

* `Agreed.agree` — records that tell the same may come in any order.
* `orderless_iff` — **the order does not matter exactly if the records that share an entity
  tell the same.**
-/

namespace Sentinel

open SlurmRules

/-- What is written of a reading, if it carries a signal. -/
def Reading.signal (r : Reading) : Option Json := if r.status.isConclusive then some r.payload else none

namespace Slurm

/-- What the rules read of a node's record. -/
def SlurmNode.told (node : SlurmNode) : NodeFacts :=
  factsOf (if (nodeStatus node).isConclusive then some (nodePayload node) else none)

/-- Records that share an entity tell the same: nodes with one host are in one state of
health, as far as a status says, and the same is shown of them; and no controller answers
where another does not. -/
structure Agreed (site : Site) (view : SlurmView) : Prop where
  status : ∀ a ∈ view.nodes, ∀ b ∈ view.nodes, site.id .host a.hostName = site.id .host b.hostName →
    nodeStatus a = nodeStatus b
  shown : ∀ a ∈ view.nodes, ∀ b ∈ view.nodes, site.id .host a.hostName = site.id .host b.hostName →
    a.told.shown = b.told.shown
  up : ∀ a ∈ view.controllers, ∀ b ∈ view.controllers, a.up = b.up

/-- The same is made of two cycles: every component of every entity is in the same health,
and the rules about Slurm come to the same conclusions. -/
structure Agree (entityId : EntityKey → EntityId) (context context' : DiagnosisContext) : Prop where
  component : ∀ e c, context'.component e c = context.component e c
  concluded : ∀ rule ∈ slurmRules entityId, rule.concluded context' = rule.concluded context

/-- The same is made of every order of the records, from whatever start and whatever is
drawn. -/
def Orderless (site : Site) (view : SlurmView) : Prop :=
  ∀ (start : Start) (view' : SlurmView) (draws draws' : Draws view.size),
    view'.nodes.Perm view.nodes → view'.controllers.Perm view.controllers →
    start.Before draws → start.Before draws' →
    Agree site.entityId (start.after site view draws) (start.after site view' draws')

variable {site : Site} {view view' : SlurmView} {n : ℕ} {draws draws' : Draws n} {start : Start} {k : StreamKey}
  {e : EntityId} {c : StateComponent} {r r' : Reading}

/-! ### What diagnosis reads after a cycle -/

/-- What diagnosis reads of a probe is what was listed last, or what was read before. -/
theorem Start.Before.signal (h : start.Before draws) (hn : view.size ≤ n) (e : EntityId) (p : ProbeId) :
    ((start.after site view draws).observation e p).map Observation.payload =
      match lastReading site view (e, p, none) with
      | some r => r.signal
      | none => ((start.index.latest e p).filter fun o => o.status.isConclusive).map Observation.payload := by
  cases hlast : lastReading site view (e, p, none) with
  | none => rw [DiagnosisContext.observation, h.latest_of_none hn hlast]
  | some r =>
    obtain ⟨o, ho, rfl⟩ := h.latest hn hlast
    rw [DiagnosisContext.observation, ho, Option.filter_some]
    change Option.map _ (if o.status.isConclusive = true then _ else _) =
      if o.status.isConclusive = true then some o.payload else none
    split <;> rfl

theorem Start.disabled_engineAfter (start : Start) (site : Site) (view : SlurmView) (draws : Draws n) :
    (start.engineAfter site view draws).disabled = start.engine.disabled := by
  obtain ⟨streams, states, hframe⟩ := StateEngine.ingestAll_frame (eventsFromView site view draws) start.engine
  rw [Start.engineAfter, hframe]

/-- A cycle is about Slurm's own probes alone. -/
theorem lastReading_of_notMem (hk : k.2.1 ∉ slurmProbes) : lastReading site view k = none := by
  rw [Option.eq_none_iff_forall_ne_some]
  intro r hr
  obtain ⟨hmem, rfl⟩ := lastReading_eq_some hr
  exact hk (probe_of_mem_readings hmem)

theorem Start.Before.held_of_notMem (h : start.Before draws) (hn : view.size ≤ n) (hk : k.2.1 ∉ slurmProbes) :
    (start.after site view draws).observations.held[k]? = start.index.held[k]? := by
  have hnone := @map_reading_getLast site view n draws k
  rw [lastReading_of_notMem hk, Option.map_eq_none_iff] at hnone
  rw [h.held_after hn, hnone, Option.none_or]

theorem probeNetwork_notMem_slurmProbes : probeNetwork ∉ slurmProbes := by decide

theorem payloadBool_eq (context : DiagnosisContext) (e : EntityId) (p : ProbeId) (field : String) :
    context.payloadBool e p field =
      (((context.observation e p).map Observation.payload).bind fun payload => payload.get field).bind Json.asBool := by
  rw [DiagnosisContext.payloadBool, DiagnosisContext.payload]
  cases context.observation e p <;> rfl

/-! ### Records that tell the same -/

theorem probeNode_ne_probeController : probeNode ≠ probeController := by decide

/-- Readings of one stream that tell diagnosis the same. -/
structure Alike (r r' : Reading) : Prop where
  status : r'.status = r.status
  shown : r.probeId = probeNode → (factsOf r'.signal).shown = (factsOf r.signal).shown
  up : r.probeId = probeController →
    (r'.signal.bind fun payload => payload.get "up") = r.signal.bind fun payload => payload.get "up"

theorem signal_of_controller {controller : ControllerPing} (hr : r ∈ site.controllerReadings controller) :
    r.probeId = probeController ∧ r.status = controllerStatus controller ∧
      (r.signal.bind fun payload => payload.get "up") = some (.bool controller.up) := by
  have hup : (controllerPayload controller).get "up" = some (.bool controller.up) := by
    simp [controllerPayload, Json.get, List.lookup]
  have hconclusive : (controllerStatus controller).isConclusive = true := by
    unfold controllerStatus
    split <;> rfl
  rw [Site.controllerReadings, List.mem_pair] at hr
  rcases hr with rfl | rfl
  all_goals exact ⟨rfl, rfl, by rw [Reading.signal, if_pos hconclusive, Option.bind_some, hup]⟩

/-- Readings of one stream are alike where the records agree. -/
theorem Agreed.alike (h : Agreed site view) (hr : r ∈ readingsFromView site view)
    (hr' : r' ∈ readingsFromView site view) (hkey : r'.streamKey = r.streamKey) : Alike r r' := by
  have hprobe : r'.probeId = r.probeId := congrArg (fun k => k.2.1) hkey
  rcases mem_readingsFromView.mp hr with ⟨a, ha, rfl⟩ | ⟨a, ha, hra⟩ <;>
    rcases mem_readingsFromView.mp hr' with ⟨b, hb, rfl⟩ | ⟨b, hb, hrb⟩
  · have hentity : site.id .host a.hostName = site.id .host b.hostName := (congrArg Prod.fst hkey).symm
    exact ⟨(h.status a ha b hb hentity).symm, fun _ => (h.shown a ha b hb hentity).symm,
      fun hcontroller => absurd hcontroller probeNode_ne_probeController⟩
  · exact absurd (hprobe.symm.trans (signal_of_controller hrb).1) probeNode_ne_probeController
  · exact absurd (hprobe.trans (signal_of_controller hra).1) probeNode_ne_probeController
  · obtain ⟨hpa, hsa, hua⟩ := signal_of_controller hra
    obtain ⟨-, hsb, hub⟩ := signal_of_controller hrb
    have hup := h.up b hb a ha
    refine ⟨?_, fun hnode => absurd (hnode.symm.trans hpa) probeNode_ne_probeController, fun _ => ?_⟩
    · rw [hsa, hsb, controllerStatus, controllerStatus, hup]
    · rw [hua, hub, hup]

/-- What is listed last in two orders is alike. -/
theorem Agreed.lastReading_alike (h : Agreed site view)
    (hperm : (readingsFromView site view').Perm (readingsFromView site view)) (k : StreamKey) :
    (lastReading site view k = none ∧ lastReading site view' k = none) ∨
      ∃ r r', lastReading site view k = some r ∧ lastReading site view' k = some r' ∧ Alike r r' := by
  have hfilter : ((readingsFromView site view').filter fun r => r.streamKey = k).Perm
      ((readingsFromView site view).filter fun r => r.streamKey = k) := hperm.filter _
  cases hlast : lastReading site view k with
  | none =>
    rw [lastReading, List.getLast?_eq_none_iff] at hlast
    rw [hlast] at hfilter
    exact Or.inl ⟨rfl, by rw [lastReading, hfilter.eq_nil, List.getLast?_nil]⟩
  | some r =>
    obtain ⟨hmem, hkey⟩ := lastReading_eq_some hlast
    cases hlast' : lastReading site view' k with
    | none =>
      rw [lastReading, List.getLast?_eq_none_iff] at hlast'
      rw [hlast'] at hfilter
      rw [lastReading, hfilter.symm.eq_nil] at hlast
      cases hlast
    | some r' =>
      obtain ⟨hmem', hkey'⟩ := lastReading_eq_some hlast'
      exact Or.inr ⟨r, r', rfl, rfl, h.alike hmem (hperm.mem_iff.mp hmem') (hkey'.trans hkey.symm)⟩

section Same

variable (h : Agreed site view) (hbefore : start.Before draws) (hbefore' : start.Before draws')
  (hn : view.size ≤ n) (hn' : view'.size ≤ n)
  (hperm : (readingsFromView site view').Perm (readingsFromView site view))

include h hbefore hbefore' hn hn' hperm

/-- Every stream reports the same. -/
theorem Agreed.report_eq (k : StreamKey) :
    (start.engineAfter site view' draws').report k = (start.engineAfter site view draws).report k := by
  rw [hbefore.report hn, hbefore'.report hn']
  rcases h.lastReading_alike hperm k with ⟨hnone, hnone'⟩ | ⟨r, r', hlast, hlast', halike⟩
  · rw [hnone, hnone']
  · rw [hlast, hlast']
    split
    · rw [Option.map_some, Option.map_some, halike.status]
    · rfl

/-- The same entities have a state. -/
theorem Agreed.isSome_states_eq (e : EntityId) :
    (start.engineAfter site view' draws').states[e]?.isSome = (start.engineAfter site view draws).states[e]?.isSome := by
  rw [Bool.eq_iff_iff, Start.engineAfter, Start.engineAfter, start.serves.settled.isSome_states_ingestAll,
    start.serves.settled.isSome_states_ingestAll]
  refine or_congr_right (exists_congr fun k => and_congr_right fun _ => ?_)
  rw [hbefore.passing_ne_nil hn, hbefore'.passing_ne_nil hn']
  rcases h.lastReading_alike hperm k with ⟨hnone, hnone'⟩ | ⟨r, r', hlast, hlast', -⟩
  · rw [hnone, hnone']
  · rw [hlast, hlast']
    split <;> rfl

/-- The rules about Slurm are told the same. -/
theorem Agreed.sameFacts : SameFacts (start.after site view draws) (start.after site view' draws') where
  environment := rfl
  inventory := rfl
  component := by
    intro e c
    rw [start.component_after, start.component_after, h.isSome_states_eq hbefore hbefore' hn hn' hperm]
    split
    · refine (start.serves.settled.ingestAll _).health_eq_of_report (start.serves.settled.ingestAll _) ?_
        (h.report_eq hbefore hbefore' hn hn' hperm) e c
      exact (start.disabled_engineAfter site view' draws').trans (start.disabled_engineAfter site view draws).symm
    · rfl
  verdicts := by
    refine fun host => verdictsOf_congr (start.keyed_after site view draws) (start.keyed_after site view' draws') ?_ host
    intro k hk
    have hprobe : k.2.1 ∉ slurmProbes := hk ▸ probeNetwork_notMem_slurmProbes
    rw [hbefore.held_of_notMem hn hprobe, hbefore'.held_of_notMem hn' hprobe]
  shown := by
    intro e
    rw [facts_eq_factsOf, facts_eq_factsOf, hbefore.signal hn, hbefore'.signal hn']
    rcases h.lastReading_alike hperm (e, probeNode, none) with ⟨hnone, hnone'⟩ | ⟨r, r', hlast, hlast', halike⟩
    · rw [hnone, hnone']
    · rw [hlast, hlast']
      exact halike.shown (congrArg (fun k => k.2.1) (lastReading_eq_some hlast).2)
  up := by
    intro e
    rw [payloadBool_eq, payloadBool_eq, hbefore.signal hn, hbefore'.signal hn']
    rcases h.lastReading_alike hperm (e, probeController, none) with ⟨hnone, hnone'⟩ | ⟨r, r', hlast, hlast', halike⟩
    · rw [hnone, hnone']
    · rw [hlast, hlast']
      exact congrArg (fun up => up.bind Json.asBool)
        (halike.up (congrArg (fun k => k.2.1) (lastReading_eq_some hlast).2))

end Same

/-- **Records that tell the same may come in any order.** -/
theorem Agreed.agree (h : Agreed site view) : Orderless site view := by
  intro start view' draws draws' hnodes hcontrollers hbefore hbefore'
  have hsize : view'.size = view.size := by
    rw [SlurmView.size, SlurmView.size, hnodes.length_eq, hcontrollers.length_eq]
  have hfacts := h.sameFacts hbefore hbefore' le_rfl hsize.le (readingsFromView_perm hnodes hcontrollers)
  exact ⟨hfacts.component, hfacts.concluded_eq⟩

/-! ### A start that shows every difference -/

/-- A stream that reports that all is well. -/
def wellStream (e : EntityId) (probe : ProbeId) (c : StateComponent) : StateStream where
  entity := e
  probe := probe
  observer := none
  component := c
  lastObservation := ⟨⟨0⟩⟩
  finishedAt := 0
  debouncer := .startingAt .default .healthy
  state := .new 0 .healthy
  expired := false

/-- The network and the agent of an entity are well. -/
def wellStreams (e : EntityId) : List StateStream :=
  [wellStream e probeNetwork .network, wellStream e probeAgent .agent]

theorem registered_wellStreams (e : EntityId) :
    (EngineCall.seedStreams 0 (wellStreams e)).Registered (.ofMappings builtinMappings) := by
  have hmappings : builtinMappings[probeNetwork]? = some (.new .network) ∧
      builtinMappings[probeAgent]? = some (.new .agent) := by decide +kernel
  intro s hs
  rw [wellStreams, List.mem_pair] at hs
  rcases hs with rfl | rfl
  · exact ⟨_, hmappings.1, rfl, rfl⟩
  · exact ⟨_, hmappings.2, rfl, rfl⟩

/-- An engine that knows of an entity that it is well. -/
def wellEngine (e : EntityId) : StateEngine := (StateEngine.ofMappings builtinMappings).seedStreams 0 (wellStreams e)

theorem run_wellEngine (e : EntityId) :
    (registeredMachine builtinMappings).Run [.seedStreams 0 (wellStreams e)] (wellEngine e) := by
  have hinit : (registeredMachine builtinMappings).Run [] (.ofMappings builtinMappings) := .init rfl
  exact hinit.snoc (registered_wellStreams e)

/-- A start that knows of one host with some hardware, which is well, and has observed
nothing of Slurm's. -/
def watching (e : EntityId) (hardware : Json) : Start where
  engine := wellEngine e
  index := .new
  inventory := Inventory.new.insertEntity (hostWith e hardware)
  reached := ⟨_, run_wellEngine e⟩
  keyed := ObservationIndex.keyed_new

variable {hardware : Json}

theorem watching_frame (e : EntityId) (hardware : Json) :
    (watching e hardware).engine.disabled = ∅ ∧ (watching e hardware).engine.observationCutoff = none :=
  (StateEngine.seedStreams_frame (wellStreams e) 0 (.ofMappings builtinMappings)).2.2

theorem probeEnabled_watching (p : EntityId × ProbeId) :
    (watching e hardware).engine.probeEnabled p.1 p.2 = true := by
  rw [StateEngine.probeEnabled, (watching_frame e hardware).1]
  simp

theorem probeAgent_ne_probeNetwork : probeAgent ≠ probeNetwork := by decide

theorem probeAgent_notMem_slurmProbes : probeAgent ∉ slurmProbes := by decide

theorem streams_watching (k : StreamKey) : (watching e hardware).engine.streams[k]? =
    if (e, probeAgent, none) = k then some (wellStream e probeAgent .agent)
    else if (e, probeNetwork, none) = k then some (wellStream e probeNetwork .network) else none := by
  have hstreams : (watching e hardware).engine.streams =
      ((wellStreams e).foldl StateEngine.putStream (.ofMappings builtinMappings)).streams :=
    (StateEngine.seedStreams_frame (wellStreams e) 0 (.ofMappings builtinMappings)).1
  rw [hstreams, wellStreams, List.foldl_cons, List.foldl_cons, List.foldl_nil, StateEngine.putStream_streams,
    StateEngine.putStream_streams, StateEngine.ofMappings_streams]
  rfl

/-- What is known before a cycle was not learned from Slurm. -/
theorem before_watching (draws : Draws n) : (watching e hardware).Before draws where
  stream := by
    intro k s hs hprobe
    rw [streams_watching] at hs
    split at hs
    · obtain rfl := Option.some.inj hs
      exact absurd hprobe probeAgent_notMem_slurmProbes
    · split at hs
      · obtain rfl := Option.some.inj hs
        exact absurd hprobe probeNetwork_notMem_slurmProbes
      · cases hs
  cutoff := by
    intro cutoff hcutoff
    rw [(watching_frame e hardware).2] at hcutoff
    cases hcutoff
  held := by
    intro k o ho
    have hnone : (watching e hardware).index.held[k]? = none := Std.ExtTreeMap.getElem?_empty
    rw [hnone] at ho
    cases ho

/-- The probe of the only stream that informs a component after the cycle. -/
def proberOf : StateComponent → ProbeId
  | .scheduler => probeNode
  | .service => probeController
  | .agent => probeAgent
  | _ => probeNetwork

section Watching

variable (hn : view.size ≤ n)

include hn

theorem report_watching (k : StreamKey) : ((watching e hardware).engineAfter site view draws).report k =
    ((lastReading site view k).map fun r => (componentOf k.2.1, false, r.status.health)).or
      ((watching e hardware).engine.report k) := by
  rw [(before_watching draws).report hn, if_pos (probeEnabled_watching (k.1, k.2.1))]

/-- Every component is informed by one stream at most. -/
theorem key_of_report {reported : StateComponent × Bool × Health}
    (h : ((watching e hardware).engineAfter site view draws).report k = some reported) :
    k = (k.1, proberOf reported.1, none) := by
  rw [report_watching hn] at h
  rcases Option.or_eq_some_iff.mp h with h | ⟨-, h⟩
  · obtain ⟨r, hr, rfl⟩ := Option.map_eq_some_iff.mp h
    obtain ⟨hmem, rfl⟩ := lastReading_eq_some hr
    have hprober : ∀ p ∈ slurmProbes, proberOf (componentOf p) = p := by decide
    change _ = (r.targetEntity, proberOf (componentOf r.probeId), none)
    rw [hprober r.probeId (probe_of_mem_readings hmem)]
    rfl
  · rw [StateEngine.report, streams_watching] at h
    split at h
    · next hk =>
      obtain rfl := Option.some.inj h
      rw [← hk]
      rfl
    · split at h
      · next hk =>
        obtain rfl := Option.some.inj h
        rw [← hk]
        rfl
      · cases h

/-- Diagnosis reads of a component what its stream reports. -/
theorem component_of_report {health : Health}
    (h : ((watching e hardware).engineAfter site view draws).report k = some (c, false, health)) :
    ((watching e hardware).after site view draws).component k.1 c = health := by
  have hsettled : ((watching e hardware).engineAfter site view draws).Settled :=
    (watching e hardware).serves.settled.ingestAll _
  have henabled : ((watching e hardware).engineAfter site view draws).probeEnabled k.1 k.2.1 = true := by
    rw [StateEngine.probeEnabled, Start.disabled_engineAfter]
    exact probeEnabled_watching (k.1, k.2.1)
  have hhealth := hsettled.health_of_report h henabled fun k' hk' reported hreported hc => by
    rw [key_of_report hn hreported, key_of_report hn h, hk', hc]
  have hstate : ((watching e hardware).engineAfter site view draws).states[k.1]?.isSome = true := by
    obtain ⟨s, hs, heq⟩ := Option.map_eq_some_iff.mp h
    have hentity : s.entity = k.1 := congrArg Prod.fst (hsettled.keyed k s hs)
    obtain ⟨recorded, hrecorded⟩ :=
      hsettled.recorded_of_stream s.entity s.component ⟨k, s, hs, rfl, rfl⟩ (Set.notMem_empty _)
    obtain ⟨state, hstate, -⟩ := Option.bind_eq_some_iff.mp hrecorded
    rw [← hentity, hstate]
    rfl
  rw [Start.component_after, if_pos hstate, hhealth]

/-- What is listed last of a stream is what its component reads. -/
theorem component_of_last (hr : lastReading site view k = some r) :
    ((watching e hardware).after site view draws).component k.1 (componentOf k.2.1) = r.status.health :=
  component_of_report hn (by rw [report_watching hn, hr]; rfl)

theorem report_wellStream {p : ProbeId} {s : StateStream} (hp : p ∉ slurmProbes)
    (hs : (watching e hardware).engine.streams[((e, p, none) : StreamKey)]? = some s)
    (hwell : (s.component, s.expired, s.state.health) = (c, false, .healthy)) :
    ((watching e hardware).after site view draws).isHealthy e c = true := by
  refine decide_eq_true (component_of_report (k := (e, p, none)) hn ?_)
  rw [report_watching hn, lastReading_of_notMem hp, StateEngine.report, hs, ← hwell]
  rfl

/-- The host is well after the cycle, too, and nobody has another view of it. -/
theorem lone_watching : ((watching e hardware).after site view draws).Lone (hostWith e hardware) where
  mem := by
    intro other
    have hget : ((watching e hardware).after site view draws).entity other.id =
        if e = other.id then some (hostWith e hardware) else none := Std.ExtTreeMap.getElem?_insert_eq
    rw [DiagnosisContext.mem_entitiesOfType, hget]
    constructor
    · rintro ⟨h, -, -⟩
      split at h
      · exact (Option.some.inj h).symm
      · cases h
    · rintro rfl
      exact ⟨if_pos rfl, rfl, rfl⟩
  healthy := by
    have hne : ¬ ((e, probeAgent, none) : StreamKey) = (e, probeNetwork, none) := fun h =>
      probeAgent_ne_probeNetwork (congrArg (fun k => k.2.1) h)
    have hnetwork : ((watching e hardware).after site view draws).isHealthy e .network = true :=
      report_wellStream hn probeNetwork_notMem_slurmProbes
        ((streams_watching _).trans ((if_neg hne).trans (if_pos rfl))) rfl
    have hagent : ((watching e hardware).after site view draws).isHealthy e .agent = true :=
      report_wellStream hn probeAgent_notMem_slurmProbes ((streams_watching _).trans (if_pos rfl)) rfl
    have hid : (hostWith e hardware).id = e := rfl
    rw [DiagnosisContext.hostLooksHealthy, hid, hnetwork, hagent]
    rfl
  agreed := by
    rw [Option.any_eq_false]
    intro v hv
    obtain ⟨-, hverdicts, htotal⟩ := getElem?_verdictsByTarget.mp hv
    have hkeyed := (watching e hardware).keyed_after site view draws
    have hnew : verdictsOf ((watching e hardware).after site view draws) (hostWith e hardware).id =
        verdictsOf { (watching e hardware).after site view draws with observations := .new } (hostWith e hardware).id := by
      refine verdictsOf_congr ObservationIndex.keyed_new hkeyed ?_ _
      intro k hk
      exact (before_watching draws).held_of_notMem hn (hk ▸ probeNetwork_notMem_slurmProbes)
    have hnobody : ∀ context : DiagnosisContext, context.observations = .new → ∀ host, verdictsOf context host = .none := by
      intro context hindex host
      have hnone : ObservationIndex.new.forEntity host = [] := by simp [ObservationIndex.forEntity, ObservationIndex.new]
      rw [verdictsOf, hindex, hnone]
      rfl
    rw [hnew, hnobody _ rfl] at hverdicts
    rw [← hverdicts] at htotal
    exact absurd htotal (by decide)

end Watching

/-! ### Records of nodes -/

theorem lt_of_asU64 {json : Json} {m : ℕ} (h : json.asU64 = some m) : m < 2 ^ 64 := by
  unfold Json.asU64 at h
  split at h
  · split at h
    · next hrange =>
      obtain rfl := Option.some.inj h
      exact (Int.toNat_lt hrange.1).mpr (by exact_mod_cast hrange.2)
    · cases h
  · cases h

/-- What is read of a record is as records have it. -/
theorem SlurmNode.recorded_told (node : SlurmNode) : node.told.Recorded where
  named := by
    intro hname
    unfold SlurmNode.told at hname ⊢
    split
    · next hconclusive =>
      rw [if_pos hconclusive] at hname
      have hnode : (nodePayload node).get "node_name" = some (.str node.nodeName) := by
        simp [nodePayload, Json.get, List.lookup]
      have hread : (factsOf (some (nodePayload node))).name = some node.nodeName := by
        rw [factsOf]
        simp only [Option.bind_some, hnode, Json.asStr]
      rw [hread] at hname
      cases hname
    · exact ⟨rfl, rfl, rfl⟩
  gpus_lt := by
    intro m hm
    obtain ⟨json, -, hjson⟩ := Option.bind_eq_some_iff.mp hm
    exact lt_of_asU64 hjson
  cpus_lt := by
    intro m hm
    obtain ⟨json, -, hjson⟩ := Option.bind_eq_some_iff.mp (Option.filter_eq_some_iff.mp hm).1
    exact lt_of_asU64 hjson

/-- The statuses of nodes are told apart by what they say on their own. -/
theorem nodeStatus_eq_of_health {a b : SlurmNode} (h : (nodeStatus a).health = (nodeStatus b).health) :
    nodeStatus a = nodeStatus b := by
  have hcases : ∀ node : SlurmNode, nodeStatus node ∈ [.notApplicable, .ok, .degraded, .failed] := by
    intro node
    unfold nodeStatus
    split
    · decide
    · split
      · decide
      · split <;> decide
  have hinjective : ∀ s ∈ [ProbeStatus.notApplicable, .ok, .degraded, .failed],
      ∀ s' ∈ [ProbeStatus.notApplicable, .ok, .degraded, .failed], s.health = s'.health → s = s' := by decide
  exact hinjective _ (hcases a) _ (hcases b) h

/-! ### Orders of records -/

theorem exists_perm_concat {α : Type*} {a : α} {l : List α} (h : a ∈ l) : ∃ init, (init ++ [a]).Perm l := by
  obtain ⟨before, after, rfl⟩ := List.append_of_mem h
  exact ⟨before ++ after, (List.perm_append_singleton a (before ++ after)).trans List.perm_middle.symm⟩

/-- What nothing of its stream is listed after is what is listed last. -/
theorem lastReading_of_append {init tail : List Reading} (h : readingsFromView site view = init ++ r :: tail)
    (htail : ∀ r' ∈ tail, r'.streamKey ≠ r.streamKey) : lastReading site view r.streamKey = some r := by
  have hnil : tail.filter (fun r' => r'.streamKey = r.streamKey) = [] :=
    List.filter_eq_nil_iff.mpr fun r' hr' hkey => htail r' hr' (of_decide_eq_true hkey)
  have hself : decide (r.streamKey = r.streamKey) = true := decide_eq_true rfl
  rw [lastReading, h, List.filter_append, List.filter_cons, hself, if_pos rfl, hnil, List.getLast?_concat]

theorem lastReading_node {nodes : List SlurmNode} {node : SlurmNode} :
    lastReading site { view with nodes := nodes ++ [node] } (site.nodeReading node).streamKey =
      some (site.nodeReading node) := by
  have hreadings : readingsFromView site { view with nodes := nodes ++ [node] } =
      nodes.map site.nodeReading ++ site.nodeReading node :: view.controllers.flatMap site.controllerReadings := by
    rw [readingsFromView, List.map_append, List.append_assoc]
    rfl
  refine lastReading_of_append hreadings fun r' hr' hkey => ?_
  obtain ⟨controller, -, hr'⟩ := List.mem_flatMap.mp hr'
  exact probeNode_ne_probeController ((congrArg (fun k => k.2.1) hkey).symm.trans (signal_of_controller hr').1)

/-- What is read of a controller about the scheduler. -/
def schedulerReading (site : Site) (controller : ControllerPing) : Reading :=
  ⟨probeController, site.scheduler, controllerStatus controller, controllerPayload controller⟩

theorem lastReading_controller {controllers : List ControllerPing} {controller : ControllerPing} :
    lastReading site { view with controllers := controllers ++ [controller] } (site.scheduler, probeController, none) =
      some (schedulerReading site controller) := by
  have hreadings : readingsFromView site { view with controllers := controllers ++ [controller] } =
      (view.nodes.map site.nodeReading ++ (controllers.flatMap site.controllerReadings ++
        [⟨probeController, site.id .service ("slurmctld@" ++ controller.host), controllerStatus controller,
          controllerPayload controller⟩])) ++ schedulerReading site controller :: [] := by
    rw [readingsFromView, List.flatMap_append, List.append_assoc, List.append_assoc]
    rfl
  exact lastReading_of_append hreadings fun r' hr' => absurd hr' List.not_mem_nil

/-! ### Orders that tell records apart -/

/-- Draws for a cycle that numbers its observations and takes no time. -/
def numbered (n : ℕ) (hn : n ≤ 2 ^ 64) : Draws n where
  id := fun i => ⟨⟨BitVec.ofNat 128 i⟩⟩
  finishedAt := fun _ => 0
  now := fun _ => 0
  id_inj := by
    intro i hi j hj h
    have hvalue : BitVec.ofNat 128 i = BitVec.ofNat 128 j := congrArg (fun id => id.uuid.value) h
    have hi' : i < 2 ^ 128 := lt_of_lt_of_le hi (hn.trans (Nat.pow_le_pow_right (by norm_num) (by norm_num)))
    have hj' : j < 2 ^ 128 := lt_of_lt_of_le hj (hn.trans (Nat.pow_le_pow_right (by norm_num) (by norm_num)))
    have hnat := congrArg BitVec.toNat hvalue
    rwa [BitVec.toNat_ofNat, BitVec.toNat_ofNat, Nat.mod_eq_of_lt hi', Nat.mod_eq_of_lt hj'] at hnat
  monotone := monotone_const
  le_now := fun _ => le_rfl

/-- Any two orders of the records lead to the same. -/
theorem Orderless.agree_orders (h : Orderless site view) (hsize : view.size ≤ 2 ^ 64) (first second : SlurmView)
    (hnodes : first.nodes.Perm view.nodes) (hcontrollers : first.controllers.Perm view.controllers)
    (hnodes' : second.nodes.Perm view.nodes) (hcontrollers' : second.controllers.Perm view.controllers)
    (e : EntityId) (hardware : Json) :
    Agree site.entityId ((watching e hardware).after site first (numbered view.size hsize))
      ((watching e hardware).after site second (numbered view.size hsize)) := by
  have hbefore : (watching e hardware).Before (numbered view.size hsize) := before_watching _
  have hfirst := h _ first _ _ hnodes hcontrollers hbefore hbefore
  have hsecond := h _ second _ _ hnodes' hcontrollers' hbefore hbefore
  exact ⟨fun e c => (hsecond.component e c).trans (hfirst.component e c).symm,
    fun rule hrule => (hsecond.concluded rule hrule).trans (hfirst.concluded rule hrule).symm⟩

/-- Some order lists a node last, and it makes as many observations. -/
theorem exists_order_node (site : Site) {node : SlurmNode} (h : node ∈ view.nodes) : ∃ order : SlurmView,
    order.nodes.Perm view.nodes ∧ order.controllers.Perm view.controllers ∧ order.size ≤ view.size ∧
      lastReading site order (site.nodeReading node).streamKey = some (site.nodeReading node) := by
  obtain ⟨others, hothers⟩ := exists_perm_concat h
  refine ⟨{ view with nodes := others ++ [node] }, hothers, .rfl, ?_, lastReading_node⟩
  rw [SlurmView.size, SlurmView.size, hothers.length_eq]

/-- Some order lists a controller last, and it makes as many observations. -/
theorem exists_order_controller (site : Site) {controller : ControllerPing} (h : controller ∈ view.controllers) :
    ∃ order : SlurmView, order.nodes.Perm view.nodes ∧ order.controllers.Perm view.controllers ∧
      order.size ≤ view.size ∧
      lastReading site order (site.scheduler, probeController, none) = some (schedulerReading site controller) := by
  obtain ⟨others, hothers⟩ := exists_perm_concat h
  refine ⟨{ view with controllers := others ++ [controller] }, .rfl, hothers, ?_, lastReading_controller⟩
  rw [SlurmView.size, SlurmView.size, hothers.length_eq]

/-- A node that is listed last is what the rules are told of its host, whatever hardware that
has. -/
theorem watched_of_last {node : SlurmNode} (hn : view.size ≤ n) (he : site.id .host node.hostName = e)
    (hlast : lastReading site view (site.nodeReading node).streamKey = some (site.nodeReading node)) :
    Watched e node.told fun hardware => (watching e hardware).after site view draws where
  lone := fun hardware => lone_watching hn
  facts_eq := by
    intro hardware
    have hkey : (site.nodeReading node).streamKey = (e, probeNode, none) := by rw [← he]; rfl
    rw [facts_eq_factsOf, (before_watching draws).signal hn, ← hkey, hlast]
    rfl

section Apart

variable (h : Orderless site view) (hsize : view.size ≤ 2 ^ 64)

include h hsize

theorem Orderless.status {a b : SlurmNode} (ha : a ∈ view.nodes) (hb : b ∈ view.nodes)
    (hhost : site.id .host a.hostName = site.id .host b.hostName) : nodeStatus a = nodeStatus b := by
  obtain ⟨first, hnodes, hcontrollers, hfirst, hlast⟩ := exists_order_node site ha
  obtain ⟨second, hnodes', hcontrollers', hsecond, hlast'⟩ := exists_order_node site hb
  have hagree := h.agree_orders hsize first second hnodes hcontrollers hnodes' hcontrollers'
    (site.id .host a.hostName) .null
  have hkey : (site.nodeReading b).streamKey = (site.nodeReading a).streamKey := by
    change (site.id .host b.hostName, probeNode, none) = (site.id .host a.hostName, probeNode, none)
    rw [hhost]
  have hcomponent := hagree.component (site.id .host a.hostName) .scheduler
  have hread : ((watching (site.id .host a.hostName) .null).after site first (numbered view.size hsize)).component
      (site.id .host a.hostName) .scheduler = (nodeStatus a).health := component_of_last hfirst hlast
  have hread' : ((watching (site.id .host a.hostName) .null).after site second (numbered view.size hsize)).component
      (site.id .host a.hostName) .scheduler = (nodeStatus b).health := component_of_last hsecond (hkey ▸ hlast')
  exact nodeStatus_eq_of_health (hread.symm.trans (hcomponent.symm.trans hread'))

theorem Orderless.up {a b : ControllerPing} (ha : a ∈ view.controllers) (hb : b ∈ view.controllers) : a.up = b.up := by
  obtain ⟨first, hnodes, hcontrollers, hfirst, hlast⟩ := exists_order_controller site ha
  obtain ⟨second, hnodes', hcontrollers', hsecond, hlast'⟩ := exists_order_controller site hb
  have hagree := h.agree_orders hsize first second hnodes hcontrollers hnodes' hcontrollers' site.scheduler .null
  have hcomponent := hagree.component site.scheduler .service
  have hread : ((watching site.scheduler .null).after site first (numbered view.size hsize)).component
      site.scheduler .service = (controllerStatus a).health := component_of_last hfirst hlast
  have hread' : ((watching site.scheduler .null).after site second (numbered view.size hsize)).component
      site.scheduler .service = (controllerStatus b).health := component_of_last hsecond hlast'
  have hhealth : (controllerStatus a).health = (controllerStatus b).health :=
    hread.symm.trans (hcomponent.symm.trans hread')
  unfold controllerStatus at hhealth
  cases hup : a.up <;> cases hup' : b.up <;> rw [hup, hup'] at hhealth <;> first | rfl | cases hhealth

theorem Orderless.shown {a b : SlurmNode} (ha : a ∈ view.nodes) (hb : b ∈ view.nodes)
    (hhost : site.id .host a.hostName = site.id .host b.hostName) : a.told.shown = b.told.shown := by
  obtain ⟨first, hnodes, hcontrollers, hfirst, hlast⟩ := exists_order_node site ha
  obtain ⟨second, hnodes', hcontrollers', hsecond, hlast'⟩ := exists_order_node site hb
  have hwatched : Watched (site.id .host b.hostName) a.told fun hardware =>
      (watching (site.id .host b.hostName) hardware).after site first (numbered view.size hsize) :=
    watched_of_last hfirst hhost hlast
  have hwatched' : Watched (site.id .host b.hostName) b.told fun hardware =>
      (watching (site.id .host b.hostName) hardware).after site second (numbered view.size hsize) :=
    watched_of_last hsecond rfl hlast'
  have hsame : ∀ hardware, ∀ rule ∈ slurmRules site.entityId, ∀ d,
      d ∈ rule.concluded ((watching (site.id .host b.hostName) hardware).after site first (numbered view.size hsize)) ↔
        d ∈ rule.concluded ((watching (site.id .host b.hostName) hardware).after site second (numbered view.size hsize)) := by
    intro hardware rule hrule d
    rw [(h.agree_orders hsize first second hnodes hcontrollers hnodes' hcontrollers' _ hardware).concluded rule hrule]
  exact (hwatched.shown_eq hwatched' hsame a.recorded_told b.recorded_told).symm

end Apart

/-- **The order in which Slurm lists its records does not matter exactly if the records that
share an entity tell the same.** -/
theorem orderless_iff (hsize : view.size ≤ 2 ^ 64) : Orderless site view ↔ Agreed site view :=
  ⟨fun h => ⟨fun _ ha _ hb hhost => h.status hsize ha hb hhost, fun _ ha _ hb hhost => h.shown hsize ha hb hhost,
    fun _ ha _ hb => h.up hsize ha hb⟩, Agreed.agree⟩

/-- A backup controller that does not answer matters if it is listed after one that does. -/
theorem not_orderless_of_backup :
    let site : Site :=
      { environment := "prod"
        schedulerName := "sched"
        entityId := fun key => ⟨⟨.ofNat 128 key.canonicalName.length⟩⟩
        edgeId := fun relation => ⟨relation.1.uuid.value * 100 + relation.2.1.uuid.value⟩ }
    let view : SlurmView := ⟨[], [], [⟨"ctl-a", true, "primary"⟩, ⟨"ctl-b", false, "backup"⟩]⟩
    ¬ Orderless site view := by
  intro site view h
  have hsize : view.size ≤ 2 ^ 64 := by
    change 0 + 2 * 2 ≤ 2 ^ 64
    norm_num
  have hup := ((orderless_iff hsize).mp h).up _ List.mem_cons_self _ (List.mem_cons_of_mem _ List.mem_cons_self)
  cases hup

end Slurm

end Sentinel
