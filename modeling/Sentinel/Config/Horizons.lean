import Sentinel.Audit
import Sentinel.Config.Validate
import Sentinel.Controller.Recovery

/-!
# Time arithmetic on configured durations

The controller works with the durations of its configuration: it subtracts retention
periods from the current time, multiplies intervals to find out how long an answer stays
evidence, and the audit multiplies them to find out when a probe is silent.  Each of these
operations stops the program when its result is out of range.  Validation does not bound
durations from above.

## Main definitions

* `pruneCutoffs` — the cutoffs of a pruning pass.
* `freshness` — how long answers stay evidence.
* `Config.InRange` — the bounds the operations need.

## Main results

* `isSome_timeArithmetic_iff` — **the operations go through exactly within these bounds.**
-/

namespace Sentinel

/-! ### The operations -/

/-- The cutoffs a pruning pass works out, in the order of its deletions. -/
def pruneCutoffs (config : Config.RetentionConfig) (now : Timestamp) : Option (List (Option ℤ)) :=
  if !config.enabled then some []
  else [config.resolvedIncidents, config.diagnoses, config.observations, config.transitions].mapM
    (Config.RetentionPeriod.cutoff now)

/-- How many of its own intervals an observation may lag before it stops being evidence. -/
def staleAfterIntervals : ℕ := 4

/-- The longest age within a window, in microseconds; an hour when the window is not a
difference between instants. -/
def ageWithin (window : Span) : Duration := window.toDelta.getD (3600 * 10 ^ 9) / 1000

/-- How long each probe's answer stays evidence, derived from the probe's own cadence. -/
def freshnessHorizons (config : Config) : Option (Std.ExtTreeMap ProbeId Duration) :=
  (catalog.mapM fun entry =>
    let definition := config.probes.apply entry.definition
    (definition.interval.checkedMul staleAfterIntervals).map fun window =>
      (definition.id, ageWithin window)).map fun horizons => Std.ExtTreeMap.ofList horizons

/-- How long any other answer stays evidence, derived from the discovery interval. -/
def inventoryFallback (config : Config) : Option Duration :=
  (config.controller.inventoryInterval.checkedMul staleAfterIntervals).map ageWithin

/-- How long answers stay evidence in a diagnosis pass. -/
def freshness (config : Config) (controller : Option EntityId) : Option Freshness := do
  let horizons ← freshnessHorizons config
  let fallback ← inventoryFallback config
  return ⟨horizons, fallback, controller⟩

/-! ### Bounds -/

/-- A retention period goes back to an instant that has a date, unless it is so long that
everything is kept. -/
def Config.RetentionPeriod.InRange (now : Timestamp) : Config.RetentionPeriod → Prop
  | lasting duration => Span.maxDelta < duration.nanos ∨ Span.firstInstant ≤ now * 1000 - duration.nanos
  | forever => True

/-- The bounds that time arithmetic needs of a configuration. -/
structure Config.InRange (config : Config) (now : Timestamp) : Prop where
  /-- Records are kept since an instant that has a date. -/
  retention : config.retention.enabled = true →
    config.retention.resolvedIncidents.InRange now ∧ config.retention.diagnoses.InRange now ∧
      config.retention.observations.InRange now ∧ config.retention.transitions.InRange now
  /-- Four discovery intervals fit. -/
  inventory : config.controller.inventoryInterval.nanos * 4 < 2 ^ 64 * 10 ^ 9
  /-- Four intervals of every probe fit. -/
  probes : ∀ entry ∈ catalog, (config.probes.apply entry.definition).interval.nanos * 4 < 2 ^ 64 * 10 ^ 9
  /-- Ten intervals of every probe that is not switched off fit. -/
  audited : ∀ entry ∈ catalog, config.probes.isEnabled entry.definition.id = true →
    (config.probes.apply entry.definition).interval.nanos * 10 < 2 ^ 64 * 10 ^ 9

section Operations

variable {config : Config} {now : Timestamp}

theorem isSome_cutoff_iff {period : Config.RetentionPeriod} :
    (period.cutoff now).isSome = true ↔ period.InRange now := by
  cases period with
  | forever => simp [Config.RetentionPeriod.cutoff, Config.RetentionPeriod.InRange]
  | lasting duration =>
    simp only [Config.RetentionPeriod.cutoff, Config.RetentionPeriod.InRange]
    by_cases hle : duration.nanos ≤ Span.maxDelta
    · have hdelta : duration.toDelta = some (duration.nanos : ℤ) := if_pos hle
      rw [hdelta, Option.isSome_map, Span.isSome_before_iff]
      simp [not_lt.mpr hle]
    · have hdelta : duration.toDelta = none := if_neg hle
      rw [hdelta]
      simp [not_le.mp hle]

theorem isSome_pruneCutoffs_iff {retention : Config.RetentionConfig} :
    (pruneCutoffs retention now).isSome = true ↔ (retention.enabled = true →
      retention.resolvedIncidents.InRange now ∧ retention.diagnoses.InRange now ∧
        retention.observations.InRange now ∧ retention.transitions.InRange now) := by
  simp only [← isSome_cutoff_iff]
  unfold pruneCutoffs
  cases retention.enabled with
  | false => simp
  | true =>
    have hif : ∀ (a b : Option (List (Option ℤ))), (if (!true) = true then a else b) = b := fun _ _ => rfl
    rw [hif, List.isSome_mapM_iff]
    simp

/-- The horizons are found when the window of each probe is. -/
theorem isSome_freshnessHorizons_iff : (freshnessHorizons config).isSome = true ↔
    ∀ entry ∈ catalog, (config.probes.apply entry.definition).interval.nanos * 4 < 2 ^ 64 * 10 ^ 9 := by
  rw [freshnessHorizons, Option.isSome_map, List.isSome_mapM_iff]
  simp only [Option.isSome_map, Span.isSome_checkedMul_iff, staleAfterIntervals]

theorem isSome_freshness_iff {controller : Option EntityId} : (freshness config controller).isSome = true ↔
    (freshnessHorizons config).isSome = true ∧ (inventoryFallback config).isSome = true := by
  unfold freshness
  cases freshnessHorizons config <;> cases inventoryFallback config <;> simp

/-- Every probe that is not switched off is expected somewhere. -/
theorem exists_expected {entry : CatalogEntry} (hentry : entry ∈ catalog)
    (henabled : config.probes.isEnabled entry.definition.id = true) :
    ∃ inventory observed, ∃ pair ∈ expected inventory config observed,
      pair.definition = config.probes.apply entry.definition := by
  have htype : ∀ entry ∈ catalog, ∃ t ∈ [EntityType.host, .service], entry.reportsOnType t = true ∧
      (entry.definition.targetEntityTypes.isEmpty || entry.definition.targetEntityTypes.contains t) = true := by
    decide
  obtain ⟨t, -, hreports, htarget⟩ := htype entry hentry
  -- an entity of that type that has what the probe requires, and an agent
  let entity : ManagedEntity := { ManagedEntity.new ⟨⟨1⟩⟩ t "node" with
    capabilities := .ofList (⟨"sentinel.agent"⟩ :: entry.definition.requiredCapabilities) }
  have happlies : entry.definition.appliesTo t entity.capabilities = true := by
    refine Bool.and_eq_true_iff.mpr ⟨htarget, List.all_eq_true.mpr fun capability hcapability => ?_⟩
    rw [Std.ExtTreeSet.contains_iff_mem, ← Std.ExtTreeSet.mem_toList]
    exact Std.ExtTreeSet.mem_toList_ofList.mpr (List.mem_cons_of_mem _ hcapability)
  have hagent : entity.capabilities.contains ⟨"sentinel.agent"⟩ = true := by
    rw [Std.ExtTreeSet.contains_iff_mem, ← Std.ExtTreeSet.mem_toList]
    exact Std.ExtTreeSet.mem_toList_ofList.mpr List.mem_cons_self
  have hexpectation : (expectationFor entry.definition.executionMode entity true).isSome = true := by
    have hendpoint : (endpointFor entity).isSome = true := rfl
    cases entry.definition.executionMode <;> simp [expectationFor, hagent, hendpoint]
  obtain ⟨x, hx⟩ := Option.isSome_iff_exists.mp hexpectation
  refine ⟨Inventory.new.insertEntity entity, (∅ : Std.ExtTreeSet EntityId).insert entity.id, ⟨entity, config.probes.apply entry.definition, x⟩, ?_, rfl⟩
  refine mem_expected.mpr ⟨entity, ?_, rfl, entry, hentry, ?_⟩
  · exact Std.ExtTreeMap.mem_vals.mpr ⟨entity.id, Std.ExtTreeMap.getElem?_insert_self⟩
  · have hwatched : ((∅ : Std.ExtTreeSet EntityId).insert entity.id).contains entity.id = true :=
      Std.ExtTreeSet.contains_insert_self
    refine expectedOf_eq_some_iff.mpr ⟨henabled, hreports, happlies, x, ?_, rfl⟩
    rw [hwatched]
    exact hx

/-- **Time arithmetic on a configuration.**  Pruning, diagnosis and the audit of every
inventory get through it exactly when the configured durations are within bounds. -/
theorem isSome_timeArithmetic_iff (config : Config) (now : Timestamp) (controller : Option EntityId) :
    ((pruneCutoffs config.retention now).isSome = true ∧ (freshness config controller).isSome = true ∧
      ∀ inventory observed lastSeen, (silentProbes inventory config observed lastSeen now).isSome = true) ↔
    config.InRange now := by
  have haudit : (∀ inventory observed lastSeen,
      (silentProbes inventory config observed lastSeen now).isSome = true) ↔
      ∀ entry ∈ catalog, config.probes.isEnabled entry.definition.id = true →
        (config.probes.apply entry.definition).interval.nanos * 10 < 2 ^ 64 * 10 ^ 9 := by
    have hhorizon : ∀ span : Span, (silenceHorizon span).isSome = true ↔ span.nanos * 10 < 2 ^ 64 * 10 ^ 9 := by
      intro span
      rw [silenceHorizon, Option.isSome_map, Span.isSome_checkedMul_iff]
    simp only [isSome_silentProbes_iff, hhorizon]
    constructor
    · intro h entry hentry henabled
      obtain ⟨inventory, observed, pair, hpair, hdefinition⟩ := exists_expected hentry henabled
      rw [← hdefinition]
      exact h inventory observed ∅ pair hpair
    · intro h inventory observed lastSeen pair hpair
      obtain ⟨entity, -, -, entry, hentry, hexpected⟩ := mem_expected.mp hpair
      obtain ⟨henabled, -, -, x, -, rfl⟩ := expectedOf_eq_some_iff.mp hexpected
      exact h entry hentry henabled
  have hfallback : (inventoryFallback config).isSome = true ↔
      config.controller.inventoryInterval.nanos * 4 < 2 ^ 64 * 10 ^ 9 := by
    rw [inventoryFallback, Option.isSome_map, staleAfterIntervals, Span.isSome_checkedMul_iff]
  rw [isSome_pruneCutoffs_iff, isSome_freshness_iff, isSome_freshnessHorizons_iff, hfallback, haudit]
  constructor
  · rintro ⟨hretention, ⟨hprobes, hinventory⟩, haudited⟩
    exact ⟨hretention, hinventory, hprobes, haudited⟩
  · rintro ⟨hretention, hinventory, hprobes, haudited⟩
    exact ⟨hretention, ⟨hprobes, hinventory⟩, haudited⟩

/-- A configuration that passes validation, with a discovery interval of 2^62 seconds: a
diagnosis pass stops the program. -/
theorem long_interval_accepted :
    let debug : String → String := fun s => "\"" ++ s ++ "\""
    let config : Config := { controller := { inventoryInterval := .ofSecs (2 ^ 62) } }
    config.isSupported = true ∧ (validate debug config).isOk = true ∧ ∀ controller, freshness config controller = none := by
  refine ⟨by decide +kernel, by decide +kernel, fun controller => ?_⟩
  have hfallback : inventoryFallback { controller := { inventoryInterval := .ofSecs (2 ^ 62) } } = none := by
    decide +kernel
  unfold freshness
  rw [hfallback]
  cases freshnessHorizons { controller := { inventoryInterval := .ofSecs (2 ^ 62) } } <;> rfl

end Operations

end Sentinel
