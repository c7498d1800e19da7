import Sentinel.Config

/-!
# Checking a configuration

`sentinel config check`.  Validation reports every problem it can find rather than stopping
at the first.  A configuration with an error cannot be used as written; a warning is only
worth mentioning.

## Main definitions

* `ValidationIssue`, `ValidationReport` — what was found.
* `validate` — the check.
-/

namespace Sentinel

/-- How serious a validation finding is. -/
inductive IssueSeverity
  /-- Worth mentioning; the configuration still works. -/
  | warning
  /-- The configuration cannot be used as written. -/
  | error
  deriving DecidableEq, Repr

/-- One validation finding. -/
structure ValidationIssue where
  /-- How serious it is. -/
  severity : IssueSeverity
  /-- Dotted path of the offending setting. -/
  location : String
  /-- What is wrong. -/
  message : String
  deriving DecidableEq, Repr

namespace ValidationIssue

/-- A finding that makes the configuration unusable. -/
def error (location message : String) : ValidationIssue := ⟨.error, location, message⟩

/-- A finding worth mentioning. -/
def warning (location message : String) : ValidationIssue := ⟨.warning, location, message⟩

end ValidationIssue

/-- Everything found, in discovery order. -/
abbrev ValidationReport := List ValidationIssue

/-- Whether the configuration is usable. -/
def ValidationReport.isOk (report : ValidationReport) : Bool :=
  !report.any fun issue => issue.severity = .error

namespace Validate

-- how a text is quoted in a message
variable (debug : String → String)

/-- Whether a text is nothing but white space. -/
def isBlank (s : String) : Bool := (Text.trim s.toList).isEmpty

/-- Accept `host:port`; this only catches shapes that can never work. -/
def endpoint (value location : String) : ValidationReport :=
  -- the last colon: what stands before it backwards, and the port backwards
  match Text.splitOnce [':'] value.toList.reverse with
  | none => [.error location ("expected \"host:port\", got " ++ debug value)]
  | some (port, host) =>
    let host := String.ofList host.reverse
    let port := String.ofList port.reverse
    (if isBlank host then [.error location "host part is empty"] else []) ++
    match Text.parseBelow (2 ^ 16) port.toList with
    | some 0 => [.error location "port 0 is not a valid endpoint"]
    | some _ => []
    | none => [.error location ("invalid port " ++ debug port)]

/-- The entity a reference `type/name` names. -/
def parseEntityRef (value : String) : Option (String × String) :=
  match Text.splitOnce ['/'] value.toList with
  | none => none
  | some (entityType, name) =>
    let entityType := String.ofList entityType
    let name := String.ofList name
    if entityType.isEmpty || name.isEmpty || (EntityType.parse entityType).isNone then none
    else some (entityType, name)

/-- The findings about the capabilities of a declared entity. -/
def capabilities (location : String) (index : ℕ) : List String → ValidationReport
  | [] => []
  | capability :: rest =>
    (if isBlank capability then [.error s!"{location}.capabilities[{index}]" "must not be empty"] else []) ++
      capabilities location (index + 1) rest

/-- The findings about declared entities, after those declared before them. -/
def entities (index : ℕ) (declared : List (String × String)) : List EntityConfig → ValidationReport
  | [] => []
  | entity :: rest =>
    let location := s!"entities[{index}]"
    (if (EntityType.parse entity.entityType).isNone then
        [.error s!"{location}.type" ("unknown entity type " ++ debug entity.entityType)] else []) ++
    (if isBlank entity.name then [.error s!"{location}.name" "must not be empty"] else []) ++
    (if (entity.entityType, entity.name) ∈ declared then
        [.error location s!"duplicate entity {entity.entityType}/{entity.name}"] else []) ++
    capabilities location 0 entity.capabilities ++
    entities (index + 1) ((entity.entityType, entity.name) :: declared) rest

/-- The findings about one end of a declared dependency. -/
def reference (declared : List (String × String)) (location raw : String) : ValidationReport :=
  match parseEntityRef raw with
  | none => [.error location ("expected \"type/name\", got " ++ debug raw)]
  | some reference =>
    -- not an error: the entity may legitimately arrive from discovery or registration
    if reference ∉ declared then
      [.warning location (raw ++ " is not declared here; it must come from discovery or registration")]
    else []

/-- The findings about declared dependencies. -/
def dependencies (declared : List (String × String)) (index : ℕ) : List DependencyConfig → ValidationReport
  | [] => []
  | dependency :: rest =>
    let location := s!"dependencies[{index}]"
    reference debug declared s!"{location}.from" dependency.source ++
    reference debug declared s!"{location}.to" dependency.target ++
    (if (parseEntityRef dependency.source).isSome ∧
        parseEntityRef dependency.source = parseEntityRef dependency.target then
        [.warning location "self-dependency has no effect on diagnosis"] else []) ++
    (if (Criticality.parse dependency.criticality).isNone then
        [.error s!"{location}.criticality" ("unknown criticality " ++ debug dependency.criticality)] else []) ++
    dependencies declared (index + 1) rest

/-- Warn about retention settings that let the database grow unchecked. -/
def retention (config : Config.RetentionConfig) : ValidationReport :=
  if !config.enabled then
    [.warning "retention.enabled" ("pruning is off: the database will grow until the disk is full unless " ++
      "something else removes rows from it")]
  else
    (if config.observations = .forever then
        [.warning "retention.observations" ("observations are kept forever: they are the bulk of the database, " ++
          "measured at roughly 170 MB per host per day")] else []) ++
    (if config.keepPerEntity.toNat < minKeepPerEntity then
        [.warning "retention.keep_per_entity" (s!"raised to {minKeepPerEntity} at prune time: " ++
          "diagnosis reads that many recent observations per entity, and a lower floor would let pruning " ++
          "blind it")] else []) ++
    if config.interval.nanos < 60 * 10 ^ 9 then
      [.warning "retention.interval" "pruning more than once a minute spends write locks to delete almost nothing"]
    else []

/-- Configuration mistakes that would otherwise appear as a handshake failure. -/
def problems (config : TlsConfig) : List String :=
  (if config.cert.isSome ≠ config.key.isSome then ["tls.cert and tls.key must be set together"] else []) ++
  (if config.clientCert.isSome ≠ config.clientKey.isSome then
    ["tls.client_cert and tls.client_key must be set together"] else []) ++
  (if config.clientCa.isSome ∧ ¬ (config.cert.isSome ∧ config.key.isSome) then
    ["tls.client_ca requires tls.cert and tls.key: client certificates can only be verified on a TLS listener"]
    else []) ++
  if config.insecureSkipVerify ∧ config.ca.isSome then
    ["tls.insecure_skip_verify makes tls.ca pointless: nothing is verified"]
  else []

/-- Report transport security that cannot work, or that works but protects nothing. -/
def tls (config : TlsConfig) : ValidationReport :=
  (problems config).map (.error "tls") ++
  if config.insecureSkipVerify then
    [.warning "tls.insecure_skip_verify" ("the controller certificate is not checked: anyone who can redirect " ++
      "the connection can read the cluster credential")]
  else []

/-- The findings about the schedule of one probe. -/
def schedule (probe : ProbeId) (schedule : ProbeSchedule) : ValidationReport :=
  let location := "probes." ++ debug probe.name
  if !isKnown probe then
    [.error location ("unknown probe; known probes are: " ++ ", ".intercalate (catalogIds.map ProbeId.name))]
  else
    (if schedule.interval.any fun interval => interval.nanos < 10 ^ 9 then
      [.warning (location ++ ".interval") ("under a second: probes cost a syscall or a connection each, " ++
        "and this one will spend more time being scheduled than measuring")] else []) ++
    (if schedule.interval.any fun interval => schedule.timeout.any fun timeout => interval.nanos < timeout.nanos then
      [.warning (location ++ ".timeout") "longer than the interval: executions will overlap"] else []) ++
    if schedule.enabled = some false then
      [.warning (location ++ ".enabled")
        "this probe is switched off; anything diagnosed from it will not be reported"]
    else []

/-- Catch probe schedules that name a probe that does not exist, or that ask for a cadence
nobody wants. -/
def probes (schedules : ProbeSchedules) : ValidationReport :=
  schedules.toList.flatMap fun probe => schedule debug probe.1 probe.2

end Validate

/-- Check a configuration for problems. -/
def validate (debug : String → String) (config : Config) : ValidationReport :=
  (if Validate.isBlank config.environment then [.error "environment" "must not be empty"] else []) ++
  Validate.endpoint debug config.controller.listen "controller.listen" ++
  config.agent.controllerAddress.elim [] (Validate.endpoint debug · "agent.controller_address") ++
  (if config.peerMonitoring.degree = 0 then
    [.warning "peer_monitoring.degree" ("0 disables peer monitoring; a single observer failure will then " ++
      "look like a host failure")] else []) ++
  Validate.entities debug 0 [] config.entities ++
  Validate.dependencies debug (config.entities.map fun entity => (entity.entityType, entity.name)) 0
    config.dependencies ++
  Validate.retention config.retention ++
  Validate.tls config.tls ++
  Validate.probes debug config.probes

/-! ### What an accepted configuration is -/

section Accepted

variable {debug : String → String} {report report' : ValidationReport}

theorem ValidationReport.isOk_append :
    ValidationReport.isOk (report ++ report') = (report.isOk && report'.isOk) := by
  simp [ValidationReport.isOk]

/-- An accepted configuration schedules only probes that exist. -/
theorem isKnown_of_isOk {config : Config} (h : (validate debug config).isOk = true) {probe : ProbeId}
    {schedule : ProbeSchedule} (hprobe : config.probes[probe]? = some schedule) : isKnown probe = true := by
  by_contra hunknown
  have hmem : (probe, schedule) ∈ config.probes.toList :=
    Std.ExtTreeMap.mem_toList_iff_getElem?_eq_some.mpr hprobe
  have hissue : ValidationIssue.error ("probes." ++ debug probe.name)
      ("unknown probe; known probes are: " ++ ", ".intercalate (catalogIds.map ProbeId.name)) ∈
      Validate.probes debug config.probes := by
    refine List.mem_flatMap.mpr ⟨(probe, schedule), hmem, ?_⟩
    rw [Validate.schedule, if_pos (by simpa using hunknown)]
    exact List.mem_singleton_self _
  rw [validate, ValidationReport.isOk_append, Bool.and_eq_true] at h
  have hnone : ∀ issue ∈ Validate.probes debug config.probes, ¬ issue.severity = .error := by
    simpa [ValidationReport.isOk] using h.2
  exact hnone _ hissue rfl

end Accepted

end Sentinel
