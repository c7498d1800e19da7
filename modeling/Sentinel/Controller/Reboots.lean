import Sentinel.Controller.Metadata

/-!
# Reboots

A changed boot id is the only reliable evidence of a reboot.  The boot id of a host is
kept in its metadata, under `host`, with everything else its agent reported of it.  A
registration replaces all of that, so that the boot id known is the one the last
registration carried, and none if it carried none.

## Main definitions

* `Tables.storedBootId` — the boot id recorded for an entity.
* `registerAgent` — record an agent registration.

## Main results

* `Tables.storedBootId_after` — the boot id known after any history.
* `reboot_recorded_iff` — when a registration records a reboot as it should.
-/

namespace Sentinel

/-- What a registration resulted in. -/
structure Registration where
  /-- The host entity the agent reports for. -/
  entityId : EntityId
  /-- Whether the host had rebooted since the previous registration. -/
  rebooted : Bool
  deriving DecidableEq, Repr

/-- What is observed of a reboot. -/
def rebootPayload (previousBootId bootId : Option String) : Json :=
  .obj [
    ("event", .str "host_rebooted"),
    ("previous_boot_id", .ofOptionStr previousBootId),
    ("boot_id", .ofOptionStr bootId)]

section Register

variable (home : EntityId → String) (entityId : EntityKey → EntityId) (environment : String)

/-- The boot id recorded for an entity of the environment, if any. -/
def Tables.storedBootId (tables : Tables) (id : EntityId) : Option String :=
  (tables.within home environment).entities[id]?.bind fun row =>
    ((row.metadata.get "host").bind fun host => host.get "boot_id").bind Json.asStr

/-- Record an agent registration: the tables after it, what it resulted in, and what the
boot probe observed of the host, if anything. -/
def registerAgent (tables : Tables) (request : RegisterRequest) : Tables × Registration × Option Json :=
  let id := request.host entityId
  let previousBootId := tables.storedBootId home environment id
  let rebooted := match previousBootId, request.bootId with
    | some before, some after => decide (before ≠ after)
    | _, _ => false
  (tables.serve home entityId environment (.register request), ⟨id, rebooted⟩,
    if rebooted then some (rebootPayload previousBootId request.bootId) else none)

end Register

variable {home : EntityId → String} {entityId : EntityKey → EntityId} {edgeId : Relation → Uuid}
  {environment : String} {tables : Tables} {request : RegisterRequest}

/-- The boot ids that registrations carried, in order. -/
def bootIds (registrations : List RegisterRequest) : List String :=
  registrations.filterMap RegisterRequest.bootId

/-- A registration carries another boot id than the one before it that carried any. -/
def Rebooted (earlier : List RegisterRequest) (request : RegisterRequest) : Prop :=
  ∃ before ∈ (bootIds earlier).getLast?, ∃ after ∈ request.bootId, before ≠ after

/-! ### The boot id known -/

theorem asStr_ofOptionStr (text : Option String) : (Json.ofOptionStr text).asStr = text := by
  cases text <;> rfl

/-- **The boot id known** is the one the last registration carried, if the controller
serves the host's environment. -/
theorem Tables.storedBootId_after (events : List Event) (id : EntityId) :
    (after home entityId edgeId environment events).storedBootId home environment id =
      if home id = environment then
        (registrationsOf entityId events id).getLast?.bind RegisterRequest.bootId else none := by
  rw [storedBootId, getElem?_within]
  split
  · next hhome =>
    have hfield : (after home entityId edgeId environment events).field id "host" = _ :=
      field_host hhome events
    rw [field] at hfield
    rw [← Option.bind_assoc, ← Option.bind_assoc, hfield, Option.bind_map]
    cases (registrationsOf entityId events id).getLast? with
    | none => rfl
    | some request => exact asStr_ofOptionStr request.bootId
  · rfl

/-- The last registration's boot id is the last boot id. -/
theorem getLast?_bootIds {earlier : List RegisterRequest} {last : RegisterRequest} {bootId : String}
    (hlast : earlier.getLast? = some last) (hbootId : last.bootId = some bootId) :
    (bootIds earlier).getLast? = some bootId := by
  obtain ⟨before, rfl⟩ := List.getLast?_eq_some_iff.mp hlast
  rw [bootIds, List.filterMap_append, List.getLast?_append, List.filterMap_cons_some hbootId]
  rfl

/-! ### When a reboot is recorded -/

/-- A reboot is recorded if the boot id known is another one. -/
theorem registerAgent_records_iff :
    (registerAgent home entityId environment tables request).2.2.isSome ↔
      ∃ before ∈ tables.storedBootId home environment (request.host entityId),
        ∃ after ∈ request.bootId, before ≠ after := by
  rw [registerAgent]
  cases tables.storedBootId home environment (request.host entityId) with
  | none => simp
  | some before =>
    cases request.bootId with
    | none => simp
    | some after => by_cases h : before = after <;> simp [h]

/-- **Reboots.**  After any history of registrations and cycles, a registration records a
reboot just when it carries another boot id than the last one that was carried, if and
only if it carries none, or none was carried before, or the last one was the same, or
the host's last registration carried one and the controller serves the host's
environment. -/
theorem reboot_recorded_iff (events : List Event) (request : RegisterRequest) :
    let host := request.host entityId
    let earlier := registrationsOf entityId events host
    let tables := Tables.after home entityId edgeId environment events
    (((registerAgent home entityId environment tables request).2.2.isSome ↔ Rebooted earlier request) ↔
      request.bootId = none ∨ (bootIds earlier).getLast? = none ∨
      (bootIds earlier).getLast? = request.bootId ∨
      (home host = environment ∧ ∃ last ∈ earlier.getLast?, last.bootId.isSome)) := by
  intro host earlier tables
  rw [registerAgent_records_iff, Tables.storedBootId_after]
  constructor
  · intro h
    cases hafter : request.bootId with
    | none => exact Or.inl rfl
    | some after =>
      cases hbefore : (bootIds earlier).getLast? with
      | none => exact Or.inr (Or.inl rfl)
      | some before =>
        by_cases hsame : before = after
        · exact Or.inr (Or.inr (Or.inl (by rw [hsame])))
        · -- a reboot that is recorded was noticed by the boot id known
          obtain ⟨known, hknown, -⟩ := h.mpr ⟨before, hbefore, after, hafter, hsame⟩
          rw [Option.mem_def] at hknown
          split at hknown
          · next hhome =>
            obtain ⟨last, hlast, hbootId⟩ := Option.bind_eq_some_iff.mp hknown
            exact Or.inr (Or.inr (Or.inr ⟨hhome, last, hlast, by rw [hbootId]; rfl⟩))
          · cases hknown
  · intro h
    have hknown : ∀ known, known ∈ (if home host = environment then
        earlier.getLast?.bind RegisterRequest.bootId else none) → (bootIds earlier).getLast? = some known := by
      intro known hknown
      rw [Option.mem_def] at hknown
      split at hknown
      · obtain ⟨last, hlast, hbootId⟩ := Option.bind_eq_some_iff.mp hknown
        exact getLast?_bootIds hlast hbootId
      · cases hknown
    constructor
    · rintro ⟨known, hmem, after, hafter, hne⟩
      exact ⟨known, hknown known hmem, after, hafter, hne⟩
    · rintro ⟨before, hbefore, after, hafter, hne⟩
      rw [Option.mem_def] at hbefore hafter
      rcases h with h | h | h | ⟨hhome, last, hlast, hsome⟩
      · rw [hafter] at h; cases h
      · rw [hbefore] at h; cases h
      · rw [hbefore, hafter] at h; exact absurd (Option.some.inj h) hne
      · obtain ⟨bootId, hbootId⟩ := Option.isSome_iff_exists.mp hsome
        have hsame := getLast?_bootIds hlast hbootId
        rw [hbefore] at hsame
        cases hsame
        refine ⟨before, ?_, after, hafter, hne⟩
        rw [Option.mem_def, if_pos hhome, hlast]
        exact hbootId

/-- A host registers with a boot id, then without, then with another boot id.  The reboot
is not recorded. -/
theorem reboot_unnoticed :
    let register (bootId : Option String) : RegisterRequest :=
      { protocolVersion := 1, agentVersion := "0.1.0", environment := "prod", hostname := "h",
        bootId := bootId, capabilities := ∅ }
    let events := [Event.register (register (some "boot-1")), .register (register none)]
    let request := register (some "boot-2")
    let tables := Tables.after (fun _ => "prod") (fun _ => ⟨⟨1⟩⟩) (fun _ => ⟨0⟩) "prod" events
    ¬ ((registerAgent (fun _ => "prod") (fun _ => ⟨⟨1⟩⟩) "prod" tables request).2.2.isSome ↔
      Rebooted (registrationsOf (fun _ => ⟨⟨1⟩⟩) events ⟨⟨1⟩⟩) request) := by
  intro register events request tables h
  have hsilent : (registerAgent (fun _ => "prod") (fun _ => ⟨⟨1⟩⟩) "prod" tables request).2.2.isSome =
      false := by
    decide +kernel
  have hrebooted : Rebooted (registrationsOf (fun _ => ⟨⟨1⟩⟩) events ⟨⟨1⟩⟩) request :=
    ⟨"boot-1", rfl, "boot-2", rfl, by decide⟩
  rw [hsilent] at h
  exact absurd (h.mpr hrebooted) (by decide)

end Sentinel
