import Sentinel.Lib.Collections

/-!
# Identifiers and time

The identifiers every other part of the monitor is keyed by, the wall clock, and
the structured values probes attach to what they saw.

An entity identifier is a UUID derived from the entity's natural key, an
observation identifier one allocated at random; a probe identifier is its dotted
name.  All three are ordered as the source orders them: UUIDs by their sixteen
bytes, which is by value, and names as strings.
-/

namespace Sentinel

/-! ### Time -/

/-- A UTC wall-clock instant, in microseconds, the resolution `now` keeps. -/
abbrev Timestamp := ℤ

/-- A signed length of time, in microseconds. -/
abbrev Duration := ℤ

/-- `n` seconds. -/
def seconds (n : ℤ) : Duration := n * 1000000

/-- `n` minutes. -/
def minutes (n : ℤ) : Duration := seconds (n * 60)

/-- `MAX_FUTURE_SKEW_SECONDS`: how far ahead of the clock an observation may be
dated and still vote on health. -/
def maxFutureSkew : Duration := seconds 5

/-! ### Identifiers -/

/-- A UUID: sixteen bytes, most significant first. -/
structure Uuid where
  /-- The bytes read as one number. -/
  value : BitVec 128
  deriving DecidableEq, Repr, Inhabited

/-- Stable identifier of a managed entity. -/
structure EntityId where
  /-- The wrapped UUID. -/
  uuid : Uuid
  deriving DecidableEq, Repr, Inhabited

/-- Globally unique identifier of an observation. -/
structure ObservationId where
  /-- The wrapped UUID. -/
  uuid : Uuid
  deriving DecidableEq, Repr, Inhabited

/-- Identifier of a probe kind, such as `network.tcp`. -/
structure ProbeId where
  /-- The dotted name. -/
  name : String
  deriving DecidableEq, Repr, Inhabited

theorem Uuid.toNat_injective : Function.Injective fun u : Uuid => u.value.toNat := by
  rintro ⟨a⟩ ⟨b⟩ h
  exact congrArg Uuid.mk (BitVec.eq_of_toNat_eq h)

instance : LinearOrder Uuid := LinearOrder.lift' (fun u => u.value.toNat) Uuid.toNat_injective

instance : LinearOrder EntityId :=
  LinearOrder.lift' EntityId.uuid fun a b h => by cases a; cases b; exact congrArg EntityId.mk h

instance : LinearOrder ObservationId :=
  LinearOrder.lift' ObservationId.uuid fun a b h => by
    cases a; cases b; exact congrArg ObservationId.mk h

instance : LinearOrder ProbeId :=
  LinearOrder.lift' ProbeId.name fun a b h => by cases a; cases b; exact congrArg ProbeId.mk h

/-- A namespaced capability name, such as `storage.nfs.server`. -/
structure Capability where
  /-- The dotted name. -/
  name : String
  deriving DecidableEq, Repr, Inhabited

instance : LinearOrder Capability :=
  LinearOrder.lift' Capability.name fun a b h => by cases a; cases b; exact congrArg Capability.mk h

/-- The text of a UUID: thirty-two hexadecimal digits, in groups of eight, four,
four, four and twelve. -/
def Uuid.toText (u : Uuid) : String :=
  let digits := (List.range 32).map fun i => (u.value.toNat / 16 ^ (31 - i) % 16).digitChar
  let group (start length : ℕ) := String.ofList ((digits.drop start).take length)
  "-".intercalate [group 0 8, group 8 4, group 12 4, group 16 4, group 20 12]

/-- The hexadecimal digits of a UUID. -/
def Uuid.digits (u : Uuid) : List Char :=
  (List.range 32).map fun i => (u.value.toNat / 16 ^ (31 - i) % 16).digitChar

theorem Uuid.dash_notMem_digits (u : Uuid) : '-' ∉ u.digits := by
  have hchar : ∀ a < 16, Nat.digitChar a ≠ '-' := by decide
  intro h
  obtain ⟨i, -, hi⟩ := List.mem_map.mp h
  exact hchar _ (Nat.mod_lt _ (by omega)) hi

/-- Without its dashes, the text of a UUID is its digits. -/
theorem Uuid.filter_toText (u : Uuid) : u.toText.toList.filter (· ≠ '-') = u.digits := by
  have hkeep : ∀ start length, ((u.digits.drop start).take length).filter (· ≠ '-') =
      (u.digits.drop start).take length := by
    intro start length
    refine List.filter_eq_self.mpr fun c hc => decide_eq_true ?_
    rintro rfl
    exact u.dash_notMem_digits (List.mem_of_mem_drop (List.mem_of_mem_take hc))
  have hjoin : ∀ start length, (u.digits.drop start).take length ++ u.digits.drop (start + length) =
      u.digits.drop start := by
    intro start length
    rw [← List.drop_drop, List.take_append_drop]
  have hlast : u.digits.drop 32 = [] := List.drop_of_length_le (by simp [digits])
  have htext : u.toText.toList.filter (· ≠ '-') =
      (u.digits.drop 0).take 8 ++ ((u.digits.drop 8).take 4 ++ ((u.digits.drop 12).take 4 ++
        ((u.digits.drop 16).take 4 ++ ((u.digits.drop 20).take 12 ++ u.digits.drop 32)))) := by
    rw [← hkeep 0 8, ← hkeep 8 4, ← hkeep 12 4, ← hkeep 16 4, ← hkeep 20 12, hlast]
    simp [toText]
    rfl
  rw [htext, hjoin 20 12, hjoin 16 4, hjoin 12 4, hjoin 8 4, hjoin 0 8, List.drop_zero]

theorem Uuid.toText_ne_empty (u : Uuid) : u.toText ≠ "" := by
  intro h
  have hdigits := congrArg List.length u.filter_toText
  rw [h] at hdigits
  simp [digits] at hdigits

/-- Numbers with the same hexadecimal digits. -/
theorem mod_eq_of_digits {n m : ℕ} (k : ℕ) (h : ∀ i < k, n / 16 ^ i % 16 = m / 16 ^ i % 16) :
    n % 16 ^ k = m % 16 ^ k := by
  induction k with
  | zero => simp [Nat.mod_one]
  | succ k ih =>
    rw [Nat.mod_pow_succ, Nat.mod_pow_succ, ih fun i hi => h i (by omega), h k (by omega)]

/-- The text of a UUID tells it apart. -/
theorem Uuid.toText_injective : Function.Injective Uuid.toText := by
  intro u v h
  have hchar : ∀ a < 16, ∀ b < 16, Nat.digitChar a = Nat.digitChar b → a = b := by decide
  have hdigits : u.digits = v.digits := by rw [← u.filter_toText, h, v.filter_toText]
  have hmod := mod_eq_of_digits (n := u.value.toNat) (m := v.value.toNat) 32 fun i hi => by
    have hget := List.map_inj_left.mp hdigits (31 - i) (List.mem_range.mpr (by omega))
    rw [show 31 - (31 - i) = i by omega] at hget
    exact hchar _ (Nat.mod_lt _ (by omega)) _ (Nat.mod_lt _ (by omega)) hget
  rw [Nat.mod_eq_of_lt (Nat.lt_of_lt_of_eq u.value.isLt (by norm_num)),
    Nat.mod_eq_of_lt (Nat.lt_of_lt_of_eq v.value.isLt (by norm_num))] at hmod
  exact Uuid.toNat_injective hmod
/-! ### Natural keys -/

theorem ObservationId.toText_inj {a b : ObservationId} (h : a.uuid.toText = b.uuid.toText) : a = b := by
  cases a
  cases b
  exact congrArg ObservationId.mk (Uuid.toText_injective h)

/-- What kind of thing an entity is. -/
inductive EntityType
  /-- A physical or virtual Linux machine. -/
  | host
  /-- A service running on a host. -/
  | service
  /-- A storage domain, independent of the hosts backing it. -/
  | storage
  /-- A scheduler, distinct from the host running it. -/
  | scheduler
  /-- Something depended on but not instrumented. -/
  | externalDependency
  deriving DecidableEq, Repr

/-- The natural key of an entity, from which its identifier is derived. -/
structure EntityKey where
  /-- Environment the entity lives in. -/
  environment : String
  /-- Entity type. -/
  entityType : EntityType
  /-- Canonical name, unique within environment and type. -/
  canonicalName : String
  deriving DecidableEq, Repr

/-- Where an entity, a capability or a dependency came from. -/
inductive DiscoverySource
  /-- Declared in the controller configuration file. -/
  | staticConfig
  /-- Reported by an agent registering itself. -/
  | agentRegistration
  /-- Discovered through an integration, by its name. -/
  | integration (name : String)
  /-- Created by an operator. -/
  | manual
  deriving DecidableEq, Repr

/-! ### Structured values -/

/-- A JSON value, as probes put them into an observation's payload. -/
inductive Json
  | null
  | bool (b : Bool)
  | num (n : ℤ)
  | str (s : String)
  | arr (items : List Json)
  | obj (fields : List (String × Json))
  deriving Repr

namespace Json

mutual

/-- Whether two values are the same. -/
def decEq : (a b : Json) → Decidable (a = b)
  | null, null => isTrue rfl
  | bool a, bool b => decidable_of_iff (a = b) (by rw [bool.injEq])
  | num a, num b => decidable_of_iff (a = b) (by rw [num.injEq])
  | str a, str b => decidable_of_iff (a = b) (by rw [str.injEq])
  | arr a, arr b => @decidable_of_iff _ (a = b) (by rw [arr.injEq]) (decEqItems a b)
  | obj a, obj b => @decidable_of_iff _ (a = b) (by rw [obj.injEq]) (decEqFields a b)
  | null, bool _ | null, num _ | null, str _ | null, arr _ | null, obj _ => isFalse Json.noConfusion
  | bool _, null | bool _, num _ | bool _, str _ | bool _, arr _ | bool _, obj _ => isFalse Json.noConfusion
  | num _, null | num _, bool _ | num _, str _ | num _, arr _ | num _, obj _ => isFalse Json.noConfusion
  | str _, null | str _, bool _ | str _, num _ | str _, arr _ | str _, obj _ => isFalse Json.noConfusion
  | arr _, null | arr _, bool _ | arr _, num _ | arr _, str _ | arr _, obj _ => isFalse Json.noConfusion
  | obj _, null | obj _, bool _ | obj _, num _ | obj _, str _ | obj _, arr _ => isFalse Json.noConfusion

/-- Whether two lists of values are the same. -/
def decEqItems : (a b : List Json) → Decidable (a = b)
  | [], [] => isTrue rfl
  | a :: as, b :: bs =>
    @decidable_of_iff _ (a = b ∧ as = bs) (by rw [List.cons.injEq])
      (@instDecidableAnd _ _ (decEq a b) (decEqItems as bs))
  | [], _ :: _ => isFalse (List.cons_ne_nil _ _).symm
  | _ :: _, [] => isFalse (List.cons_ne_nil _ _)

/-- Whether two lists of fields are the same. -/
def decEqFields : (a b : List (String × Json)) → Decidable (a = b)
  | [], [] => isTrue rfl
  | (name, a) :: as, (name', b) :: bs =>
    @decidable_of_iff _ (name = name' ∧ a = b ∧ as = bs) (by rw [List.cons.injEq, Prod.mk.injEq, and_assoc])
      (@instDecidableAnd _ _ _ (@instDecidableAnd _ _ (decEq a b) (decEqFields as bs)))
  | [], _ :: _ => isFalse (List.cons_ne_nil _ _).symm
  | _ :: _, [] => isFalse (List.cons_ne_nil _ _)

end

instance : DecidableEq Json := decEq

/-- The value of an object's field. -/
def get : Json → String → Option Json
  | obj fields, field => fields.lookup field
  | _, _ => none

/-- The boolean, if it is one. -/
def asBool : Json → Option Bool
  | bool b => some b
  | _ => none

/-- The text, if it is text. -/
def asStr : Json → Option String
  | str s => some s
  | _ => none

/-- The number, if it is one a `u64` holds. -/
def asU64 : Json → Option ℕ
  | num n => if 0 ≤ n ∧ n < 2 ^ 64 then some n.toNat else none
  | _ => none

/-- An optional text: `null` when there is none. -/
def ofOptionStr : Option String → Json
  | some s => str s
  | none => null

/-- An optional count: `null` when there is none. -/
def ofOptionNat : Option ℕ → Json
  | some n => num n
  | none => null

end Json

end Sentinel
