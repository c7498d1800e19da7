import Sentinel.Lib.Cutting

/-!
# The port of SSH

The port that `sshd` listens on is read from its configuration: the first valid `Port`, or
else what follows the last colon of a `ListenAddress`.  An IPv6 address without a port has
colons as well, and its last group may be a number.

## Main definitions

* `parseSshdPort` — what the code reads.
* `explicitPort`, `statedPort` — the ports that addresses and a configuration state.

## Main results

* `parseSshdPort_eq` — what the code reads, line by line.
* `explicitPort_eq_some_iff` — which addresses state a port.
* `parseSshdPort_iff` — **when the port read is the one stated.**
-/

namespace Sentinel

/-! ### What the code reads -/

/-- The fields of a line, without its comment. -/
def sshdFields (line : List Char) : List (List Char) :=
  Text.splitWhitespace (Text.trim (line.takeWhile (· ≠ '#')))

/-- Read a port. -/
def readPort (value : List Char) : Option ℕ := Text.parseBelow (2 ^ 16) value

/-- What follows the last colon of an address, if it is a port. -/
def tailPort (value : List Char) : Option ℕ := (Text.rsplitOnce [':'] value).bind fun parts => readPort parts.2

/-- Go through lines, with the port of an address found so far. -/
def scanSshd : Option ℕ → List (List Char) → Option ℕ
  | found, [] => found
  | found, line :: lines =>
    match sshdFields line with
    | [] => scanSshd found lines
    | keyword :: fields =>
      match if Text.eqIgnoreCase keyword "Port".toList then fields.head?.bind readPort else none with
      | some port => some port
      | none =>
        match Text.eqIgnoreCase keyword "ListenAddress".toList && found.isNone, fields.head? with
        | true, some value => scanSshd (tailPort value) lines
        | _, _ => scanSshd found lines

/-- Parse the effective port out of a configuration of `sshd`. -/
def parseSshdPort (config : List Char) : Option ℕ := scanSshd none (Text.lines config)

/-! ### What a configuration states -/

/-- The value that a line gives to a keyword. -/
def valueOf (name : String) (line : List Char) : Option (List Char) :=
  match sshdFields line with
  | keyword :: value :: _ => if Text.eqIgnoreCase keyword name.toList then some value else none
  | _ => none

/-- The values that a configuration gives to a keyword. -/
def valuesOf (name : String) (config : List Char) : List (List Char) := (Text.lines config).filterMap (valueOf name)

/-- Whether something stands in brackets. -/
def isBracketed (host : List Char) : Bool := host.head? = some '[' && host.getLast? = some ']'

/-- The port that an address states: after a colon that follows a name, an IPv4 address, or an
IPv6 address in brackets. -/
def explicitPort (value : List Char) : Option ℕ :=
  (Text.rsplitOnce [':'] value).bind fun parts =>
    if ':' ∉ parts.1 ∨ isBracketed parts.1 = true then readPort parts.2 else none

/-- The port that a configuration states. -/
def statedPort (config : List Char) : Option ℕ :=
  ((valuesOf "Port" config).findSome? readPort).or ((valuesOf "ListenAddress" config).findSome? explicitPort)

/-! ### Addresses -/

section Addresses

variable {value host number : List Char} {port : ℕ}

/-- A port has digits only. -/
theorem notMem_of_readPort (h : readPort number = some port) : ':' ∉ number := by
  intro hcolon
  obtain ⟨digits, rfl | rfl, hdigits⟩ := Text.digits_of_parseBelow h
  · rcases List.mem_cons.mp hcolon with heq | hcolon
    · exact absurd heq (by decide)
    · exact absurd (hdigits _ hcolon) (by decide)
  · exact absurd (hdigits _ hcolon) (by decide)

/-- **Which addresses state a port.** -/
theorem explicitPort_eq_some_iff : explicitPort value = some port ↔
    ∃ host number, value = host ++ ':' :: number ∧ (':' ∉ host ∨ ∃ address, host = '[' :: (address ++ [']'])) ∧
      readPort number = some port := by
  have hbracketed : ∀ host : List Char, isBracketed host = true ↔ ∃ address, host = '[' :: (address ++ [']']) := by
    intro host
    unfold isBracketed
    rw [Bool.and_eq_true, decide_eq_true_iff, decide_eq_true_iff]
    constructor
    · rintro ⟨hhead, hlast⟩
      obtain ⟨rest, rfl⟩ := List.head?_eq_some_iff.mp hhead
      obtain ⟨start, hrest⟩ := List.getLast?_eq_some_iff.mp hlast
      cases start with
      | nil => exact absurd (List.cons.inj hrest).1 (by decide)
      | cons c start => exact ⟨start, by rw [hrest, (List.cons.inj hrest).1, List.cons_append]⟩
    · rintro ⟨address, rfl⟩
      exact ⟨rfl, by rw [← List.cons_append, List.getLast?_concat]⟩
  unfold explicitPort
  rw [Option.bind_eq_some_iff]
  constructor
  · rintro ⟨⟨host, number⟩, hsplit, hport⟩
    split at hport
    · next hhost => exact ⟨host, number, Text.eq_of_rsplitOnce hsplit, hhost.imp_right (hbracketed host).mp, hport⟩
    · cases hport
  · rintro ⟨host, number, rfl, hhost, hport⟩
    refine ⟨(host, number), Text.rsplitOnce_append_of_notMem host (notMem_of_readPort hport), ?_⟩
    rw [if_pos (hhost.imp_right (hbracketed host).mpr)]
    exact hport

/-- The port that an address states follows its last colon. -/
theorem tailPort_of_explicitPort (h : explicitPort value = some port) : tailPort value = some port := by
  obtain ⟨parts, hsplit, hport⟩ := Option.bind_eq_some_iff.mp h
  split at hport
  · exact Option.bind_eq_some_iff.mpr ⟨parts, hsplit, hport⟩
  · cases hport

/-- The first number after a last colon, and the first port stated. -/
theorem findSome?_explicitPort_iff (values : List (List Char)) :
    values.findSome? tailPort = values.findSome? explicitPort ↔
      ∀ value, values.find? (fun value => (tailPort value).isSome) = some value →
        (explicitPort value).isSome = true ∨ values.findSome? explicitPort = tailPort value := by
  have hnone : ∀ value, tailPort value = none → explicitPort value = none := by
    intro value htail
    refine Option.eq_none_iff_forall_ne_some.mpr fun port hport => ?_
    rw [tailPort_of_explicitPort hport] at htail
    cases htail
  cases hfind : values.find? (fun value => (tailPort value).isSome) with
  | none =>
    have htails : ∀ value ∈ values, tailPort value = none := fun value hvalue => by
      simpa using List.find?_eq_none.mp hfind value hvalue
    refine iff_of_true ?_ nofun
    rw [List.findSome?_eq_none_iff.mpr htails,
      List.findSome?_eq_none_iff.mpr fun value hvalue => hnone value (htails value hvalue)]
  | some value =>
    obtain ⟨hsome, before, after, rfl, hbefore⟩ := List.find?_eq_some_iff_append.mp hfind
    obtain ⟨port, hport⟩ := Option.isSome_iff_exists.mp hsome
    have htails : before.findSome? tailPort = none :=
      List.findSome?_eq_none_iff.mpr fun value hvalue => by simpa using hbefore value hvalue
    have hexplicits : before.findSome? explicitPort = none :=
      List.findSome?_eq_none_iff.mpr fun value hvalue => hnone value (by simpa using hbefore value hvalue)
    rw [List.findSome?_append, List.findSome?_append, htails, hexplicits, Option.none_or, Option.none_or,
      List.findSome?_cons, hport]
    simp only [Option.some.injEq, forall_eq']
    rw [hport]
    constructor
    · exact fun h => Or.inr h.symm
    · rintro (hexplicit | h)
      · obtain ⟨stated, hstated⟩ := Option.isSome_iff_exists.mp hexplicit
        rw [List.findSome?_cons, hstated, ← hport, tailPort_of_explicitPort hstated]
      · exact h.symm

end Addresses

/-! ### Lines -/

section Lines

/-- No keyword is both. -/
theorem not_port_and_listenAddress (keyword : List Char) : ¬ (Text.eqIgnoreCase keyword "Port".toList = true ∧
    Text.eqIgnoreCase keyword "ListenAddress".toList = true) := by
  rintro ⟨hport, hlisten⟩
  rw [Text.eqIgnoreCase, decide_eq_true_iff] at hport hlisten
  exact absurd (hport.symm.trans hlisten) (by decide)

/-- What a line does to the port found so far. -/
theorem scanSshd_cons (found : Option ℕ) (line : List Char) (lines : List (List Char)) :
    scanSshd found (line :: lines) = match (valueOf "Port" line).bind readPort with
      | some port => some port
      | none => scanSshd (found.or ((valueOf "ListenAddress" line).bind tailPort)) lines := by
  rw [scanSshd, valueOf, valueOf]
  cases hfields : sshdFields line with
  | nil => cases found <;> rfl
  | cons keyword fields =>
    have hboth := not_port_and_listenAddress keyword
    cases fields with
    | nil =>
      dsimp only
      generalize Text.eqIgnoreCase keyword "Port".toList = isPort
      generalize Text.eqIgnoreCase keyword "ListenAddress".toList = isListenAddress
      cases isPort <;> cases isListenAddress <;> cases found <;> rfl
    | cons value fields =>
      dsimp only
      generalize Text.eqIgnoreCase keyword "Port".toList = isPort at hboth ⊢
      generalize Text.eqIgnoreCase keyword "ListenAddress".toList = isListenAddress at hboth ⊢
      cases isPort with
      | true =>
        obtain rfl : isListenAddress = false := by simpa using hboth
        cases found <;> rfl
      | false => cases isListenAddress <;> cases found <;> rfl

/-- What the code reads, line by line. -/
theorem scanSshd_eq (lines : List (List Char)) : ∀ found : Option ℕ, scanSshd found lines =
    ((lines.filterMap (valueOf "Port")).findSome? readPort).or
      (found.or ((lines.filterMap (valueOf "ListenAddress")).findSome? tailPort)) := by
  induction lines with
  | nil => intro found; cases found <;> rfl
  | cons line lines ih =>
    intro found
    have hcons : ∀ {β : Type} (read : List Char → Option β) (name : String),
        ((line :: lines).filterMap (valueOf name)).findSome? read =
          ((valueOf name line).bind read).or ((lines.filterMap (valueOf name)).findSome? read) := by
      intro β read name
      rw [List.filterMap_cons]
      cases valueOf name line with
      | none => rfl
      | some value =>
        rw [List.findSome?_cons, Option.bind_some]
        cases read value <;> rfl
    rw [scanSshd_cons, hcons, hcons]
    cases (valueOf "Port" line).bind readPort with
    | some port => rfl
    | none => rw [ih, Option.or_assoc, Option.none_or]

theorem parseSshdPort_eq (config : List Char) : parseSshdPort config =
    ((valuesOf "Port" config).findSome? readPort).or ((valuesOf "ListenAddress" config).findSome? tailPort) :=
  scanSshd_eq _ none

/-- **The port read is the one stated** exactly if there is a valid `Port`, or the first
address that has a number after its last colon states a port, or the first one that does
states that number. -/
theorem parseSshdPort_iff (config : List Char) : parseSshdPort config = statedPort config ↔
    ((∃ value ∈ valuesOf "Port" config, (readPort value).isSome = true) ∨
      ∀ value, (valuesOf "ListenAddress" config).find? (fun value => (tailPort value).isSome) = some value →
        (explicitPort value).isSome = true ∨
          (valuesOf "ListenAddress" config).findSome? explicitPort = tailPort value) := by
  rw [parseSshdPort_eq, statedPort]
  cases hport : (valuesOf "Port" config).findSome? readPort with
  | some port =>
    obtain ⟨value, hvalue, hread⟩ := List.exists_of_findSome?_eq_some hport
    exact iff_of_true rfl (Or.inl ⟨value, hvalue, by rw [hread]; rfl⟩)
  | none =>
    rw [Option.none_or, Option.none_or, ← findSome?_explicitPort_iff, or_iff_right]
    rintro ⟨value, hvalue, hsome⟩
    rw [List.findSome?_eq_none_iff.mp hport value hvalue] at hsome
    cases hsome

/-- Of an IPv6 address without a port the last group is read. -/
theorem bare_address_read :
    parseSshdPort "ListenAddress 2001:db8::1\n".toList = some 1 ∧
      statedPort "ListenAddress 2001:db8::1\n".toList = none := by
  decide +kernel

end Lines

end Sentinel
