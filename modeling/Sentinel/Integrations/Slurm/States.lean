import Sentinel.Controller.Builtin
import Sentinel.Integrations.Slurm.Parser
import Sentinel.Lib.Cutting

/-!
# States of nodes

A state is a word for the base state and words for flags, with plus signs between them,
and a symbol after a word is a flag as well.  The code takes symbols off the end of the
whole text only, so a symbol after any other word stays part of that word: the base state
is not recognised, and the flag is lost.

## Main definitions

* `nodeStatus`, `nodePayload` — what is reported of a node.
* `StateWord`, `stateText` — words with their symbols, and the text they make up.
* `Carries` — a text carries a flag, as a word or as a symbol.
* `Recovered` — what reading a state owes to its text.

## Main results

* `parse_stateText` — what the code reads.
* `recovered_iff` — **a state is read for what it is exactly if no word but the last one has
  symbols.**
-/

namespace Sentinel

namespace Slurm

/-! ### What is reported of a node -/

/-- The scheduler's verdict on a node.  A node that is powered down tells nothing about its
health, which is checked first. -/
def nodeStatus (node : SlurmNode) : ProbeStatus :=
  if node.state.has .powerSave || node.state.has .poweringUp || node.state.has .poweringDown then .notApplicable
  else if node.state.isSchedulable then .ok
  else if node.state.base.isSchedulable && node.state.isDrained && !node.state.isNotResponding then .degraded
  else .failed

/-- The facts about a node that an observation of it carries. -/
def nodePayload (node : SlurmNode) : Json :=
  .obj [
    ("node_name", .str node.nodeName),
    ("state", .str node.state.raw),
    ("schedulable", .bool node.state.isSchedulable),
    ("drained", .bool node.state.isDrained),
    ("not_responding", .bool node.state.isNotResponding),
    ("reason", .ofOptionStr node.reason),
    ("partitions", .arr (node.partitions.map .str)),
    ("configured_gpu_count", .ofOptionNat node.configuredGpuCount),
    ("cpu_total", .ofOptionNat node.cpuTotal),
    ("real_memory_mb", .ofOptionNat node.realMemoryMb)]

/-! ### Texts of states -/

/-- A word of a state, with the symbols after it. -/
structure StateWord where
  /-- The word. -/
  name : List Char
  /-- The symbols. -/
  symbols : List Char
  /-- There is a word. -/
  nonempty : name ≠ []
  /-- It has no plus signs, symbols or white space. -/
  plain : ∀ c ∈ name, c ≠ '+' ∧ NodeStateFlag.ofSuffix c = none ∧ Text.isWhitespace c = false
  /-- The symbols are flags. -/
  flags : ∀ c ∈ symbols, (NodeStateFlag.ofSuffix c).isSome = true

namespace StateWord

/-- A word as it is printed. -/
def text (word : StateWord) : List Char := word.name ++ word.symbols

end StateWord

/-- A state as it is printed. -/
def stateText (words : List StateWord) : List Char := ['+'].intercalate (words.map StateWord.text)

/-- A text carries a flag: as a word after the base state, or as a symbol. -/
def Carries (base : StateWord) (rest : List StateWord) (flag : NodeStateFlag) : Prop :=
  (∃ word ∈ rest, NodeStateFlag.parse word.name = flag) ∨
    ∃ word ∈ base :: rest, ∃ symbol ∈ word.symbols, NodeStateFlag.ofSuffix symbol = some flag

/-- What reading a state owes to its text: the base state, the flags and no others; and what
is reported of a node that carries flags. -/
structure Recovered (base : StateWord) (rest : List StateWord) : Prop where
  recognised : (NodeState.parse (stateText (base :: rest))).base = NodeBaseState.parse base.name
  flags : ∀ flag, flag ∈ (NodeState.parse (stateText (base :: rest))).flags ↔ Carries base rest flag
  responding : Carries base rest .notResponding → ∀ node : SlurmNode,
    node.state = NodeState.parse (stateText (base :: rest)) →
      (nodePayload node).get "not_responding" = some (.bool true) ∧ nodeStatus node ≠ .ok
  drained : Carries base rest .drain → ∀ node : SlurmNode,
    node.state = NodeState.parse (stateText (base :: rest)) →
      (nodePayload node).get "drained" = some (.bool true) ∧
        (nodePayload node).get "schedulable" = some (.bool false) ∧ nodeStatus node ≠ .ok

/-! ### What the code reads -/

section Reading

variable {c : Char} {word last : StateWord} {init : List StateWord}

theorem eq_of_ofSuffix {flag : NodeStateFlag} (h : NodeStateFlag.ofSuffix c = some flag) :
    c ∈ ['*', '~', '#', '%', '$', '@'] := by
  unfold NodeStateFlag.ofSuffix at h
  split at h
  all_goals first | decide | cases h

/-- No symbol is a plus sign or white space. -/
theorem plain_of_ofSuffix (h : (NodeStateFlag.ofSuffix c).isSome = true) :
    c ≠ '+' ∧ Text.isWhitespace c = false := by
  obtain ⟨flag, hflag⟩ := Option.isSome_iff_exists.mp h
  have hmem := eq_of_ofSuffix hflag
  simp only [List.mem_cons, List.not_mem_nil, or_false] at hmem
  rcases hmem with rfl | rfl | rfl | rfl | rfl | rfl
  all_goals exact ⟨by decide, rfl⟩

theorem StateWord.plain_text : ∀ c ∈ word.text, c ≠ '+' ∧ Text.isWhitespace c = false := by
  intro c hc
  rcases List.mem_append.mp hc with hc | hc
  · exact ⟨(word.plain c hc).1, (word.plain c hc).2.2⟩
  · exact plain_of_ofSuffix (word.flags c hc)

/-- The symbols at the end are taken off. -/
theorem suffixFlags_append {symbols : List Char} (h : ∀ c ∈ symbols, (NodeStateFlag.ofSuffix c).isSome = true)
    (s : List Char) : ∀ flags, ∃ flags', NodeState.suffixFlags (symbols ++ s) flags = NodeState.suffixFlags s flags' ∧
      ∀ flag, flag ∈ flags' ↔ flag ∈ flags ∨ ∃ symbol ∈ symbols, NodeStateFlag.ofSuffix symbol = some flag := by
  induction symbols with
  | nil => exact fun flags => ⟨flags, rfl, fun flag => by simp⟩
  | cons symbol symbols ih =>
    intro flags
    rw [List.forall_mem_cons] at h
    obtain ⟨first, hfirst⟩ := Option.isSome_iff_exists.mp h.1
    obtain ⟨flags', hflags, hmem⟩ := ih h.2 (flags.insert first)
    refine ⟨flags', ?_, fun flag => ?_⟩
    · rw [List.cons_append, NodeState.suffixFlags, hfirst]
      exact hflags
    · rw [hmem, Std.ExtTreeSet.mem_insert_iff, List.exists_mem_cons_iff, hfirst, Option.some.injEq]
      tauto

/-- The words, the last one without its symbols. -/
def parts (init : List StateWord) (last : StateWord) : List (List Char) := init.map StateWord.text ++ [last.name]

/-- **What the code reads**: the words before the last one with their symbols. -/
theorem parse_stateText (init : List StateWord) (last : StateWord) :
    let state := NodeState.parse (stateText (init ++ [last]))
    state.base = ((parts init last).head?.map NodeBaseState.parse).getD .unknown ∧
      ∀ flag, flag ∈ state.flags ↔ (∃ part ∈ (parts init last).tail, NodeStateFlag.parse part = flag) ∨
        ∃ symbol ∈ last.symbols, NodeStateFlag.ofSuffix symbol = some flag := by
  have hparts : ∀ part ∈ parts init last, part ≠ [] ∧ '+' ∉ part := by
    intro part hpart
    rcases List.mem_append.mp hpart with hpart | hpart
    · obtain ⟨word, -, rfl⟩ := List.mem_map.mp hpart
      exact ⟨fun hnil => word.nonempty (List.append_eq_nil_iff.mp hnil).1, fun hplus => (word.plain_text _ hplus).1 rfl⟩
    · rw [List.mem_singleton.mp hpart]
      exact ⟨last.nonempty, fun hplus => (last.plain _ hplus).1 rfl⟩
  have htext : stateText (init ++ [last]) = ['+'].intercalate (parts init last) ++ last.symbols := by
    rw [stateText, List.map_append, List.map_singleton, StateWord.text, Text.intercalate_concat_append, parts]
  have htrim : Text.trim (stateText (init ++ [last])) = stateText (init ++ [last]) := by
    refine Text.trim_of_forall fun c hc => ?_
    rcases List.mem_of_mem_intercalate hc with hc | ⟨text, htext, hc⟩
    · rw [List.mem_singleton.mp hc]
      rfl
    · obtain ⟨word, -, rfl⟩ := List.mem_map.mp htext
      exact (word.plain_text c hc).2
  -- taking off symbols stops at the last word
  have hstop : ∀ flags, NodeState.suffixFlags (['+'].intercalate (parts init last)).reverse flags =
      (['+'].intercalate (parts init last), flags) := by
    intro flags
    have hend : ['+'].intercalate (parts init last) =
        ['+'].intercalate (init.map StateWord.text ++ [[]]) ++ last.name := by
      rw [parts, ← List.nil_append last.name, Text.intercalate_concat_append, List.nil_append]
    obtain ⟨c, before, hname⟩ := List.exists_cons_of_ne_nil (List.reverse_ne_nil_iff.mpr last.nonempty)
    have hnone := (last.plain c (List.mem_reverse.mp (hname ▸ List.mem_cons_self))).2.1
    have hrest : (['+'].intercalate (parts init last)).reverse =
        c :: (before ++ (['+'].intercalate (init.map StateWord.text ++ [[]])).reverse) := by
      rw [hend, List.reverse_append, hname, List.cons_append]
    rw [hrest, NodeState.suffixFlags, hnone]
    dsimp only
    rw [← hrest, List.reverse_reverse]
  have hsplit : (['+'].intercalate (parts init last)).splitOn '+' = parts init last :=
    List.splitOn_intercalate '+' (fun part hpart => (hparts part hpart).2) (by simp [parts])
  have hfilter : (parts init last).filter (fun part => part ≠ []) = parts init last :=
    List.filter_eq_self.mpr fun part hpart => decide_eq_true (hparts part hpart).1
  obtain ⟨flags, hflags, hmem⟩ := @suffixFlags_append last.symbols.reverse
    (fun c hc => last.flags c (List.mem_reverse.mp hc)) (['+'].intercalate (parts init last)).reverse ∅
  intro state
  have hstate : state = ⟨((parts init last).head?.map NodeBaseState.parse).getD .unknown,
      (parts init last).tail.foldl (fun flags part => flags.insert (NodeStateFlag.parse part)) flags,
      String.ofList (stateText (init ++ [last]))⟩ := by
    have hbody : NodeState.suffixFlags (stateText (init ++ [last])).reverse ∅ =
        (['+'].intercalate (parts init last), flags) := by
      rw [htext, List.reverse_append, hflags, hstop]
    change NodeState.parse _ = _
    unfold NodeState.parse
    simp only [htrim, hbody, hsplit, hfilter]
  rw [hstate]
  refine ⟨rfl, fun flag => ?_⟩
  dsimp only
  rw [← List.foldl_map, Std.ExtTreeSet.mem_foldl_insert, hmem, List.mem_map, or_comm]
  simp

end Reading

/-! ### Words with symbols inside a state -/

section Symbols

variable {value value' : List Char}

/-- Letters are no symbols. -/
theorem ofSuffix_of_isAlpha {c : Char} (h : c.isAlpha = true) : NodeStateFlag.ofSuffix c = none := by
  refine Option.eq_none_iff_forall_ne_some.mpr fun flag hflag => ?_
  have hmem := eq_of_ofSuffix hflag
  simp only [List.mem_cons, List.not_mem_nil, or_false] at hmem
  rcases hmem with rfl | rfl | rfl | rfl | rfl | rfl
  all_goals exact absurd h (by decide)

theorem ofSuffix_toUpper (c : Char) : NodeStateFlag.ofSuffix c.toUpper = NodeStateFlag.ofSuffix c := by
  by_cases h : c.isAlpha = true
  · rw [ofSuffix_of_isAlpha h, ofSuffix_of_isAlpha (by rwa [Char.isAlpha_toUpper_eq_isAlpha])]
  · rw [Char.toUpper_eq_of_not_isLower]
    intro hlower
    exact h (by rw [Char.isAlpha, hlower, Bool.or_true])

/-- Whether a text has symbols. -/
def hasSymbol (value : List Char) : Bool := value.any fun c => (NodeStateFlag.ofSuffix c).isSome

theorem hasSymbol_map_toUpper : hasSymbol (value.map Char.toUpper) = hasSymbol value := by
  simp only [hasSymbol, List.any_map, Function.comp_def, ofSuffix_toUpper]

theorem StateWord.hasSymbol_name (word : StateWord) : hasSymbol word.name = false :=
  List.any_eq_false.mpr fun c hc => by simp [(word.plain c hc).2.1]

theorem StateWord.hasSymbol_text {word : StateWord} (h : word.symbols ≠ []) : hasSymbol word.text = true := by
  obtain ⟨symbol, symbols, hsymbols⟩ := List.exists_cons_of_ne_nil h
  have hmem : symbol ∈ word.symbols := hsymbols ▸ List.mem_cons_self
  exact List.any_eq_true.mpr ⟨symbol, List.mem_append_right _ hmem, word.flags symbol hmem⟩

/-- No name in capitals is that of a text with symbols. -/
theorem ne_of_hasSymbol (h : hasSymbol value = true) (known : String) (hknown : hasSymbol known.toList = false) :
    String.ofList (value.map Char.toUpper) ≠ known := by
  rintro rfl
  rw [String.toList_ofList, hasSymbol_map_toUpper, h] at hknown
  cases hknown

theorem base_of_hasSymbol (h : hasSymbol value = true) :
    NodeBaseState.parse value = .other (String.ofList (value.map Char.toUpper)) := by
  have hne := ne_of_hasSymbol h
  unfold NodeBaseState.parse
  simp only [hne "IDLE" rfl, hne "ALLOCATED" rfl, hne "ALLOC" rfl, hne "MIXED" rfl, hne "MIX" rfl, hne "DOWN" rfl,
    hne "ERROR" rfl, hne "ERR" rfl, hne "FUTURE" rfl, hne "FUTR" rfl, hne "UNKNOWN" rfl, hne "UNK" rfl, or_self,
    if_false]

theorem flag_of_hasSymbol (h : hasSymbol value = true) :
    NodeStateFlag.parse value = .other (String.ofList (value.map Char.toUpper)) := by
  have hne : ∀ names : List String, names.all (fun name => !hasSymbol name.toList) = true →
      ¬ String.ofList (value.map Char.toUpper) ∈ names := by
    intro names hnames hmem
    have hknown := List.all_eq_true.mp hnames _ hmem
    exact ne_of_hasSymbol h _ (by simpa using hknown) rfl
  unfold NodeStateFlag.parse
  dsimp only
  iterate 6 rw [if_neg (hne _ (by decide))]
  rw [if_neg (ne_of_hasSymbol h "POWERING_DOWN" rfl)]
  iterate 4 rw [if_neg (hne _ (by decide))]

theorem name_of_base {name : String} (h : NodeBaseState.parse value = .other name) :
    name = String.ofList (value.map Char.toUpper) := by
  unfold NodeBaseState.parse at h
  dsimp only at h
  split_ifs at h
  exact (NodeBaseState.other.inj h).symm

theorem name_of_flag {name : String} (h : NodeStateFlag.parse value = .other name) :
    name = String.ofList (value.map Char.toUpper) := by
  unfold NodeStateFlag.parse at h
  dsimp only at h
  iterate 11
    split at h
    · cases h
  exact (NodeStateFlag.other.inj h).symm

theorem hasSymbol_eq_of_base (h : hasSymbol value = true) (heq : NodeBaseState.parse value = NodeBaseState.parse value') :
    hasSymbol value' = true := by
  have hname := String.ofList_injective (name_of_base (heq ▸ base_of_hasSymbol h))
  rw [← hasSymbol_map_toUpper, ← hname, hasSymbol_map_toUpper, h]

theorem hasSymbol_eq_of_flag (h : hasSymbol value = true) (heq : NodeStateFlag.parse value = NodeStateFlag.parse value') :
    hasSymbol value' = true := by
  have hname := String.ofList_injective (name_of_flag (heq ▸ flag_of_hasSymbol h))
  rw [← hasSymbol_map_toUpper, ← hname, hasSymbol_map_toUpper, h]

end Symbols

/-! ### What a state is read for -/

section Recovered

variable {base : StateWord} {rest : List StateWord}

/-- If no word but the last one has symbols, only the last one can have a flag as a symbol. -/
theorem carries_iff {init : List StateWord} {last : StateWord} (hwords : base :: rest = init ++ [last])
    (hnone : ∀ word ∈ init, word.symbols = []) (flag : NodeStateFlag) :
    Carries base rest flag ↔ (∃ word ∈ rest, NodeStateFlag.parse word.name = flag) ∨
      ∃ symbol ∈ last.symbols, NodeStateFlag.ofSuffix symbol = some flag := by
  unfold Carries
  rw [hwords]
  refine or_congr_right ⟨?_, fun ⟨symbol, hsymbol, hflag⟩ => ⟨last, by simp, symbol, hsymbol, hflag⟩⟩
  rintro ⟨word, hword, symbol, hsymbol, hflag⟩
  rcases List.mem_append.mp hword with hword | hword
  · rw [hnone word hword] at hsymbol
    cases hsymbol
  · rw [List.mem_singleton.mp hword] at hsymbol
    exact ⟨symbol, hsymbol, hflag⟩

/-- Words without symbols are read for what they are. -/
theorem parts_eq_names {init : List StateWord} {last : StateWord} (hwords : base :: rest = init ++ [last])
    (hnone : ∀ word ∈ init, word.symbols = []) : parts init last = base.name :: rest.map StateWord.name := by
  have htext : init.map StateWord.text = init.map StateWord.name :=
    List.map_congr_left fun word hword => by rw [StateWord.text, hnone word hword, List.append_nil]
  rw [parts, htext, ← List.map_singleton (f := StateWord.name), ← List.map_append, ← hwords, List.map_cons]

theorem nodeStatus_ne_ok {node : SlurmNode} (h : node.state.isSchedulable = false) : nodeStatus node ≠ .ok := by
  unfold nodeStatus
  rw [h]
  split
  · decide
  · split
    · contradiction
    · split <;> decide

/-- A state that has its flags is reported with them. -/
theorem recovered_of_flags (hbase : (NodeState.parse (stateText (base :: rest))).base = NodeBaseState.parse base.name)
    (hflags : ∀ flag, flag ∈ (NodeState.parse (stateText (base :: rest))).flags ↔ Carries base rest flag) :
    Recovered base rest := by
  have hhas : ∀ flag, Carries base rest flag → ∀ node : SlurmNode,
      node.state = NodeState.parse (stateText (base :: rest)) → node.state.has flag = true := by
    intro flag h node hnode
    rw [hnode]
    exact Std.ExtTreeSet.contains_iff_mem.mpr ((hflags flag).mpr h)
  refine ⟨hbase, hflags, fun h node hnode => ?_, fun h node hnode => ?_⟩
  · have hmark : node.state.isNotResponding = true := hhas _ h node hnode
    have hidle : node.state.isSchedulable = false := by simp [NodeState.isSchedulable, hmark]
    exact ⟨by rw [← hmark]; rfl, nodeStatus_ne_ok hidle⟩
  · have hmark : node.state.isDrained = true := hhas _ h node hnode
    have hidle : node.state.isSchedulable = false := by simp [NodeState.isSchedulable, hmark]
    exact ⟨by rw [← hmark]; rfl, by rw [← hidle]; rfl, nodeStatus_ne_ok hidle⟩

/-- A flag that a text carries is not that of a word with symbols. -/
theorem not_carries_of_hasSymbol {value : List Char} (h : hasSymbol value = true) :
    ¬ Carries base rest (NodeStateFlag.parse value) := by
  rintro (⟨word, -, hflag⟩ | ⟨word, -, symbol, -, hflag⟩)
  · have hsymbol := hasSymbol_eq_of_flag h hflag.symm
    rw [word.hasSymbol_name] at hsymbol
    cases hsymbol
  · rw [flag_of_hasSymbol h] at hflag
    unfold NodeStateFlag.ofSuffix at hflag
    split at hflag
    all_goals cases hflag

/-- **A state is read for what it is exactly if no word but the last one has symbols.** -/
theorem recovered_iff (base : StateWord) (rest : List StateWord) :
    Recovered base rest ↔ ∀ word ∈ (base :: rest).dropLast, word.symbols = [] := by
  obtain ⟨init, last, hwords⟩ : ∃ init last, base :: rest = init ++ [last] :=
    ⟨_, _, (List.dropLast_append_getLast (List.cons_ne_nil base rest)).symm⟩
  obtain ⟨hbase, hflags⟩ := parse_stateText init last
  rw [← hwords] at hbase hflags
  rw [hwords, List.dropLast_concat]
  constructor
  · intro h word hword
    by_contra hsymbols
    have hsymbol := word.hasSymbol_text hsymbols
    cases init with
    | nil => cases hword
    | cons first init =>
      rcases List.mem_cons.mp hword with rfl | hword
      · -- the base state is not recognised
        obtain rfl : base = word := (List.cons.inj hwords).1
        have heq := hbase.symm.trans h.recognised
        have hname := hasSymbol_eq_of_base hsymbol heq
        rw [base.hasSymbol_name] at hname
        cases hname
      · -- a flag is read that the text does not carry
        refine not_carries_of_hasSymbol hsymbol ((h.flags _).mp ((hflags _).mpr (Or.inl ⟨word.text, ?_, rfl⟩)))
        exact List.mem_append_left _ (List.mem_map_of_mem hword)
  · intro hnone
    rw [parts_eq_names hwords hnone] at hbase hflags
    refine recovered_of_flags hbase fun flag => ?_
    rw [hflags, carries_iff hwords hnone]
    simp

/-- `DOWN*`. -/
def downMarked : StateWord := ⟨['D', 'O', 'W', 'N'], ['*'], by simp, by simp; decide, by simp; decide⟩

/-- `DRAIN`. -/
def drain : StateWord := ⟨['D', 'R', 'A', 'I', 'N'], [], by simp, by simp; decide, by simp⟩

/-- Of `DOWN*+DRAIN` the base state is not recognised, and the node is said to respond. -/
theorem mark_inside_lost :
    stateText [downMarked, drain] = "DOWN*+DRAIN".toList ∧ Carries downMarked [drain] .notResponding ∧
      (NodeState.parse (stateText [downMarked, drain])).isNotResponding = false ∧ ¬ Recovered downMarked [drain] := by
  refine ⟨by decide, Or.inr ⟨downMarked, List.mem_cons_self, '*', List.mem_cons_self, rfl⟩, by decide +kernel, ?_⟩
  intro h
  have hbase := h.recognised
  revert hbase
  decide +kernel

end Recovered

end Slurm

end Sentinel
