import Sentinel.Integrations.Slurm.Expansion

/-!
# The Slurm roles of a host

Whether a host takes part in Slurm is read from the configuration of Slurm, not from the
programs that are installed: a package often brings all of them.  A host is a controller if
a line names it as one, and a compute node if a line lists it.

## Main definitions

* `rolesFromConfig` — what a configuration makes of a host.
* `detectSlurm` — the capabilities that are found.
* `ConfigLine`, `printConfig` — configurations as they are written.

## Main results

* `rolesFromConfig_eq` — a line counts wherever it stands.
* `rolesFromConfig_print` — **what is written is read**: a host has the roles that some line
  gives to it.
-/

namespace Sentinel

/-! ### Reading a configuration -/

/-- The Slurm roles a host is configured for. -/
structure SlurmRoles where
  /-- This host is the configured controller. -/
  controller : Bool
  /-- This host is a configured compute node. -/
  compute : Bool
  deriving DecidableEq, Repr

/-- The name of a host without its domain, in lower case. -/
def shortName (name : List Char) : List Char := (name.takeWhile (· ≠ '.')).map Char.toLower

/-- Compare host names, ignoring case and any domain. -/
def namesMatch (a b : List Char) : Bool := shortName a = shortName b

/-- What follows a beginning. -/
def stripStart (start s : List Char) : Option (List Char) :=
  if start.isPrefixOf s then some (s.drop start.length) else none

/-- The value of `Key=` at the start of a line, if that is what this line is. -/
def directive (line : List Char) (key : String) : Option (List Char) := do
  let rest ← stripStart key.toList line
  stripStart ['='] (rest.dropWhile Text.isWhitespace)

/-- A line without its comment. -/
def uncommented (line : List Char) : List Char := Text.trim (line.takeWhile (· ≠ '#'))

namespace SlurmRoles

/-- No role. -/
def none : SlurmRoles := ⟨false, false⟩

/-- What a line makes of a host. -/
def read (hostname : List Char) (roles : SlurmRoles) (line : List Char) : SlurmRoles :=
  let line := uncommented line
  if line = [] then roles
  else
    match directive line "SlurmctldHost" with
    | some value =>
      -- the address of a backup controller stands in parentheses
      if namesMatch (Text.trim (value.takeWhile (· ≠ '('))) hostname then { roles with controller := true }
      else roles
    | .none =>
      match directive line "ControlMachine" with
      | some value => if namesMatch (Text.trim value) hostname then { roles with controller := true } else roles
      | .none =>
        match directive line "NodeName" with
        | some value =>
          let nodes := (Text.splitWhitespace value).head?.getD []
          if nodes = "DEFAULT".toList then roles
          else if (Hostlist.expand nodes).any fun name => namesMatch name hostname then
            { roles with compute := true }
          else roles
        | .none => roles

/-- The roles that either gives. -/
def or (a b : SlurmRoles) : SlurmRoles := ⟨a.controller || b.controller, a.compute || b.compute⟩

end SlurmRoles

/-- Work out what a host is configured to be. -/
def rolesFromConfig (config hostname : List Char) : SlurmRoles :=
  (Text.lines config).foldl (SlurmRoles.read hostname) .none

/-- Where `slurm.conf` normally lives. -/
def defaultConfigPaths : List String := ["/etc/slurm/slurm.conf", "/etc/slurm-llnl/slurm.conf"]

/-- The roles a host has, and has the program for. -/
def detectSlurm (hostname : List Char) (readConfig : String → Option (List Char)) (hasProgram : String → Bool) :
    SlurmRoles :=
  match defaultConfigPaths.findSome? readConfig with
  | some config =>
    let roles := rolesFromConfig config hostname
    ⟨roles.controller && hasProgram "slurmctld", roles.compute && hasProgram "slurmd"⟩
  | none => .none

namespace SlurmRoles

variable {hostname : List Char}

@[simp] theorem none_or (a : SlurmRoles) : SlurmRoles.none.or a = a := rfl

theorem or_assoc (a b c : SlurmRoles) : (a.or b).or c = a.or (b.or c) := by
  simp [SlurmRoles.or, Bool.or_assoc]

/-- A line adds to the roles, whatever they are. -/
theorem read_eq (roles : SlurmRoles) (line : List Char) :
    read hostname roles line = roles.or (read hostname .none line) := by
  have hkeep : roles = roles.or .none := by simp [SlurmRoles.or, SlurmRoles.none]
  have hcontroller : { roles with controller := true } = roles.or { SlurmRoles.none with controller := true } := by
    simp [SlurmRoles.or, SlurmRoles.none]
  have hcompute : { roles with compute := true } = roles.or { SlurmRoles.none with compute := true } := by
    simp [SlurmRoles.or, SlurmRoles.none]
  unfold read
  dsimp only
  split
  · exact hkeep
  · split
    · split
      · exact hcontroller
      · exact hkeep
    · split
      · split
        · exact hcontroller
        · exact hkeep
      · split
        · split
          · exact hkeep
          · split
            · exact hcompute
            · exact hkeep
        · exact hkeep

/-- **A line counts wherever it stands.** -/
theorem foldl_read (lines : List (List Char)) : ∀ roles : SlurmRoles,
    lines.foldl (read hostname) roles =
      roles.or ⟨lines.any fun line => (read hostname .none line).controller,
        lines.any fun line => (read hostname .none line).compute⟩ := by
  induction lines with
  | nil => simp [SlurmRoles.or]
  | cons line lines ih =>
    intro roles
    rw [List.foldl_cons, ih, read_eq, or_assoc]
    rfl

end SlurmRoles

theorem rolesFromConfig_eq (config hostname : List Char) : rolesFromConfig config hostname =
    ⟨(Text.lines config).any fun line => (SlurmRoles.read hostname .none line).controller,
      (Text.lines config).any fun line => (SlurmRoles.read hostname .none line).compute⟩ := by
  rw [rolesFromConfig, SlurmRoles.foldl_read, SlurmRoles.none_or]

/-! ### What is written -/

/-- What a line of the configuration says. -/
inductive ConfigLine
  /-- A controller, and its address perhaps. -/
  | controller (name : List Char) (address : Option (List Char))
  /-- A controller, as older deployments write it. -/
  | machine (name : List Char)
  /-- Nodes, and what else is said of them. -/
  | nodes (list : List Hostlist.HostElement) (settings : List Char)
  /-- What is said of all nodes. -/
  | defaults (settings : List Char)
  /-- Anything else. -/
  | other (text : List Char)

/-- How a line is laid out: white space before the key, and on the two sides of the equals
sign, and what stands behind. -/
structure Layout where
  /-- Before the key. -/
  indent : List Char
  /-- Before the equals sign. -/
  gap : List Char
  /-- Behind the equals sign. -/
  lead : List Char
  /-- White space behind the value. -/
  trail : List Char
  /-- The comment. -/
  comment : Option (List Char)

/-- Text that ends no line. -/
def OneLine (s : List Char) : Prop := ∀ c ∈ s, c ≠ '\n' ∧ c ≠ '\r'

/-- Blank text within a line. -/
def Blank (s : List Char) : Prop := OneLine s ∧ ∀ c ∈ s, Text.isWhitespace c = true

/-- Text within a line that starts no comment. -/
def Inline (s : List Char) : Prop := OneLine s ∧ '#' ∉ s

/-- A word of a line. -/
def Word (s : List Char) : Prop := s ≠ [] ∧ ∀ c ∈ s, Text.isWhitespace c = false ∧ c ≠ '#'

/-- What else is said of nodes: nothing, or words behind a blank. -/
def Settings (s : List Char) : Prop :=
  Inline s ∧ (∀ c ∈ s.head?, Text.isWhitespace c = true) ∧ ∀ c ∈ s.getLast?, Text.isWhitespace c = false

namespace ConfigLine

/-- The key of a line, and its value. -/
def field : ConfigLine → Option (String × List Char)
  | controller name address => some ("SlurmctldHost", name ++ address.elim [] fun a => '(' :: (a ++ [')']))
  | machine name => some ("ControlMachine", name)
  | nodes list settings => some ("NodeName", Hostlist.print list ++ settings)
  | defaults settings => some ("NodeName", "DEFAULT".toList ++ settings)
  | other _ => none

/-- What a line states. -/
def stated (layout : Layout) (line : ConfigLine) : List Char :=
  match line with
  | other text => text
  | line => line.field.elim [] fun f => f.1.toList ++ layout.gap ++ '=' :: (layout.lead ++ f.2)

/-- A line as it is written. -/
def print (layout : Layout) (line : ConfigLine) : List Char :=
  layout.indent ++ line.stated layout ++ layout.trail ++ layout.comment.elim [] ('#' :: ·)

/-- The roles that a line gives to a host. -/
def gives (hostname : List Char) : ConfigLine → SlurmRoles
  | controller name _ => ⟨namesMatch name hostname, false⟩
  | machine name => ⟨namesMatch name hostname, false⟩
  | nodes list _ => ⟨false, (list.flatMap Hostlist.HostElement.names).any fun name => namesMatch name hostname⟩
  | defaults _ | other _ => .none

/-- A line is well formed. -/
def WellFormed : ConfigLine → Prop
  | controller name address => Word name ∧ '(' ∉ name ∧ ∀ a ∈ address, Inline a
  | machine name => Word name
  | nodes list settings => Hostlist.WellFormed list ∧ (∀ e ∈ list, e.Fits) ∧ Word (Hostlist.print list) ∧
      Hostlist.print list ≠ "DEFAULT".toList ∧ Settings settings
  | defaults settings => Settings settings
  | other text => Inline text ∧ ∀ key ∈ ["SlurmctldHost", "ControlMachine", "NodeName"],
      directive (Text.trim text) key = none

end ConfigLine

/-- White space is blank, and a comment ends with the line. -/
structure Layout.WellFormed (layout : Layout) : Prop where
  indent : Blank layout.indent
  gap : Blank layout.gap
  lead : Blank layout.lead
  trail : Blank layout.trail
  comment : ∀ c ∈ layout.comment, OneLine c

/-- A configuration as it is written. -/
def printConfig (config : List (Layout × ConfigLine)) : List Char :=
  config.flatMap fun line => line.2.print line.1 ++ ['\n']

/-! ### What is written is read -/

section Written

variable {s t : List Char} {hostname : List Char} {layout : Layout}

theorem OneLine.append (hs : OneLine s) (ht : OneLine t) : OneLine (s ++ t) :=
  List.forall_mem_append.mpr ⟨hs, ht⟩

theorem oneLine_of_forall (h : ∀ c ∈ s, Text.isWhitespace c = false) : OneLine s := by
  intro c hc
  have hspace := h c hc
  constructor
  · rintro rfl
    cases hspace
  · rintro rfl
    cases hspace

theorem Word.inline (h : Word s) : Inline s :=
  ⟨oneLine_of_forall fun c hc => (h.2 c hc).1, fun hc => (h.2 '#' hc).2 rfl⟩

theorem Inline.append (hs : Inline s) (ht : Inline t) : Inline (s ++ t) :=
  ⟨hs.1.append ht.1, by simp [hs.2, ht.2]⟩

theorem Blank.inline (h : Blank s) : Inline s := by
  refine ⟨h.1, fun hc => ?_⟩
  cases h.2 '#' hc

/-- The comment of a line does not count, nor does the white space around it. -/
theorem uncommented_print {line : ConfigLine} (hlayout : layout.WellFormed) (h : Inline (line.stated layout)) :
    uncommented (line.print layout) = Text.trim (line.stated layout) := by
  have hfree : '#' ∉ layout.indent ++ line.stated layout ++ layout.trail :=
    ((hlayout.indent.inline.append h).append hlayout.trail.inline).2
  have hcut : (line.print layout).takeWhile (· ≠ '#') = layout.indent ++ line.stated layout ++ layout.trail := by
    have hpos : ∀ c ∈ layout.indent ++ line.stated layout ++ layout.trail, decide (c ≠ '#') = true :=
      fun c hc => decide_eq_true fun heq => hfree (heq ▸ hc)
    rw [ConfigLine.print, List.takeWhile_append_of_pos hpos]
    cases layout.comment with
    | none => exact List.append_nil _
    | some comment => exact List.append_nil _
  rw [uncommented, hcut, Text.trim_append_of_forall hlayout.trail.2, Text.trim_append_left hlayout.indent.2]

/-- The value of a key is found behind the equals sign. -/
theorem directive_self (key : String) (hgap : Blank s) : directive (key.toList ++ s ++ '=' :: t) key = some t := by
  have hkey : stripStart key.toList (key.toList ++ s ++ '=' :: t) = some (s ++ '=' :: t) := by
    rw [stripStart, List.append_assoc, if_pos (List.isPrefixOf_iff_prefix.mpr (List.prefix_append _ _)),
      List.drop_left]
  have hequals : (s ++ '=' :: t).dropWhile Text.isWhitespace = '=' :: t := by
    rw [List.dropWhile_append_of_pos hgap.2]
    rfl
  rw [directive, hkey, Option.bind_eq_bind, Option.bind_some, hequals]
  rfl

/-- A line that starts with another letter has no value for the key. -/
theorem directive_ne {key other : String} (hkey : key.toList ≠ []) (hother : other.toList ≠ [])
    (h : key.toList.head? ≠ other.toList.head?) : directive (key.toList ++ s ++ t) other = none := by
  obtain ⟨c, first, hc⟩ := List.exists_cons_of_ne_nil hkey
  obtain ⟨d, second, hd⟩ := List.exists_cons_of_ne_nil hother
  rw [hc, hd, List.head?_cons, List.head?_cons, ne_eq, Option.some.injEq] at h
  have hdiffer : ¬ (d == c) = true := by
    rw [beq_iff_eq]
    exact fun heq => h heq.symm
  rw [directive, stripStart, hc, hd, List.cons_append, List.cons_append, if_neg (by simp [List.isPrefixOf, hdiffer])]
  rfl

/-- A line with a key, without white space around it. -/
theorem trim_field (key : String) (hkey : ∀ c ∈ key.toList.head?, Text.isWhitespace c = false) (hne : key.toList ≠ [])
    (ht : t ≠ []) (hlast : ∀ c ∈ t.getLast?, Text.isWhitespace c = false) :
    Text.trim (key.toList ++ layout.gap ++ '=' :: (layout.lead ++ t)) =
      key.toList ++ layout.gap ++ '=' :: (layout.lead ++ t) := by
  apply Text.trim_eq_self
  · rw [List.append_assoc, List.head?_append_of_ne_nil _ hne]
    exact hkey
  · rw [List.getLast?_append_of_ne_nil _ (List.cons_ne_nil _ _), ← List.cons_append,
      List.getLast?_append_of_ne_nil _ ht]
    exact hlast

theorem Word.getLast (h : Word s) : ∀ c ∈ s.getLast?, Text.isWhitespace c = false :=
  fun c hc => (h.2 c (List.mem_of_getLast? hc)).1

theorem word_default : Word "DEFAULT".toList := ⟨by simp, by simp [Text.isWhitespace]⟩

/-- The value of a line is not empty, and no white space is behind it. -/
theorem ConfigLine.WellFormed.value {line : ConfigLine} (h : line.WellFormed) {key : String} {value : List Char}
    (hfield : line.field = some (key, value)) :
    Inline value ∧ value ≠ [] ∧ ∀ c ∈ value.getLast?, Text.isWhitespace c = false := by
  have hwords : ∀ {name settings : List Char}, Word name → Settings settings →
      Inline (name ++ settings) ∧ name ++ settings ≠ [] ∧
        ∀ c ∈ (name ++ settings).getLast?, Text.isWhitespace c = false := by
    intro name settings hname hsettings
    refine ⟨hname.inline.append hsettings.1, by simp [hname.1], ?_⟩
    rcases List.eq_nil_or_concat settings with rfl | ⟨start, last, rfl⟩
    · rw [List.append_nil]
      exact hname.getLast
    · rw [List.getLast?_append_of_ne_nil _ (by simp)]
      exact hsettings.2.2
  cases line with
  | controller name address =>
    obtain ⟨hname, -, haddress⟩ := h
    cases hfield
    cases address with
    | none =>
      rw [Option.elim_none, List.append_nil]
      exact ⟨hname.inline, hname.1, hname.getLast⟩
    | some a =>
      have hparens : Inline ('(' :: (a ++ [')'])) := by
        refine Inline.append (s := ['(']) ⟨?_, by decide⟩ ((haddress a rfl).append ⟨?_, by decide⟩)
        · simp [OneLine]
        · simp [OneLine]
      refine ⟨hname.inline.append hparens, by simp, ?_⟩
      rw [Option.elim_some, ← List.cons_append, ← List.append_assoc, List.getLast?_concat]
      simp [Text.isWhitespace]
  | machine name =>
    cases hfield
    exact ⟨h.inline, h.1, h.getLast⟩
  | nodes list settings =>
    obtain ⟨-, -, hlist, -, hsettings⟩ := h
    cases hfield
    exact hwords hlist hsettings
  | defaults settings =>
    cases hfield
    exact hwords word_default h
  | other text => cases hfield

/-- A line with a key is read without its comment and the white space around it. -/
theorem uncommented_field {line : ConfigLine} (hlayout : layout.WellFormed) (h : line.WellFormed) {key : String}
    {value : List Char} (hfield : line.field = some (key, value)) (hkey : Word key.toList) :
    uncommented (line.print layout) = key.toList ++ layout.gap ++ '=' :: (layout.lead ++ value) := by
  obtain ⟨hinline, hne, hlast⟩ := h.value hfield
  have hstated : line.stated layout = key.toList ++ layout.gap ++ '=' :: (layout.lead ++ value) := by
    cases line with
    | other text => cases hfield
    | _ =>
      cases hfield
      rfl
  have hequals : Inline ['='] := ⟨by simp [OneLine], by decide⟩
  rw [uncommented_print hlayout, hstated]
  · exact trim_field key (fun c hc => (hkey.2 c (List.mem_of_head? hc)).1) hkey.1 hne hlast
  · rw [hstated]
    exact (hkey.inline.append hlayout.gap.inline).append (hequals.append (hlayout.lead.inline.append hinline))

/-- The name of a controller stands before its address. -/
theorem trim_name {name rest : List Char} (hname : Word name) (hfree : '(' ∉ name) (hlead : Blank s)
    (hrest : rest = [] ∨ ∃ t, rest = '(' :: t) :
    Text.trim ((s ++ (name ++ rest)).takeWhile (· ≠ '(')) = name := by
  have hpos : ∀ c ∈ s ++ name, decide (c ≠ '(') = true := by
    intro c hc
    refine decide_eq_true fun heq => ?_
    rcases List.mem_append.mp hc with hc | hc
    · cases hlead.2 '(' (heq ▸ hc)
    · exact hfree (heq ▸ hc)
  have hcut : (s ++ (name ++ rest)).takeWhile (· ≠ '(') = s ++ name := by
    rw [← List.append_assoc, List.takeWhile_append_of_pos hpos]
    obtain rfl | ⟨t, rfl⟩ := hrest
    · exact List.append_nil _
    · exact List.append_nil _
  rw [hcut, Text.trim_append_left hlead.2, Text.trim_of_forall fun c hc => (hname.2 c hc).1]

/-- The nodes of a line are its first word. -/
theorem head_words {nodes settings : List Char} (hnodes : Word nodes) (hsettings : Settings settings) (hlead : Blank s) :
    (Text.splitWhitespace (s ++ (nodes ++ settings))).head?.getD [] = nodes := by
  have hfirst : (Text.splitWhitespace (nodes ++ settings)).head? = some nodes := by
    have hone := Text.splitWhitespace_of_forall hnodes.1 fun c hc => (hnodes.2 c hc).1
    cases settings with
    | nil => rw [List.append_nil, hone, List.head?_cons]
    | cons c settings =>
      rw [Text.splitWhitespace_append (hsettings.2.1 c rfl), hone, List.singleton_append, List.head?_cons]
  have hskip : ∀ {lead : List Char}, (∀ c ∈ lead, Text.isWhitespace c = true) →
      Text.splitWhitespace (lead ++ (nodes ++ settings)) = Text.splitWhitespace (nodes ++ settings) := by
    intro lead hspace
    induction lead with
    | nil => rfl
    | cons c lead ih =>
      rw [List.forall_mem_cons] at hspace
      rw [List.cons_append, ← List.nil_append (c :: _), Text.splitWhitespace_append hspace.1, ih hspace.2]
      rfl
  rw [hskip hlead.2, hfirst, Option.getD_some]

/-- **What a line says is read.** -/
theorem read_print {line : ConfigLine} (hlayout : layout.WellFormed) (h : line.WellFormed) :
    SlurmRoles.read hostname .none (line.print layout) = line.gives hostname := by
  have hhost : Word "SlurmctldHost".toList := ⟨by simp, by simp [Text.isWhitespace]⟩
  have hmachine : Word "ControlMachine".toList := ⟨by simp, by simp [Text.isWhitespace]⟩
  have hnode : Word "NodeName".toList := ⟨by simp, by simp [Text.isWhitespace]⟩
  rw [SlurmRoles.read]
  dsimp only
  cases line with
  | controller name address =>
    obtain ⟨hname, hfree, -⟩ := id h
    rw [uncommented_field hlayout h rfl hhost, if_neg (by simp), directive_self _ hlayout.gap]
    dsimp only
    rw [trim_name hname hfree hlayout.lead (by cases address <;> simp)]
    rw [ConfigLine.gives]
    cases namesMatch name hostname <;> rfl
  | machine name =>
    rw [uncommented_field hlayout h rfl hmachine, if_neg (by simp), directive_ne hmachine.1 hhost.1 (by simp),
      directive_self _ hlayout.gap]
    dsimp only
    rw [Text.trim_append_left hlayout.lead.2, Text.trim_of_forall fun c hc => (h.2 c hc).1]
    rw [ConfigLine.gives]
    cases namesMatch name hostname <;> rfl
  | nodes list settings =>
    obtain ⟨hlist, hfits, hword, hdefault, hsettings⟩ := id h
    rw [uncommented_field hlayout h rfl hnode, if_neg (by simp), directive_ne hnode.1 hhost.1 (by simp),
      directive_ne hnode.1 hmachine.1 (by simp), directive_self _ hlayout.gap]
    dsimp only
    rw [head_words hword hsettings hlayout.lead, if_neg hdefault, Hostlist.expand_print hlist hfits]
    rw [ConfigLine.gives]
    cases (list.flatMap Hostlist.HostElement.names).any fun name => namesMatch name hostname <;> rfl
  | defaults settings =>
    rw [uncommented_field hlayout h rfl hnode, if_neg (by simp), directive_ne hnode.1 hhost.1 (by simp),
      directive_ne hnode.1 hmachine.1 (by simp), directive_self _ hlayout.gap]
    dsimp only
    rw [head_words word_default h hlayout.lead, if_pos rfl]
    rfl
  | other text =>
    have hline : uncommented ((ConfigLine.other text).print layout) = Text.trim text :=
      uncommented_print hlayout h.1
    have hnone : ∀ key ∈ ["SlurmctldHost", "ControlMachine", "NodeName"], directive (Text.trim text) key = .none := h.2
    rw [hline]
    split
    · rfl
    · rw [hnone "SlurmctldHost" (by simp), hnone "ControlMachine" (by simp), hnone "NodeName" (by simp)]
      rfl

theorem oneLine_print {line : ConfigLine} (hlayout : layout.WellFormed) (h : line.WellFormed) :
    OneLine (line.print layout) := by
  have hstated : OneLine (line.stated layout) := by
    have hfield : ∀ {key : String} {value : List Char}, Word key.toList → OneLine value →
        OneLine (key.toList ++ layout.gap ++ '=' :: (layout.lead ++ value)) := fun hkey hvalue =>
      (hkey.inline.1.append hlayout.gap.1).append (OneLine.append (s := ['=']) (by simp [OneLine])
        (hlayout.lead.1.append hvalue))
    cases line with
    | other text => exact h.1.1
    | controller => exact hfield ⟨by simp, by simp [Text.isWhitespace]⟩ (h.value rfl).1.1
    | machine => exact hfield ⟨by simp, by simp [Text.isWhitespace]⟩ (h.value rfl).1.1
    | nodes => exact hfield ⟨by simp, by simp [Text.isWhitespace]⟩ (h.value rfl).1.1
    | defaults => exact hfield ⟨by simp, by simp [Text.isWhitespace]⟩ (h.value rfl).1.1
  refine ((hlayout.indent.1.append hstated).append hlayout.trail.1).append ?_
  have hcomment := hlayout.comment
  cases hc : layout.comment with
  | none =>
    intro c hmem
    cases hmem
  | some comment => exact OneLine.append (s := ['#']) (by simp [OneLine]) (hcomment comment hc)

/-- **What is written is read**: a host has the roles that some line gives to it. -/
theorem rolesFromConfig_print {config : List (Layout × ConfigLine)}
    (h : ∀ line ∈ config, line.1.WellFormed ∧ line.2.WellFormed) (hostname : List Char) :
    rolesFromConfig (printConfig config) hostname =
      ⟨config.any fun line => (line.2.gives hostname).controller,
        config.any fun line => (line.2.gives hostname).compute⟩ := by
  have hlines : Text.lines (printConfig config) = config.map fun line => line.2.print line.1 := by
    have hflat : printConfig config = (config.map fun line => line.2.print line.1).flatMap (· ++ ['\n']) := by
      rw [List.flatMap_map]
      rfl
    rw [hflat, Text.lines_flatMap]
    intro text htext
    obtain ⟨line, hline, rfl⟩ := List.mem_map.mp htext
    have hone := oneLine_print (h line hline).1 (h line hline).2
    exact ⟨fun hmem => (hone _ hmem).1 rfl, fun hlast => (hone _ (List.mem_of_getLast? hlast)).2 rfl⟩
  have hread : ∀ line ∈ config, SlurmRoles.read hostname .none (line.2.print line.1) = line.2.gives hostname :=
    fun line hline => read_print (h line hline).1 (h line hline).2
  have hany : ∀ has : SlurmRoles → Bool,
      (config.map fun line => line.2.print line.1).any (fun text => has (SlurmRoles.read hostname .none text)) =
        config.any fun line => has (line.2.gives hostname) := by
    intro has
    rw [List.any_map, Bool.eq_iff_iff, List.any_eq_true, List.any_eq_true]
    refine exists_congr fun line => and_congr_right fun hline => ?_
    rw [Function.comp_apply, hread line hline]
  rw [rolesFromConfig_eq, hlines]
  exact congrArg₂ SlurmRoles.mk (hany SlurmRoles.controller) (hany SlurmRoles.compute)

end Written

/-- No white space but where it is needed. -/
def tightLayout : Layout := ⟨[], [], [], [], none⟩

/-- A controller with its address, and three nodes. -/
def sampleConfig : List (Layout × ConfigLine) :=
  [(tightLayout, .controller "ctl-a".toList (some "10.0.0.1".toList)),
    (tightLayout, .nodes [⟨[("compute".toList, [.span "01".toList "03".toList])], []⟩] " CPUs=1".toList)]

theorem wellFormed_sampleConfig : ∀ line ∈ sampleConfig, line.1.WellFormed ∧ line.2.WellFormed := by
  have hlayout : tightLayout.WellFormed :=
    ⟨by simp [tightLayout, Blank, OneLine], by simp [tightLayout, Blank, OneLine],
      by simp [tightLayout, Blank, OneLine], by simp [tightLayout, Blank, OneLine], by simp [tightLayout]⟩
  have hcontroller : (ConfigLine.controller "ctl-a".toList (some "10.0.0.1".toList)).WellFormed :=
    ⟨⟨by simp, by simp [Text.isWhitespace]⟩, by simp, by simp [Inline, OneLine]⟩
  have htext : Hostlist.HostElement.text ⟨[("compute".toList, [.span "01".toList "03".toList])], []⟩ =
      "compute[01-03]".toList := by decide
  have helement : Hostlist.HostElement.WellFormed ⟨[("compute".toList, [.span "01".toList "03".toList])], []⟩ := by
    refine ⟨by simp [Hostlist.HostRange.Valid, Hostlist.HostRange.Guarded, Text.IsNumber, Text.ofDigits],
      by simp [Hostlist.Plain], ?_, ?_, ?_⟩
    all_goals rw [htext]; simp [Text.isWhitespace]
  have hprint : Hostlist.print [⟨[("compute".toList, [.span "01".toList "03".toList])], []⟩] =
      "compute[01-03]".toList := by decide
  have hnodes : (ConfigLine.nodes [⟨[("compute".toList, [.span "01".toList "03".toList])], []⟩]
      " CPUs=1".toList).WellFormed := by
    refine ⟨⟨by simpa using helement, by decide⟩, ?_, ?_, by decide, ?_⟩
    · simp [Hostlist.HostElement.Fits, Hostlist.HostRange.Fits, Text.ofDigits]
    · rw [hprint]
      exact ⟨by simp, by simp [Text.isWhitespace]⟩
    · exact ⟨by simp [Inline, OneLine], by simp [Text.isWhitespace], by simp [Text.isWhitespace]⟩
  simp only [sampleConfig, List.forall_mem_cons]
  exact ⟨⟨hlayout, hcontroller⟩, ⟨hlayout, hnodes⟩, by simp⟩

/-- Case and domain of a host do not matter. -/
example : rolesFromConfig (printConfig sampleConfig) "COMPUTE02.example.org".toList = ⟨false, true⟩ := by
  rw [rolesFromConfig_print wellFormed_sampleConfig]
  decide

end Sentinel
