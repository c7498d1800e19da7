import Sentinel.Integrations.Slurm.Hostlist
import Sentinel.Lib.Collections

/-!
# What Slurm prints

Parsers for the output of `scontrol`.  Fields this build does not know do not break
anything, and a line that is no record does not lose the others.

## Main definitions

* `parseRecord` — the fields of one record.
* `NodeState.parse`, `SlurmNode.parseLine`, `parseNodes` — nodes.
* `SlurmPartition.parseLine`, `parsePartitions` — partitions.
* `parsePing` — which controllers answer.
-/

namespace Sentinel

namespace Slurm

/-! ### Records -/

/-- The fields of a record. -/
abbrev Fields := Std.ExtTreeMap String String

/-- Whether a key can begin with a character. -/
def isKeyStart (c : Char) : Bool := c.isAlpha || c = '_'

/-- Whether a key can go on with a character. -/
def isKeyChar (c : Char) : Bool := c.isAlphanum || c = '_'

/-- ASCII white space. -/
def isAsciiWhitespace (c : Char) : Bool := c = ' ' || c = '\t' || c = '\n' || c = '\x0C' || c = '\r'

/-- Where the keys of a line begin and end, from a place on; `fresh` says whether a
field can begin there.  Every round reads a character. -/
def boundariesFrom : ℕ → ℕ → Bool → List Char → List (ℕ × ℕ)
  | 0, _, _, _ => []
  | _, _, _, [] => []
  | rounds + 1, place, fresh, c :: rest =>
    let key := (c :: rest).takeWhile isKeyChar
    match fresh && isKeyStart c, (c :: rest).drop key.length with
    | true, '=' :: after =>
      (place, place + key.length) :: boundariesFrom rounds (place + key.length + 1) false after
    | _, _ => boundariesFrom rounds (place + 1) (isAsciiWhitespace c) rest

/-- Where the keys of a line begin and end. -/
def fieldBoundaries (line : List Char) : List (ℕ × ℕ) := boundariesFrom line.length 0 true line

/-- A piece of a line. -/
def piece (line : List Char) (start stop : ℕ) : List Char := (line.take stop).drop start

/-- The fields that boundaries delimit.  A reason takes up the rest of the line. -/
def fieldsFrom (line : List Char) : List (ℕ × ℕ) → Fields → Fields
  | [], fields => fields
  | (start, stop) :: boundaries, fields =>
    let key := String.ofList (piece line start stop)
    if key = "Reason" then
      fields.insert key (String.ofList (Text.trim (line.drop (stop + 1))))
    else
      let next := (boundaries.head?.map Prod.fst).getD line.length
      let value := String.ofList (Text.trim (piece line (stop + 1) next))
      fieldsFrom line boundaries (fields.insert key value)

/-- Split a record into its fields. -/
def parseRecord (line : List Char) : Fields := fieldsFrom line (fieldBoundaries line) ∅

/-- A field, unless it says that there is nothing. -/
def optional (fields : Fields) (key : String) : Option String :=
  (fields[key]?.map fun value => String.ofList (Text.trim value.toList)).filter fun value =>
    value ≠ "" ∧ value ≠ "(null)" ∧ value ≠ "N/A" ∧ value ≠ "None"

/-! ### Node states -/

/-- The base state of a node. -/
inductive NodeBaseState
  /-- Idle and available. -/
  | idle
  /-- Fully allocated. -/
  | allocated
  /-- Partly allocated. -/
  | mixed
  /-- Marked down by the controller. -/
  | down
  /-- In an error state. -/
  | error
  /-- Configured but not yet present. -/
  | future
  /-- Unknown to the controller. -/
  | unknown
  /-- A state this build does not recognise. -/
  | other (name : String)
  deriving DecidableEq, Repr

namespace NodeBaseState

/-- Parse a base state name. -/
def parse (value : List Char) : NodeBaseState :=
  let name := String.ofList (value.map Char.toUpper)
  if name = "IDLE" then idle
  else if name = "ALLOCATED" ∨ name = "ALLOC" then allocated
  else if name = "MIXED" ∨ name = "MIX" then mixed
  else if name = "DOWN" then down
  else if name = "ERROR" ∨ name = "ERR" then error
  else if name = "FUTURE" ∨ name = "FUTR" then future
  else if name = "UNKNOWN" ∨ name = "UNK" then unknown
  else other name

/-- Whether the scheduler considers this state usable for work. -/
def isSchedulable : NodeBaseState → Bool
  | idle | allocated | mixed => true
  | _ => false

end NodeBaseState

/-- A flag modifying the base state. -/
inductive NodeStateFlag
  /-- Draining or drained. -/
  | drain
  /-- The controller is not hearing from the daemon. -/
  | notResponding
  /-- Jobs are finishing. -/
  | completing
  /-- Under a maintenance reservation. -/
  | maintenance
  /-- Powered down to save energy. -/
  | powerSave
  /-- Powering up. -/
  | poweringUp
  /-- Powering down. -/
  | poweringDown
  /-- Registered with resources that disagree with the configuration. -/
  | invalidRegistration
  /-- Reserved. -/
  | reserved
  /-- Scheduled to reboot. -/
  | reboot
  /-- Planned for a future allocation. -/
  | planned
  /-- A flag this build does not recognise. -/
  | other (name : String)
  deriving DecidableEq, Repr

namespace NodeStateFlag

/-- Parse a flag name. -/
def parse (value : List Char) : NodeStateFlag :=
  let name := String.ofList (value.map Char.toUpper)
  if name ∈ ["DRAIN", "DRAINING", "DRAINED", "DRNG", "DRAIN+"] then drain
  else if name ∈ ["NOT_RESPONDING", "NO_RESPOND"] then notResponding
  else if name ∈ ["COMPLETING", "COMP"] then completing
  else if name ∈ ["MAINTENANCE", "MAINT"] then maintenance
  else if name ∈ ["POWER_SAVE", "POWERED_DOWN", "POWER_DOWN"] then powerSave
  else if name ∈ ["POWERING_UP", "POWER_UP"] then poweringUp
  else if name = "POWERING_DOWN" then poweringDown
  else if name ∈ ["INVALID_REG", "INVAL"] then invalidRegistration
  else if name ∈ ["RESERVED", "RESV"] then reserved
  else if name ∈ ["REBOOT", "REBOOT_REQUESTED", "REBOOT_ISSUED"] then reboot
  else if name ∈ ["PLANNED", "PLND"] then planned
  else other name

/-- The flag a character at the end of a state stands for. -/
def ofSuffix : Char → Option NodeStateFlag
  | '*' => some notResponding
  | '~' => some powerSave
  | '#' => some poweringUp
  | '%' => some poweringDown
  | '$' => some maintenance
  | '@' => some reboot
  | _ => none

/-- The place of a flag in the order of declaration, with its name if it is another. -/
def rank : NodeStateFlag → ℕ ×ₗ String
  | drain => toLex (0, "")
  | notResponding => toLex (1, "")
  | completing => toLex (2, "")
  | maintenance => toLex (3, "")
  | powerSave => toLex (4, "")
  | poweringUp => toLex (5, "")
  | poweringDown => toLex (6, "")
  | invalidRegistration => toLex (7, "")
  | reserved => toLex (8, "")
  | reboot => toLex (9, "")
  | planned => toLex (10, "")
  | other name => toLex (11, name)

theorem rank_inj {f g : NodeStateFlag} (h : f.rank = g.rank) : f = g := by
  cases f <;> cases g <;> simp_all [rank]

instance : LinearOrder NodeStateFlag := LinearOrder.lift' rank fun _ _ => rank_inj

end NodeStateFlag

/-- A parsed state: one base state and any number of flags. -/
structure NodeState where
  /-- The base state. -/
  base : NodeBaseState
  /-- Modifying flags. -/
  flags : Std.ExtTreeSet NodeStateFlag
  /-- The original text. -/
  raw : String

namespace NodeState

/-- Take the flags off the end of a state, last first. -/
def suffixFlags : List Char → Std.ExtTreeSet NodeStateFlag → List Char × Std.ExtTreeSet NodeStateFlag
  | [], flags => ([], flags)
  | last :: reversed, flags =>
    match NodeStateFlag.ofSuffix last with
    | some flag => suffixFlags reversed (flags.insert flag)
    | none => ((last :: reversed).reverse, flags)

/-- Parse a state such as `IDLE+DRAIN` or `DOWN*`. -/
def parse (value : List Char) : NodeState :=
  let raw := Text.trim value
  let (body, flags) := suffixFlags raw.reverse ∅
  let parts := (body.splitOn '+').filter fun part => part ≠ []
  { base := (parts.head?.map NodeBaseState.parse).getD .unknown
    flags := parts.tail.foldl (fun flags part => flags.insert (NodeStateFlag.parse part)) flags
    raw := String.ofList raw }

/-- Whether the node carries a flag. -/
def has (state : NodeState) (flag : NodeStateFlag) : Bool := state.flags.contains flag

/-- Whether the node is drained or draining. -/
def isDrained (state : NodeState) : Bool := state.has .drain

/-- Whether the controller has lost contact with the daemon. -/
def isNotResponding (state : NodeState) : Bool := state.has .notResponding

/-- Whether Slurm will schedule work here. -/
def isSchedulable (state : NodeState) : Bool :=
  state.base.isSchedulable && !state.isDrained && !state.isNotResponding

end NodeState

/-! ### Nodes -/

/-- A node as Slurm describes it. -/
structure SlurmNode where
  /-- Slurm's name for it. -/
  nodeName : String
  /-- The host name, when Slurm reports one. -/
  nodeHostName : Option String
  /-- The address, when Slurm reports one. -/
  nodeAddr : Option String
  /-- Parsed state. -/
  state : NodeState
  /-- Why the node is down or drained. -/
  reason : Option String
  /-- Since when. -/
  reasonTime : Option String
  /-- Partitions this node belongs to. -/
  partitions : List String
  /-- Configured CPUs. -/
  cpuTotal : Option ℕ
  /-- Configured memory in MiB. -/
  realMemoryMb : Option ℕ
  /-- Generic resources. -/
  gres : Option String
  /-- Configured resources. -/
  cfgTres : Option String
  /-- Allocated resources. -/
  allocTres : Option String
  /-- When it booted. -/
  bootTime : Option String

/-- Remove what stands in parentheses. -/
def stripParenthesised (value : List Char) : List Char :=
  let rec go : ℕ → List Char → List Char
    | _, [] => []
    | depth, '(' :: rest => go (depth + 1) rest
    | depth, ')' :: rest => go (depth - 1) rest
    | 0, c :: rest => c :: go 0 rest
    | depth + 1, _ :: rest => go (depth + 1) rest
  go 0 value

namespace SlurmNode

/-- Parse one line, if it names a node. -/
def parseLine (line : List Char) : Option SlurmNode := do
  let fields := parseRecord line
  let nodeName ← fields["NodeName"]?
  if nodeName = "" then none
  else some {
    nodeName := nodeName
    nodeHostName := optional fields "NodeHostName"
    nodeAddr := optional fields "NodeAddr"
    state := NodeState.parse (fields["State"]?.getD "UNKNOWN").toList
    reason := (optional fields "Reason").filter fun reason => reason ≠ "none"
    reasonTime := optional fields "ReasonTime"
    partitions := (fields["Partitions"]?.map fun list =>
      (Hostlist.expand list.toList).map String.ofList).getD []
    cpuTotal := fields["CPUTot"]?.bind fun value => Text.parseBelow (2 ^ 32) value.toList
    realMemoryMb := fields["RealMemory"]?.bind fun value => Text.parseBelow (2 ^ 64) value.toList
    gres := optional fields "Gres"
    cfgTres := optional fields "CfgTRES"
    allocTres := optional fields "AllocTRES"
    bootTime := optional fields "BootTime" }

/-- The host name to reach this node at. -/
def hostName (node : SlurmNode) : String := node.nodeHostName.getD node.nodeName

/-- The number of GPUs one generic resource stands for: the number at its end, or one. -/
def gpuCount (item : List Char) : Option ℕ :=
  match item.splitOn ':' with
  | [] => none
  | name :: parts =>
    if name = "gpu".toList then some ((parts.getLast?.bind (Text.parseBelow (2 ^ 32))).getD 1) else none

/-- Number of GPUs Slurm has been configured to expect; the sum is kept in 32 bits. -/
def configuredGpuCount (node : SlurmNode) : Option ℕ := do
  let gres ← node.gres
  if gres = "(null)" then some 0
  else
    match ((stripParenthesised gres.toList).splitOn ',').filterMap gpuCount with
    | [] => none
    | counts => some (counts.sum % 2 ^ 32)

end SlurmNode

/-- Parse the nodes printed, one record a line. -/
def parseNodes (output : List Char) : List SlurmNode := (Text.lines output).filterMap SlurmNode.parseLine

/-! ### Partitions and controllers -/

/-- A partition as Slurm describes it. -/
structure SlurmPartition where
  /-- Partition name. -/
  name : String
  /-- Expanded node membership. -/
  nodes : List String
  /-- Its state. -/
  state : Option String
  /-- Whether this is the default partition. -/
  isDefault : Bool

/-- Parse one line, if it names a partition. -/
def SlurmPartition.parseLine (line : List Char) : Option SlurmPartition := do
  let fields := parseRecord line
  let name ← fields["PartitionName"]?
  if name = "" then none
  else some {
    name := name
    nodes := (fields["Nodes"]?.map fun list => (Hostlist.expand list.toList).map String.ofList).getD []
    state := optional fields "State"
    isDefault := (fields["Default"]?.map fun value => Text.eqIgnoreCase value.toList "YES".toList).getD false }

/-- Parse the partitions printed, one record a line. -/
def parsePartitions (output : List Char) : List SlurmPartition :=
  (Text.lines output).filterMap SlurmPartition.parseLine

/-- Whether one controller answered. -/
structure ControllerPing where
  /-- The host named. -/
  host : String
  /-- Whether it answered. -/
  up : Bool
  /-- Its role. -/
  role : String
  deriving DecidableEq, Repr

/-- The controllers of one line: roles, hosts and statuses, each separated by slashes. -/
def pings (roles hosts statuses : List Char) : List ControllerPing :=
  let roles := roles.splitOn '/'
  let statuses := (Text.trim statuses).splitOn '/'
  ((Text.trim hosts).splitOn '/').zipIdx.filterMap fun (host, index) =>
    let host := Text.trim host
    if host = [] ∨ Text.eqIgnoreCase host "(null)".toList then none
    else some {
      host := String.ofList host
      up := (statuses[index]?.map fun s => Text.eqIgnoreCase (Text.trim s) "UP".toList).getD false
      role := String.ofList (Text.trim (roles[index]?.getD "unknown".toList)) }

/-- Parse one line of a ping. -/
def parsePingLine (line : List Char) : List ControllerPing :=
  let line := Text.trim line
  let parsed := do
    if ¬ "Slurmctld".toList.isPrefixOf line then none
    let (_, rest) ← Text.splitOnce ['('] line
    let (roles, _) ← Text.splitOnce [')'] rest
    let (_, after) ← Text.splitOnce " at ".toList line
    let after := ((Text.splitOnce " at ".toList after).map Prod.fst).getD after
    let (hosts, statuses) ← (Text.splitOnce " is ".toList after).or (Text.splitOnce " are ".toList after)
    return pings roles hosts statuses
  parsed.getD []

/-- Parse a ping. -/
def parsePing (output : List Char) : List ControllerPing := (Text.lines output).flatMap parsePingLine

end Slurm

end Sentinel
