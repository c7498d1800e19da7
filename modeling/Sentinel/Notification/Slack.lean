import Sentinel.Diagnosis.Investigation
import Sentinel.Lib.Cutting
import Sentinel.Lib.Packing
import Sentinel.Notification.Basic

/-!
# Messages for Slack

Slack rejects a message that breaks one of its limits: fifty blocks, a hundred and fifty
characters in a header, three thousand in a text.  Paragraphs and instructions are packed
whole into blocks; what does not fit is left out, and a notice says so and names the command
that shows all of it.

## Main definitions

* `groupedSections`, `groupedActions` — the two packers.
* `slackBlocks`, `slackPayload` — the payload of a message.
* `WithinLimits`, `Shows` — what is owed to Slack, and to the reader.

## Main results

* `groupedSections_eq`, `groupedActions_eq` — both packers are packings.
* `slackBlocks_spec` — **a payload is within the limits, and shows what it does not report
  as left out.**
-/

namespace Sentinel

/-- A notification with what it says. -/
structure Message extends Notification where
  /-- One-line summary. -/
  title : String
  /-- The detail an operator needs. -/
  body : String
  /-- What to do, and the commands worth running. -/
  recommendedActions : List String

/-- Slack's limit on a header, which it rejects rather than truncates. -/
def slackHeaderLimit : ℕ := 150

/-- Slack's limit on the text of a section. -/
def slackSectionLimit : ℕ := 3000

/-- Cut to a limit, marking that something was cut. -/
def truncated (text : String) (limit : ℕ) : String :=
  if text.length ≤ limit then text else String.ofList (text.toList.take (limit - 1) ++ ['…'])

theorem length_truncated_le {limit : ℕ} (h : 0 < limit) (text : String) : (truncated text limit).length ≤ limit := by
  unfold truncated
  split
  · assumption
  · rw [String.length_ofList, List.length_append, List.length_take, List.length_singleton]
    omega

/-- Escape what Slack would interpret. -/
def slackEscape (text : List Char) : List Char :=
  text.flatMap fun c =>
    if c = '&' then "&amp;".toList else if c = '<' then "&lt;".toList else if c = '>' then "&gt;".toList else [c]

/-! ### Blocks -/

/-- An element of rich text. -/
inductive Element
  /-- A text. -/
  | richSection (text : String)
  /-- A literal text. -/
  | preformatted (text : String)
  deriving DecidableEq

/-- The text of an element. -/
def Element.text : Element → String
  | richSection text => text
  | preformatted text => text

/-- A block of a message. -/
inductive Block
  /-- A text that Slack interprets. -/
  | mrkdwn (text : String)
  /-- A heading. -/
  | header (text : String)
  /-- A plain text. -/
  | plainSection (text : String)
  /-- Rich text. -/
  | richText (elements : List Element)
  /-- A line at the end. -/
  | context (text : String)
  deriving DecidableEq

/-- How many characters there are in some elements. -/
def textLength (elements : List Element) : ℕ := (elements.map fun element => element.text.length).sum

/-! ### Paragraphs -/

/-- The parts of a text between empty lines. -/
def paragraphs : List Char → List (List Char)
  | '\n' :: '\n' :: rest => [] :: paragraphs rest
  | c :: rest => (paragraphs rest).modifyHead (c :: ·)
  | [] => [[]]

theorem paragraphs_ne_nil (s : List Char) : paragraphs s ≠ [] := by
  fun_induction paragraphs s with
  | case1 rest _ => exact List.cons_ne_nil _ _
  | case2 c rest _ ih => exact mt List.modifyHead_eq_nil_iff.mp ih
  | case3 => exact List.cons_ne_nil _ _

/-- The parts make up the text. -/
theorem intercalate_paragraphs (s : List Char) : ['\n', '\n'].intercalate (paragraphs s) = s := by
  fun_induction paragraphs s with
  | case1 rest ih =>
    rw [List.intercalate_cons_of_ne_nil (paragraphs_ne_nil rest), ih]
    rfl
  | case2 c rest _ ih =>
    obtain ⟨first, others, hparts⟩ := List.exists_cons_of_ne_nil (paragraphs_ne_nil rest)
    rw [hparts] at ih ⊢
    rw [List.modifyHead_cons, List.intercalate_cons_cons_left, ih]
  | case3 => rfl

example : paragraphs "a\n\n\nb\n\n".toList = ["a".toList, "\nb".toList, []] := by decide

/-- The paragraphs of a message that are not blank. -/
def Message.paragraphs (n : Message) : List String :=
  ((Sentinel.paragraphs n.body.toList).filter fun part => Text.trim part ≠ []).map String.ofList

/-- Pack one paragraph more: the sections, the one that is open, and whether a paragraph was
left out. -/
def addSection (state : List String × String × Bool) (part : String) : List String × String × Bool :=
  let (groups, group, omitted) := state
  if slackSectionLimit < part.length then (groups, group, true)
  else
    let (groups, group) :=
      if group ≠ "" ∧ slackSectionLimit < group.length + 2 + part.length then (groups ++ [group], "")
      else (groups, group)
    (groups, (if group ≠ "" then group ++ "\n\n" else group) ++ part, omitted)

/-- Pack whole paragraphs, reporting anything that cannot fit. -/
def groupedSections (parts : List String) : List String × Bool :=
  let (groups, group, omitted) := parts.foldl addSection ([], "", false)
  (if group ≠ "" then groups ++ [group] else groups, omitted)

/-! ### Instructions -/

/-- What the command lines of instructions begin with. -/
def commandWords : List String :=
  ["sudo", "sentinel", "systemctl", "journalctl", "scontrol", "sinfo", "ss", "ip", "ping", "ssh", "curl", "nc",
    "cat", "ls", "df", "ps", "pgrep", "findmnt", "mount", "exportfs", "nvidia-smi", "timeout"]

/-- Whether an instruction is nothing but a command. -/
def isCommand (action : List Char) : Bool :=
  commandWords.any fun word => (Text.splitWhitespace action).headD [] = word.toList

/-- Begin a line after every sentence, but the last. -/
def sentences (s : List Char) : List Char :=
  ((s.flatMap fun c => if c = '。' then ['。', '\n'] else [c]).reverse.dropWhile (· = '\n')).reverse

/-- Where to do something, and what. -/
def actionDescription (description : List Char) : List Char :=
  match Text.splitOnce "で、".toList description with
  | some (location, check) => "実行先　".toList ++ location ++ '\n' :: sentences check
  | none => sentences description

/-- The description of an instruction, and its command. -/
def actionParts (action : List Char) : List Char × Option (List Char) :=
  if isCommand action then ("確認コマンド".toList, some action)
  else match Text.splitOnce ['\n'] action with
    | some (description, command) => (description, some command)
    | none => (action, none)

/-- A description, with its number if it has one. -/
def numbered (number : Option ℕ) (description : String) : String :=
  match number with
  | some number => s!"{number}. {description}"
  | none => description

/-- The elements of an instruction.  A command is literal: quotes, backticks and mentions
remain part of it. -/
def actionElements (action : String) (number : Option ℕ) : List Element :=
  let (description, command) := actionParts action.toList
  .richSection (numbered number (String.ofList (actionDescription description))) :: match command.filter fun command => Text.trim command ≠ [] with
    | some command => [.preformatted (String.ofList command)]
    | none => []

/-- The text of some elements, each on a line of its own. -/
def actionLength (elements : List Element) : ℕ := textLength elements + (elements.length - 1)

/-- Pack one instruction more: the blocks, the elements of the one that is open and what
they take up, and whether an instruction was left out. -/
def addAction (state : List Block × List Element × ℕ × Bool) (elements : List Element) :
    List Block × List Element × ℕ × Bool :=
  let (groups, group, groupLength, omitted) := state
  let length := actionLength elements
  if slackSectionLimit < length then (groups, group, groupLength, true)
  else
    let (groups, group, groupLength) :=
      if group ≠ [] ∧ slackSectionLimit < groupLength + 3 + length then (groups ++ [.richText group], [], 0)
      else (groups, group, groupLength)
    (groups, (if group ≠ [] then group ++ [.richSection "\n"] else group) ++ elements,
      groupLength + (length + if group ≠ [] then 3 else 0), omitted)

/-- The elements of an instruction, given its place. -/
def stepElements (step : String × ℕ) : List Element := actionElements step.1 (some (step.2 + 1))

/-- Pack complete instructions into rich text blocks, never cutting a command. -/
def groupedActions (actions : List String) : List Block × Bool :=
  let (groups, group, _, omitted) :=
    (actions.zipIdx.map stepElements).foldl addAction ([], [], 0, false)
  (if group ≠ [] then groups ++ [.richText group] else groups, omitted)

/-! ### Payloads -/

/-- The heading of a message of a kind. -/
def headingFor (trigger : Trigger) (severity : Severity) : String :=
  let level := match severity with
    | .critical => "重大"
    | .warning => "警告"
    | .info => "情報"
  match trigger with
  | .opened => "障害発生（" ++ level ++ "）"
  | .escalated => "重大度上昇（" ++ level ++ "）"
  | .diagnosisChanged => "診断更新（" ++ level ++ "）"
  | .recovering => "復旧途中"
  | .resolved => "復旧確認"

namespace Message

/-- The colour beside a message. -/
def color (n : Message) : String :=
  match n.trigger with
  | .resolved => "#2e7d32"
  | .recovering => "#f9a825"
  | _ => match n.severity with
    | .critical => "#d32f2f"
    | .warning => "#f9a825"
    | .info => "#546e7a"

/-- Whether everyone in the channel is called. -/
def mentionsChannel (n : Message) : Bool := n.severity = .critical && !n.trigger.isRecovery

/-- The title without its heading. -/
def summary (n : Message) : String :=
  match (Text.splitOnce " / ".toList n.title.toList).or (Text.splitOnce ": ".toList n.title.toList) with
  | some (_, rest) => String.ofList rest
  | none => n.title

/-- The heading of the title, or that of its kind. -/
def heading (n : Message) : String :=
  match Text.splitOnce " / ".toList n.title.toList with
  | some (heading, _) => String.ofList heading
  | none => headingFor n.trigger n.severity

end Message

/-- What is said where something was left out. -/
def omissionNotice (incidentId : String) : String :=
  Investigation.step "Sentinel controller" "表示上限のため、一部を省略しました。次のコマンドで確認手順の全文を表示してください"
    (Investigation.sentinel ("incident show " ++ Investigation.quote incidentId))

section Payload

-- how an instant is displayed
variable (display : Timestamp → String)

/-- The blocks of a message. -/
def slackBlocks (n : Message) : List Block :=
  let blocks := if n.mentionsChannel then [.mrkdwn "<!channel>"] else []
  let blocks := blocks ++ [.header (truncated n.heading slackHeaderLimit)]
  let blocks := if Text.trim n.body.toList = [] then
      blocks ++ [.plainSection (truncated n.summary slackSectionLimit)]
    else blocks
  let (body, bodyOmitted) := groupedSections n.paragraphs
  let wasOmitted := bodyOmitted || 10 < body.length
  let blocks := blocks ++ (body.take 10).map .plainSection
  let (blocks, wasOmitted) := if n.recommendedActions = [] then (blocks, wasOmitted) else
    let blocks := blocks ++ [.plainSection "確認手順"]
    let (actions, actionsOmitted) := groupedActions n.recommendedActions
    -- two blocks are reserved, for the notice and the context
    let available := 50 - (blocks.length + 2)
    (blocks ++ actions.take available, wasOmitted || (actionsOmitted || available < actions.length))
  let blocks := if wasOmitted then blocks ++ [.richText (actionElements (omissionNotice n.incidentId) none)] else blocks
  blocks ++ [.context (truncated ("Cluster Sentinel / 障害ID " ++ n.incidentId ++ " / " ++ display n.createdAt)
    slackSectionLimit)]

/-- What Slack is sent. -/
structure SlackPayload where
  /-- The colour beside the message. -/
  color : String
  /-- What a notification shows. -/
  fallback : String
  /-- The message. -/
  blocks : List Block

/-- The payload of a message. -/
def slackPayload (n : Message) : SlackPayload where
  color := n.color
  fallback :=
    let fallback := String.ofList (slackEscape n.title.toList)
    truncated (if n.mentionsChannel then "<!channel>\n" ++ fallback else fallback) slackSectionLimit
  blocks := slackBlocks display n

end Payload

/-! ### Both packers are packings -/

/-- A section of paragraphs. -/
def sectionOf (group : List String) : String := "\n\n".intercalate group

@[simp] theorem sectionOf_nil : sectionOf [] = "" := rfl

@[simp] theorem sectionOf_singleton (part : String) : sectionOf [part] = part := String.intercalate_singleton

theorem sectionOf_concat {group : List String} (h : group ≠ []) (part : String) :
    sectionOf (group ++ [part]) = sectionOf group ++ "\n\n" ++ part := by
  rw [sectionOf, String.intercalate_append_of_ne_nil h (List.cons_ne_nil _ _), String.intercalate_singleton, sectionOf]

/-- What a section takes up. -/
theorem length_sectionOf (group : List String) : (sectionOf group).length = Packing.width String.length 2 group := by
  induction group using List.reverseRecOn with
  | nil => rfl
  | append_singleton group part ih =>
    by_cases h : group = []
    · subst h
      simp
    · rw [sectionOf_concat h, String.length_append, String.length_append, ih, Packing.width_concat h]
      rfl

theorem sectionOf_eq_empty_iff {group : List String} (h : ∀ part ∈ group, part ≠ "") :
    sectionOf group = "" ↔ group = [] := by
  constructor
  · intro hempty
    cases group with
    | nil => rfl
    | cons part group =>
      have hlength := length_sectionOf (part :: group)
      have hpart : part.length ≠ 0 := fun h0 => h part List.mem_cons_self (String.length_eq_zero_iff.mp h0)
      rw [hempty, Packing.width, List.map_cons, List.sum_cons, String.length_empty] at hlength
      omega
  · rintro rfl
    rfl

/-- The sections of a packing, as the packer keeps them. -/
def sectionsOf (p : Packing String) : List String × String × Bool := (p.groups.map sectionOf, sectionOf p.group, p.omitted)

theorem addSection_sectionsOf (p : Packing String) (part : String) (h : ∀ other ∈ p.group, other ≠ "") :
    addSection (sectionsOf p) part = sectionsOf (p.add String.length 2 slackSectionLimit part) := by
  have hempty := sectionOf_eq_empty_iff h
  unfold addSection sectionsOf Packing.add
  dsimp only
  by_cases hlong : slackSectionLimit < part.length
  · rw [if_pos hlong, if_pos hlong]
  · rw [if_neg hlong, if_neg hlong, length_sectionOf]
    by_cases hgroup : p.group = []
    · simp [hgroup]
    · have hne : sectionOf p.group ≠ "" := mt hempty.mp hgroup
      by_cases hfull : slackSectionLimit < Packing.width String.length 2 p.group + 2 + part.length
      · simp [hgroup, hne, hfull]
      · simp [hgroup, hne, hfull, sectionOf_concat hgroup]

/-- **The packer of paragraphs is a packing.** -/
theorem groupedSections_eq {parts : List String} (h : ∀ part ∈ parts, part ≠ "") :
    groupedSections parts =
      ((Packing.pack String.length 2 slackSectionLimit parts).closed.map sectionOf,
        (Packing.pack String.length 2 slackSectionLimit parts).omitted) := by
  have hfold : parts.foldl addSection (sectionsOf Packing.start) =
      sectionsOf (Packing.pack String.length 2 slackSectionLimit parts) :=
    Packing.foldl_render (· ≠ "") (fun p part hgroup _ => addSection_sectionsOf p part hgroup) h
  have hempty : sectionOf (Packing.pack String.length 2 slackSectionLimit parts).group = "" ↔
      (Packing.pack String.length 2 slackSectionLimit parts).group = [] :=
    sectionOf_eq_empty_iff fun part hpart => h part (Packing.mem_of_mem_group hpart)
  have hstart : sectionsOf Packing.start = ([], "", false) := rfl
  rw [groupedSections, ← hstart, hfold]
  simp only [sectionsOf, Packing.closed, ne_eq, hempty]
  by_cases hgroup : (Packing.pack String.length 2 slackSectionLimit parts).group = []
  · simp [hgroup]
  · simp [hgroup]

/-- The elements of a block of instructions, separated. -/
def elementsOf (group : List (String × ℕ)) : List Element := [.richSection "\n"].intercalate (group.map stepElements)

@[simp] theorem elementsOf_nil : elementsOf [] = [] := rfl

@[simp] theorem elementsOf_singleton (s : String × ℕ) : elementsOf [s] = stepElements s := List.intercalate_singleton

theorem elementsOf_cons {group : List (String × ℕ)} (s : String × ℕ) (h : group ≠ []) :
    elementsOf (s :: group) = stepElements s ++ [.richSection "\n"] ++ elementsOf group := by
  rw [elementsOf, List.map_cons, List.intercalate_cons_of_ne_nil (mt List.map_eq_nil_iff.mp h), elementsOf]

theorem elementsOf_concat {group : List (String × ℕ)} (h : group ≠ []) (s : String × ℕ) :
    elementsOf (group ++ [s]) = elementsOf group ++ [.richSection "\n"] ++ stepElements s := by
  induction group with
  | nil => exact absurd rfl h
  | cons t group ih =>
    by_cases hgroup : group = []
    · subst hgroup
      rw [List.singleton_append, elementsOf_cons t (List.cons_ne_nil _ _), elementsOf_singleton, elementsOf_singleton]
    · rw [List.cons_append, elementsOf_cons t (List.append_ne_nil_of_left_ne_nil hgroup _), ih hgroup,
        elementsOf_cons t hgroup]
      simp only [List.append_assoc]

theorem stepElements_ne_nil (s : String × ℕ) : stepElements s ≠ [] := by
  unfold stepElements actionElements
  exact List.cons_ne_nil _ _

theorem elementsOf_eq_nil_iff {group : List (String × ℕ)} : elementsOf group = [] ↔ group = [] := by
  constructor
  · intro h
    cases group with
    | nil => rfl
    | cons s group =>
      refine absurd h ?_
      by_cases hgroup : group = []
      · rw [hgroup, elementsOf_singleton]
        exact stepElements_ne_nil s
      · rw [elementsOf_cons s hgroup, List.append_assoc]
        exact List.append_ne_nil_of_left_ne_nil (stepElements_ne_nil s) _
  · rintro rfl
    rfl

/-- The elements of each instruction of a block are in it. -/
theorem mem_elementsOf {group : List (String × ℕ)} {s : String × ℕ} {element : Element} (hs : s ∈ group)
    (h : element ∈ stepElements s) : element ∈ elementsOf group := by
  induction group with
  | nil => cases hs
  | cons t group ih =>
    by_cases hgroup : group = []
    · subst hgroup
      obtain rfl := List.mem_singleton.mp hs
      rwa [elementsOf_singleton]
    · rw [elementsOf_cons t hgroup, List.mem_append, List.mem_append]
      rcases List.mem_cons.mp hs with rfl | hs
      · exact Or.inl (Or.inl h)
      · exact Or.inr (ih hs)

/-- What an instruction takes up. -/
def stepLength (s : String × ℕ) : ℕ := actionLength (stepElements s)

/-- The text of a block of instructions is no longer than what it takes up. -/
theorem textLength_elementsOf_le (group : List (String × ℕ)) :
    textLength (elementsOf group) ≤ Packing.width stepLength 3 group := by
  have happend : ∀ a b : List Element, textLength (a ++ b) = textLength a + textLength b := by
    intro a b
    rw [textLength, List.map_append, List.sum_append, textLength, textLength]
  have hstep : ∀ s, textLength (stepElements s) ≤ stepLength s := fun s => Nat.le_add_right _ _
  have hseparator : textLength [.richSection "\n"] = 1 := rfl
  induction group using List.reverseRecOn with
  | nil => exact Nat.zero_le _
  | append_singleton group s ih =>
    have := hstep s
    by_cases h : group = []
    · subst h
      simpa using this
    · rw [elementsOf_concat h, happend, happend, hseparator, Packing.width_concat h]
      omega

/-- The blocks of a packing, as the packer keeps them. -/
def actionsOf (p : Packing (String × ℕ)) : List Block × List Element × ℕ × Bool :=
  (p.groups.map fun group => .richText (elementsOf group), elementsOf p.group, Packing.width stepLength 3 p.group, p.omitted)

theorem addAction_actionsOf (p : Packing (String × ℕ)) (s : String × ℕ) :
    addAction (actionsOf p) (stepElements s) = actionsOf (p.add stepLength 3 slackSectionLimit s) := by
  have hlength : actionLength (stepElements s) = stepLength s := rfl
  unfold addAction actionsOf Packing.add
  dsimp only
  rw [hlength]
  by_cases hlong : slackSectionLimit < stepLength s
  · rw [if_pos hlong, if_pos hlong]
  · rw [if_neg hlong, if_neg hlong]
    by_cases hgroup : p.group = []
    · simp [hgroup]
    · have hne : elementsOf p.group ≠ [] := mt elementsOf_eq_nil_iff.mp hgroup
      by_cases hfull : slackSectionLimit < Packing.width stepLength 3 p.group + 3 + stepLength s
      · simp [hgroup, hne, hfull]
      · simp only [hgroup, hne, hfull, ne_eq, not_false_eq_true, and_false, if_true, if_false,
          elementsOf_concat hgroup, Packing.width_concat hgroup, Prod.mk.injEq, true_and, and_true]
        omega

/-- **The packer of instructions is a packing.** -/
theorem groupedActions_eq (actions : List String) :
    groupedActions actions =
      ((Packing.pack stepLength 3 slackSectionLimit actions.zipIdx).closed.map fun group => .richText (elementsOf group),
        (Packing.pack stepLength 3 slackSectionLimit actions.zipIdx).omitted) := by
  have hfold : actions.zipIdx.foldl (fun state s => addAction state (stepElements s)) (actionsOf Packing.start) =
      actionsOf (Packing.pack stepLength 3 slackSectionLimit actions.zipIdx) :=
    Packing.foldl_render (fun _ => True) (fun p s _ _ => addAction_actionsOf p s) fun _ _ => trivial
  have hstart : actionsOf Packing.start = ([], [], 0, false) := rfl
  rw [groupedActions, List.foldl_map, ← hstart, hfold]
  simp only [actionsOf, Packing.closed, ne_eq, elementsOf_eq_nil_iff]
  by_cases hgroup : (Packing.pack stepLength 3 slackSectionLimit actions.zipIdx).group = []
  · simp [hgroup]
  · simp [hgroup]

/-! ### Commands -/

/-- The command of an instruction: all of it, or what follows its first line. -/
inductive HasCommand (action : String) : String → Prop
  | whole (h : isCommand action.toList = true) : HasCommand action action
  | after {description command : String} (h : isCommand action.toList = false)
      (heq : action = description ++ "\n" ++ command) (hline : '\n' ∉ description.toList)
      (hblank : Text.trim command.toList ≠ []) : HasCommand action command

/-- A command is not blank. -/
theorem trim_ne_nil_of_isCommand {action : List Char} (h : isCommand action = true) : Text.trim action ≠ [] := by
  intro htrim
  have hspace : ∀ c ∈ action, Text.isWhitespace c = true := by
    intro c hc
    by_contra hword
    have hmem := Text.mem_trim_of_mem hc (Bool.not_eq_true _ ▸ hword)
    rw [htrim] at hmem
    cases hmem
  rw [isCommand, Text.splitWhitespace_of_forall_space hspace] at h
  exact absurd h (by decide)

theorem actionElements_of_parts {action : String} {description command : List Char}
    (h : actionParts action.toList = (description, some command)) (hblank : Text.trim command ≠ [])
    (number : Option ℕ) : actionElements action number =
      [.richSection (numbered number (String.ofList (actionDescription description))),
        .preformatted (String.ofList command)] := by
  have hkept : (some command).filter (fun command => Text.trim command ≠ []) = some command :=
    if_pos (decide_eq_true hblank)
  rw [actionElements, h]
  dsimp only
  rw [hkept]

theorem actionParts_of_lines {description command : List Char}
    (h : isCommand (description ++ '\n' :: command) = false) (hline : '\n' ∉ description) :
    actionParts (description ++ '\n' :: command) = (description, some command) := by
  rw [actionParts, h, Text.splitOnce_append hline]
  rfl

/-- **A command stands verbatim in one element.** -/
theorem preformatted_mem {action command : String} (h : HasCommand action command) (number : Option ℕ) :
    Element.preformatted command ∈ actionElements action number := by
  have hmem : ∀ section_, Element.preformatted command ∈ [section_, .preformatted (String.ofList command.toList)] := by
    intro section_
    rw [String.ofList_toList]
    exact List.mem_cons_of_mem _ (List.mem_singleton_self _)
  cases h with
  | whole h =>
    rw [actionElements_of_parts (if_pos h) (trim_ne_nil_of_isCommand h)]
    exact hmem _
  | @after description _ h heq hline hblank =>
    have htext : action.toList = description.toList ++ '\n' :: command.toList := by
      rw [heq, String.toList_append, String.toList_append, List.append_assoc]
      rfl
    rw [actionElements_of_parts (htext ▸ actionParts_of_lines (htext ▸ h) hline) hblank]
    exact hmem _

/-- An instruction for an operator has the command on a line of its own. -/
theorem toList_step (location check command : String) : (Investigation.step location check command).toList =
    (location ++ "で、" ++ check ++ "。").toList ++ '\n' :: command.toList := by
  have hline : "。\n".toList = "。".toList ++ ['\n'] := by decide +kernel
  unfold Investigation.step
  simp only [String.toList_append, List.append_assoc, hline, List.singleton_append]

/-- The first line of what is said where something was left out. -/
def noticeText : String :=
  "Sentinel controller" ++ "で、" ++ "表示上限のため、一部を省略しました。次のコマンドで確認手順の全文を表示してください" ++ "。"

/-- How it is shown. -/
def noticeShown : String :=
  "実行先　Sentinel controller\n表示上限のため、一部を省略しました。\n次のコマンドで確認手順の全文を表示してください。"

/-- The command that shows all of an incident. -/
def showCommand (incidentId : String) : String := "sudo -u sentinel sentinel incident show '" ++ incidentId ++ "'"

theorem omissionNotice_eq {incidentId : String} (h : '\'' ∉ incidentId.toList) :
    (omissionNotice incidentId).toList = noticeText.toList ++ '\n' :: (showCommand incidentId).toList := by
  have hquote : Investigation.quote incidentId = "'" ++ incidentId ++ "'" := by
    rw [Investigation.quote, show ("'" : String) = String.ofList ['\''] from rfl, String.splitOn_of_notMem h,
      String.intercalate_singleton]
  have hassoc : ∀ a b q x : String, a ++ (b ++ (q ++ x ++ q)) = a ++ b ++ q ++ x ++ q := by
    intro a b q x
    simp only [String.append_assoc]
  have hliteral : "sudo -u sentinel sentinel " ++ "incident show " ++ "'" = "sudo -u sentinel sentinel incident show '" := by
    decide +kernel
  have hcommand : Investigation.sentinel ("incident show " ++ Investigation.quote incidentId) = showCommand incidentId :=
    (congrArg (fun argument => Investigation.sentinel ("incident show " ++ argument)) hquote).trans
      ((hassoc _ _ _ _).trans (congrArg (fun start => start ++ incidentId ++ "'") hliteral))
  exact (toList_step _ _ _).trans (congrArg (fun command => noticeText.toList ++ '\n' :: String.toList command) hcommand)

theorem isCommand_omissionNotice {incidentId : String} (h : '\'' ∉ incidentId.toList) :
    isCommand (omissionNotice incidentId).toList = false := by
  have hfirst : noticeText.toList = "Sentinel".toList ++ ' ' :: noticeText.toList.drop 9 := by decide +kernel
  have hword : Text.splitWhitespace "Sentinel".toList = ["Sentinel".toList] := by decide +kernel
  rw [omissionNotice_eq h, hfirst, List.append_assoc, List.cons_append, isCommand,
    Text.splitWhitespace_append (by decide), hword, List.singleton_append, List.headD_cons]
  decide +kernel

/-- What is said where something was left out, for an identifier that needs no quotes. -/
theorem actionElements_omissionNotice {incidentId : String} (h : '\'' ∉ incidentId.toList) :
    actionElements (omissionNotice incidentId) none =
      [.richSection noticeShown, .preformatted (showCommand incidentId)] := by
  have hline : '\n' ∉ noticeText.toList := by decide +kernel
  have hblank : Text.trim (showCommand incidentId).toList ≠ [] := by
    have happend : ∀ (s t : String), 's' ∈ s.toList → 's' ∈ (s ++ t).toList := by
      intro s t hs
      rw [String.toList_append]
      exact List.mem_append_left _ hs
    have hstart : 's' ∈ "sudo -u sentinel sentinel incident show '".toList := by decide +kernel
    exact List.ne_nil_of_mem (Text.mem_trim_of_mem (happend _ "'" (happend _ incidentId hstart)) (by decide))
  have hdescription : String.ofList (actionDescription noticeText.toList) = noticeShown := by decide +kernel
  have hword := isCommand_omissionNotice h
  rw [omissionNotice_eq h] at hword
  rw [actionElements_of_parts ((congrArg actionParts (omissionNotice_eq h)).trans (actionParts_of_lines hword hline)) hblank,
    numbered, hdescription, String.ofList_toList]

/-! ### What a payload shows -/

/-- Slack's limits on a block. -/
def Block.Fits : Block → Prop
  | mrkdwn text | plainSection text | context text => text.length ≤ 3000
  | header text => text.length ≤ 150
  | richText elements => textLength elements ≤ 3000

/-- Slack's limits. -/
structure WithinLimits (blocks : List Block) : Prop where
  count : blocks.length ≤ 50
  fits : ∀ block ∈ blocks, block.Fits

namespace Message

/-- What stands before the paragraphs: whom to call, the heading, and the summary of a
message without paragraphs. -/
def opening (n : Message) : List Block :=
  (if n.mentionsChannel then [.mrkdwn "<!channel>"] else []) ++
    .header (truncated n.heading slackHeaderLimit) ::
    if Text.trim n.body.toList = [] then [.plainSection (truncated n.summary slackSectionLimit)] else []

/-- What stands before the instructions, if there are any. -/
def stepsHeading (n : Message) : List Block := if n.recommendedActions = [] then [] else [.plainSection "確認手順"]

/-- What stands at the end. -/
def closing (display : Timestamp → String) (n : Message) : Block :=
  .context (truncated ("Cluster Sentinel / 障害ID " ++ n.incidentId ++ " / " ++ display n.createdAt) slackSectionLimit)

end Message

/-- Paragraphs, in sections, and instructions, each with its place, in rich text are what
the blocks of a message show of it: they are shown whole, in order and once, and if any is
missing, a notice says so. -/
structure Shows (display : Timestamp → String) (n : Message) (blocks : List Block) (shown : List (List String))
    (listed : List (List (String × ℕ))) : Prop where
  layout : ∃ notice, blocks = n.opening ++ (shown.map fun group => .plainSection (sectionOf group)) ++ n.stepsHeading ++
    (listed.map fun group => .richText (elementsOf group)) ++ notice ++ [n.closing display] ∧ notice.length ≤ 1
  paragraphs : shown.flatten.Sublist n.paragraphs
  instructions : listed.flatten.Sublist n.recommendedActions.zipIdx
  commands : ∀ instruction ∈ listed.flatten, ∀ command, HasCommand instruction.1 command →
    ∃ elements, .richText elements ∈ blocks ∧ .preformatted command ∈ elements
  omission : shown.flatten ≠ n.paragraphs ∨ listed.flatten ≠ n.recommendedActions.zipIdx →
    ∃ elements, .richText elements ∈ blocks ∧
      .richSection noticeShown ∈ elements ∧ .preformatted (showCommand n.incidentId) ∈ elements

namespace Message

/-- The paragraphs, packed. -/
def sections (n : Message) : Packing String := Packing.pack String.length 2 slackSectionLimit n.paragraphs

/-- The instructions, packed. -/
def instructions (n : Message) : Packing (String × ℕ) :=
  Packing.pack stepLength 3 slackSectionLimit n.recommendedActions.zipIdx

/-- The paragraphs that are shown. -/
def shown (n : Message) : List (List String) := n.sections.closed.take 10

/-- What stands before the first instruction. -/
def front (n : Message) : List Block :=
  n.opening ++ (n.shown.map fun group => .plainSection (sectionOf group)) ++ n.stepsHeading

/-- The instructions that are shown: there is room for them, for a notice and for the end. -/
def listed (n : Message) : List (List (String × ℕ)) := n.instructions.closed.take (50 - (n.front.length + 2))

/-- Whether something was left out. -/
def omitted (n : Message) : Bool :=
  (n.sections.omitted || 10 < n.sections.closed.length) ||
    (n.instructions.omitted || 50 - (n.front.length + 2) < n.instructions.closed.length)

theorem paragraphs_ne_empty (n : Message) : ∀ part ∈ n.paragraphs, part ≠ "" := by
  intro part hpart
  obtain ⟨s, hs, rfl⟩ := List.mem_map.mp hpart
  have hblank := of_decide_eq_true (List.mem_filter.mp hs).2
  intro hempty
  rw [String.ofList_eq_empty_iff] at hempty
  rw [hempty] at hblank
  exact hblank rfl

/-- The blocks of a message. -/
theorem slackBlocks_eq (display : Timestamp → String) (n : Message) : slackBlocks display n =
    n.front ++ (n.listed.map fun group => .richText (elementsOf group)) ++
      (if n.omitted then [.richText (actionElements (omissionNotice n.incidentId) none)] else []) ++ [n.closing display] := by
  have hopening : (if Text.trim n.body.toList = [] then
      (if n.mentionsChannel then [Block.mrkdwn "<!channel>"] else []) ++ [.header (truncated n.heading slackHeaderLimit)] ++
        [.plainSection (truncated n.summary slackSectionLimit)]
      else (if n.mentionsChannel then [Block.mrkdwn "<!channel>"] else []) ++
        [.header (truncated n.heading slackHeaderLimit)]) = n.opening := by
    rw [opening]
    split <;> simp
  unfold slackBlocks
  dsimp only
  rw [hopening, groupedSections_eq n.paragraphs_ne_empty, groupedActions_eq]
  dsimp only
  rw [← sections, ← instructions, ← List.map_take, List.map_map, List.length_map, List.length_map, ← shown]
  have hnotice : ∀ (omitted : Bool) (blocks : List Block) (notice closing : Block),
      (if omitted then blocks ++ [notice] else blocks) ++ [closing] =
        blocks ++ (if omitted then [notice] else []) ++ [closing] := by
    intro omitted blocks notice closing
    cases omitted <;> simp
  by_cases h : n.recommendedActions = []
  · have hinstructions : n.instructions = Packing.start := by
      rw [instructions, h]
      rfl
    have hfront : n.front = n.opening ++ n.shown.map fun group => .plainSection (sectionOf group) := by
      rw [front, stepsHeading, if_pos h, List.append_nil]
    have hlisted : n.listed = [] := by
      rw [listed, hinstructions]
      exact List.take_nil
    have homitted : n.omitted = (n.sections.omitted || decide (10 < n.sections.closed.length)) := by
      rw [omitted, hinstructions]
      simp [Packing.start, Packing.closed]
    rw [if_pos h, hlisted, hfront, homitted, List.map_nil, List.append_nil]
    exact hnotice _ _ _ _
  · have hheading : n.stepsHeading = [.plainSection "確認手順"] := if_neg h
    rw [if_neg h, ← hheading, ← List.map_take]
    exact hnotice _ _ _ _

theorem length_opening_le (n : Message) : n.opening.length ≤ 3 := by
  unfold opening
  split <;> split <;> simp

theorem length_front_le (n : Message) : n.front.length ≤ 14 := by
  have hopening := n.length_opening_le
  have hshown : n.shown.length ≤ 10 := List.length_take_le _ _
  have hheading : n.stepsHeading.length ≤ 1 := by
    unfold stepsHeading
    split <;> simp
  rw [front, List.length_append, List.length_append, List.length_map]
  omega

/-- **There is room** for the notice and for the end. -/
theorem count_slackBlocks (display : Timestamp → String) (n : Message) : (slackBlocks display n).length ≤ 50 := by
  have hfront := n.length_front_le
  have hlisted : n.listed.length ≤ 50 - (n.front.length + 2) := List.length_take_le _ _
  have hnotice : (if n.omitted then [Block.richText (actionElements (omissionNotice n.incidentId) none)] else []).length ≤ 1 := by
    split <;> simp
  rw [slackBlocks_eq, List.length_append, List.length_append, List.length_append, List.length_map, List.length_singleton]
  omega

theorem fits_opening (n : Message) : ∀ block ∈ n.opening, block.Fits := by
  have hheader : (truncated n.heading slackHeaderLimit).length ≤ 150 := length_truncated_le (by decide) _
  have hsummary : (truncated n.summary slackSectionLimit).length ≤ 3000 := length_truncated_le (by decide) _
  have hmention : "<!channel>".length ≤ 3000 := by decide
  unfold opening
  split <;> split <;> simp [Block.Fits, hheader, hsummary, hmention]

theorem fits_front (n : Message) : ∀ block ∈ n.front, block.Fits := by
  unfold front
  rw [List.forall_mem_append, List.forall_mem_append]
  refine ⟨⟨n.fits_opening, fun block hblock => ?_⟩, fun block hblock => ?_⟩
  · obtain ⟨group, hgroup, rfl⟩ := List.mem_map.mp hblock
    show (sectionOf group).length ≤ 3000
    rw [length_sectionOf]
    exact (Packing.width_le_of_mem_pack (List.mem_of_mem_take hgroup)).2
  · unfold stepsHeading at hblock
    split at hblock
    · cases hblock
    · rw [List.mem_singleton.mp hblock]
      show "確認手順".length ≤ 3000
      decide

theorem fits_listed (n : Message) {group : List (String × ℕ)} (h : group ∈ n.listed) :
    (Block.richText (elementsOf group)).Fits :=
  (textLength_elementsOf_le group).trans (Packing.width_le_of_mem_pack (List.mem_of_mem_take h)).2

end Message

/-- The text of an identifier has thirty-six characters. -/
theorem Uuid.length_toText (u : Uuid) : u.toText.length = 36 := by
  rw [← String.length_toList]
  simp [toText]

/-- The notice fits. -/
theorem textLength_notice (u : Uuid) : textLength (actionElements (omissionNotice u.toText) none) ≤ 3000 := by
  have hquote : '\'' ∉ u.toText.toList := notMem_toText (by decide) (by decide) u
  have htext : noticeShown.length ≤ 100 := by decide +kernel
  have hstart : "sudo -u sentinel sentinel incident show '".length = 41 := by decide +kernel
  have hcommand : (showCommand u.toText).length = 41 + 36 + 1 :=
    (String.length_append _ _).trans (congrArg (· + 1)
      ((String.length_append _ _).trans (congrArg₂ (· + ·) hstart u.length_toText)))
  rw [actionElements_omissionNotice hquote]
  show noticeShown.length + ((showCommand u.toText).length + 0) ≤ 3000
  omega

/-- **A payload is within the limits.** -/
theorem withinLimits_slackBlocks (display : Timestamp → String) (n : Message) {u : Uuid} (h : n.incidentId = u.toText) :
    WithinLimits (slackBlocks display n) := by
  refine ⟨n.count_slackBlocks display, ?_⟩
  rw [n.slackBlocks_eq, List.forall_mem_append, List.forall_mem_append, List.forall_mem_append]
  refine ⟨⟨⟨n.fits_front, fun block hblock => ?_⟩, fun block hblock => ?_⟩, fun block hblock => ?_⟩
  · obtain ⟨group, hgroup, rfl⟩ := List.mem_map.mp hblock
    exact n.fits_listed hgroup
  · split at hblock
    · rw [List.mem_singleton.mp hblock, h]
      exact textLength_notice u
    · cases hblock
  · rw [List.mem_singleton.mp hblock]
    exact length_truncated_le (by decide) _

/-- **A payload is within the limits, and shows what it does not report as left out.** -/
theorem slackBlocks_spec (display : Timestamp → String) (n : Message) (u : Uuid) (h : n.incidentId = u.toText) :
    WithinLimits (slackPayload display n).blocks ∧
      ∃ shown listed, Shows display n (slackPayload display n).blocks shown listed := by
  have hquote : '\'' ∉ n.incidentId.toList := h ▸ notMem_toText (by decide) (by decide) u
  refine ⟨withinLimits_slackBlocks display n h, n.shown, n.listed, ?_⟩
  show Shows display n (slackBlocks display n) n.shown n.listed
  refine ⟨⟨_, n.slackBlocks_eq display, ?_⟩, Packing.flatten_take_sublist _ _, Packing.flatten_take_sublist _ _, ?_, ?_⟩
  · split <;> simp
  · intro instruction hinstruction command hcommand
    obtain ⟨group, hgroup, hmem⟩ := List.mem_flatten.mp hinstruction
    refine ⟨elementsOf group, ?_, ?_⟩
    · rw [n.slackBlocks_eq]
      refine List.mem_append_left _ (List.mem_append_left _ (List.mem_append_right _ ?_))
      exact List.mem_map.mpr ⟨group, hgroup, rfl⟩
    · exact mem_elementsOf hmem (preformatted_mem hcommand _)
  · intro hmissing
    have homitted : n.omitted = true := by
      by_contra hnone
      rw [Bool.not_eq_true, Message.omitted, Bool.or_eq_false_iff] at hnone
      rcases hmissing with hmissing | hmissing
      · exact hmissing (Packing.flatten_take_eq hnone.1)
      · exact hmissing (Packing.flatten_take_eq hnone.2)
    refine ⟨actionElements (omissionNotice n.incidentId) none, ?_, ?_⟩
    · rw [n.slackBlocks_eq, homitted, if_pos rfl]
      exact List.mem_append_left _ (List.mem_append_right _ (List.mem_singleton_self _))
    · rw [actionElements_omissionNotice hquote]
      exact ⟨List.mem_cons_self, List.mem_cons_of_mem _ (List.mem_singleton_self _)⟩

/-- A message with an instruction that begins with its description. -/
theorem slackBlocks_spec_opened :
    let n : Message := {
      incidentId := (Uuid.mk 1).toText, fingerprint := "host_unreachable", trigger := .opened, severity := .critical,
      createdAt := 0, eventId := none, title := "障害発生（重大） / node01", body := "node01\n\n未解決",
      recommendedActions := ["node01で、状態を確認してください。\nssh node01 uptime"] }
    WithinLimits (slackPayload (fun _ => "") n).blocks ∧
      ∃ shown listed, Shows (fun _ => "") n (slackPayload (fun _ => "") n).blocks shown listed :=
  slackBlocks_spec _ _ ⟨1⟩ rfl

end Sentinel
