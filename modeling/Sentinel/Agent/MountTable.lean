import Sentinel.Agent.LocalProbes
import Sentinel.Lib.Cutting

/-!
# The table of mounts

The kernel prints a mount on a line, its fields with single spaces between them, and writes
a space, a tab, a line feed, a backslash or a hash in a source or a target as an octal
escape.  The code cuts a line at all the white space that Unicode has, of which the kernel
escapes only some, and takes for the server of an NFS source what stands before the last
colon with a slash behind it, which the path may hold as well.

## Main definitions

* `parseMounts`, `unescapeMountField`, `MountEntry.nfsServer` — what the code reads.
* `MountRow`, `printMounts` — what the kernel prints.
* `NfsMount` — a mount of a path of a server.

## Main results

* `decodeEscapes_escape` — escapes are read back.
* `parseMountLine_line_iff` — which lines are read back.
* `mounts_kept_iff` — **mounts are read back exactly if they hold no other white space, and
  the server of a source is found exactly if its path holds no colon before a slash.**
-/

namespace Sentinel

/-! ### What the code reads -/

/-- A mounted file system, with its options as reported. -/
structure MountEntry extends MountInfo where
  /-- Mount options, as reported. -/
  options : String
  deriving DecidableEq

/-- The byte that octal digits denote; a plus sign may stand before them. -/
def byteOfOctal (s : List Char) : Option ℕ :=
  let digits : List Char := match s with
    | '+' :: rest => rest
    | s => s
  let byte := digits.foldl (fun n c => 8 * n + (c.toNat - '0'.toNat)) 0
  if digits ≠ [] ∧ digits.all (fun c => '0' ≤ c && c ≤ '7') ∧ byte < 256 then some byte else none

/-- Replace octal escapes by the characters they stand for. -/
def decodeEscapes : List Char → List Char
  | '\\' :: a :: b :: c :: rest =>
    match byteOfOctal [a, b, c] with
    | some byte => Char.ofNat byte :: decodeEscapes rest
    | none => '\\' :: decodeEscapes (a :: b :: c :: rest)
  | c :: rest => c :: decodeEscapes rest
  | [] => []

/-- Decode the kernel's octal escapes in a mount field. -/
def unescapeMountField (value : List Char) : List Char := if '\\' ∈ value then decodeEscapes value else value

/-- Read one line of a table of mounts. -/
def parseMountLine (line : List Char) : Option MountEntry :=
  match Text.splitWhitespace line with
  | source :: target :: fstype :: rest => some {
      source := String.ofList (unescapeMountField source)
      target := String.ofList (unescapeMountField target)
      fstype := String.ofList fstype
      options := String.ofList (rest.head?.getD []) }
  | _ => none

/-- Parse a table of mounts. -/
def parseMounts (text : List Char) : List MountEntry := (Text.lines text).filterMap parseMountLine

/-- The server of an NFS source, if there is one. -/
def MountEntry.nfsServer (mount : MountEntry) : Option String :=
  if mount.isNfs then
    (Text.rsplitOnce [':', '/'] mount.source.toList).map fun parts =>
      String.ofList ((parts.1.dropWhile (· = '[')).reverse.dropWhile (· = ']')).reverse
  else none

/-! ### What the kernel prints -/

/-- The characters that the kernel escapes. -/
def escapedChars : List Char := [' ', '\t', '\n', '\\', '#']

/-- A character as the kernel prints it. -/
def escapeChar (c : Char) : List Char :=
  if c ∈ escapedChars then
    ['\\', Nat.digitChar (c.toNat / 64), Nat.digitChar (c.toNat / 8 % 8), Nat.digitChar (c.toNat % 8)]
  else [c]

/-- A source or a target as the kernel prints it. -/
def escape (s : List Char) : List Char := s.flatMap escapeChar

/-- White space that the kernel does not escape. -/
def isForeign (c : Char) : Bool := Text.isWhitespace c && c ∉ escapedChars

/-- A mount in the kernel's table.  Its type and its options are as reported, with no
spaces, tabs or line feeds. -/
structure MountRow where
  /-- What is mounted. -/
  source : List Char
  /-- Where it is mounted. -/
  target : List Char
  /-- File system type. -/
  fstype : List Char
  /-- Mount options. -/
  options : List Char
  /-- Nothing is left out. -/
  nonempty : source ≠ [] ∧ target ≠ [] ∧ fstype ≠ [] ∧ options ≠ []
  /-- The type and the options are words. -/
  words : ∀ c ∈ fstype ++ options, c ≠ ' ' ∧ c ≠ '\t' ∧ c ≠ '\n'

namespace MountRow

/-- The line that the kernel prints. -/
def line (row : MountRow) : List Char :=
  escape row.source ++ ' ' :: (escape row.target ++ ' ' :: (row.fstype ++ ' ' :: (row.options ++ [' ', '0', ' ', '0'])))

/-- The mount that a row is about. -/
def entry (row : MountRow) : MountEntry :=
  ⟨⟨String.ofList row.source, String.ofList row.target, String.ofList row.fstype⟩, String.ofList row.options⟩

/-- A row has no white space that the kernel does not escape. -/
def Plain (row : MountRow) : Prop :=
  ∀ c ∈ row.source ++ row.target ++ (row.fstype ++ row.options), isForeign c = false

end MountRow

/-- The kernel's table. -/
def printMounts (rows : List MountRow) : List Char := (rows.map MountRow.line).flatMap (· ++ ['\n'])

/-! ### Escapes -/

section Escapes

variable {c : Char} {s : List Char}

theorem mem_escapedChars : c ∈ escapedChars ↔ c = ' ' ∨ c = '\t' ∨ c = '\n' ∨ c = '\\' ∨ c = '#' := by
  simp [escapedChars]

theorem decodeEscapes_cons (h : c ≠ '\\') (rest : List Char) : decodeEscapes (c :: rest) = c :: decodeEscapes rest := by
  rw [decodeEscapes.eq_def]
  split
  · next heq => exact absurd (List.cons.inj heq).1 h
  · next heq =>
    cases heq
    rfl
  · next heq => cases heq

/-- An escape is read as the character it stands for. -/
theorem decodeEscapes_escapeChar (c : Char) (rest : List Char) :
    decodeEscapes (escapeChar c ++ rest) = c :: decodeEscapes rest := by
  by_cases h : c ∈ escapedChars
  · rw [mem_escapedChars] at h
    rcases h with rfl | rfl | rfl | rfl | rfl <;> rfl
  · rw [escapeChar, if_neg h, List.singleton_append, decodeEscapes_cons]
    rintro rfl
    exact h (by decide)

/-- Escapes are read back. -/
theorem decodeEscapes_escape (s : List Char) : decodeEscapes (escape s) = s := by
  induction s with
  | nil => rfl
  | cons c s ih => rw [escape, List.flatMap_cons, decodeEscapes_escapeChar, ← escape, ih]

theorem unescapeMountField_eq (value : List Char) : unescapeMountField value = decodeEscapes value := by
  unfold unescapeMountField
  split
  · rfl
  · next h =>
    induction value with
    | nil => rfl
    | cons c value ih =>
      rw [List.mem_cons, not_or] at h
      rw [decodeEscapes_cons (Ne.symm h.1), ← ih h.2]

theorem unescapeMountField_escape (s : List Char) : unescapeMountField (escape s) = s := by
  rw [unescapeMountField_eq, decodeEscapes_escape]

theorem escape_eq_nil_iff : escape s = [] ↔ s = [] := by
  refine ⟨fun h => ?_, fun h => by rw [h]; rfl⟩
  rw [← decodeEscapes_escape s, h]
  rfl

/-- What is printed for a character that is no foreign white space has no white space. -/
theorem isWhitespace_escapeChar (h : isForeign c = false) : ∀ d ∈ escapeChar c, Text.isWhitespace d = false := by
  by_cases hc : c ∈ escapedChars
  · have hall : (escapeChar c).all (fun d => !Text.isWhitespace d) = true := by
      rw [mem_escapedChars] at hc
      rcases hc with rfl | rfl | rfl | rfl | rfl <;> rfl
    intro d hd
    simpa using List.all_eq_true.mp hall d hd
  · intro d hd
    rw [escapeChar, if_neg hc, List.mem_singleton] at hd
    subst hd
    simpa [isForeign, hc] using h

/-- Cutting what is printed is cutting at the foreign white space. -/
theorem splitOnP_escape (s : List Char) : (escape s).splitOnP Text.isWhitespace = (s.splitOnP isForeign).map escape := by
  induction s with
  | nil => rfl
  | cons c s ih =>
    rw [escape, List.flatMap_cons, ← escape, List.splitOnP_cons_eq_if_modifyHead]
    by_cases hc : isForeign c = true
    · have hspace : Text.isWhitespace c = true ∧ c ∉ escapedChars := by simpa [isForeign] using hc
      rw [escapeChar, if_neg hspace.2, List.singleton_append, List.splitOnP_cons_eq_if_modifyHead, if_pos hspace.1,
        if_pos hc, ih]
      rfl
    · obtain ⟨part, parts, hparts⟩ := List.exists_cons_of_ne_nil (List.splitOnP_ne_nil isForeign s)
      rw [if_neg hc, Text.splitOnP_append (isWhitespace_escapeChar (by simpa using hc)), ih, hparts]
      rfl

/-- No piece of what is printed stands for foreign white space. -/
theorem isForeign_unescape {part : List Char} (h : part ∈ Text.splitWhitespace (escape s)) :
    ∀ d ∈ unescapeMountField part, isForeign d = false := by
  obtain ⟨hmem, -⟩ := List.mem_filter.mp h
  rw [splitOnP_escape] at hmem
  obtain ⟨piece, hpiece, rfl⟩ := List.mem_map.mp hmem
  rw [unescapeMountField_escape]
  exact Text.of_mem_splitOnP hpiece

/-- A text without foreign white space is printed in one piece. -/
theorem splitWhitespace_escape (hne : s ≠ []) (h : ∀ d ∈ s, isForeign d = false) :
    Text.splitWhitespace (escape s) = [escape s] := by
  refine Text.splitWhitespace_of_forall (fun hnil => hne (escape_eq_nil_iff.mp hnil)) fun d hd => ?_
  obtain ⟨c, hc, hd⟩ := List.mem_flatMap.mp hd
  exact isWhitespace_escapeChar (h c hc) d hd

end Escapes

/-! ### Lines -/

section Lines

variable (row : MountRow)

namespace MountRow

/-- In a word all white space is foreign. -/
theorem isForeign_of_isWhitespace : ∀ c ∈ row.fstype ++ row.options, Text.isWhitespace c = isForeign c := by
  intro c hc
  unfold isForeign
  cases hspace : Text.isWhitespace c with
  | false => rfl
  | true =>
    have hescaped : c ∉ escapedChars := by
      rw [mem_escapedChars]
      rintro (rfl | rfl | rfl | rfl | rfl)
      · exact (row.words _ hc).1 rfl
      · exact (row.words _ hc).2.1 rfl
      · exact (row.words _ hc).2.2 rfl
      · cases hspace
      · cases hspace
    simp [hescaped]

/-- The pieces of a line. -/
theorem splitWhitespace_line : Text.splitWhitespace row.line =
    (Text.splitWhitespace (escape row.source) ++ Text.splitWhitespace (escape row.target)) ++
      (Text.splitWhitespace row.fstype ++ (Text.splitWhitespace row.options ++ [['0'], ['0']])) := by
  have hspace : Text.isWhitespace ' ' = true := rfl
  have hend : Text.splitWhitespace (row.options ++ [' ', '0', ' ', '0']) =
      Text.splitWhitespace row.options ++ [['0'], ['0']] := by
    rw [Text.splitWhitespace_append hspace]
    rfl
  rw [line, Text.splitWhitespace_append hspace, Text.splitWhitespace_append hspace, Text.splitWhitespace_append hspace,
    hend, List.append_assoc]

/-- A line is one line. -/
theorem line_lines : '\n' ∉ row.line ∧ row.line.getLast? ≠ some '\r' := by
  have hescape : ∀ s : List Char, '\n' ∉ escape s := by
    intro s h
    obtain ⟨c, -, hc⟩ := List.mem_flatMap.mp h
    by_cases hescaped : c ∈ escapedChars
    · rw [mem_escapedChars] at hescaped
      rcases hescaped with rfl | rfl | rfl | rfl | rfl <;> exact absurd hc (by decide)
    · rw [escapeChar, if_neg hescaped, List.mem_singleton] at hc
      exact hescaped (hc ▸ by decide)
  constructor
  · have hfstype : '\n' ∉ row.fstype := fun h => (row.words _ (List.mem_append_left _ h)).2.2 rfl
    have hoptions : '\n' ∉ row.options := fun h => (row.words _ (List.mem_append_right _ h)).2.2 rfl
    simp [line, hescape, hfstype, hoptions]
  · have hend : row.line = (escape row.source ++ ' ' :: (escape row.target ++ ' ' ::
        (row.fstype ++ ' ' :: (row.options ++ [' ', '0', ' '])))) ++ ['0'] := by
      simp [line]
    rw [hend, List.getLast?_concat]
    decide

end MountRow

/-- **A line is read back exactly if it has no white space that the kernel does not escape.** -/
theorem parseMountLine_line_iff : parseMountLine row.line = some row.entry ↔ row.Plain := by
  obtain ⟨hsource, htarget, hfstype, hoptions⟩ := row.nonempty
  have hword : ∀ {c}, c ∈ row.fstype ++ row.options → Text.isWhitespace c = isForeign c :=
    fun hc => row.isForeign_of_isWhitespace _ hc
  unfold parseMountLine
  constructor
  · intro h
    split at h
    · next a b c rest htokens =>
      have hentry := Option.some.inj h
      simp only [MountRow.entry, MountEntry.mk.injEq, MountInfo.mk.injEq, String.ofList_inj] at hentry
      obtain ⟨⟨hs, ht, hf⟩, ho⟩ := hentry
      obtain ⟨d, rest, rfl⟩ : ∃ d rest', rest = d :: rest' := by
        cases rest with
        | nil => exact absurd ho.symm hoptions
        | cons d rest => exact ⟨d, rest, rfl⟩
      rw [List.head?_cons, Option.getD_some] at ho
      subst hf ho
      -- the type and the options are pieces of their own
      have hpiece : ∀ piece ∈ row.fstype :: row.options :: rest, ∀ e ∈ piece, Text.isWhitespace e = false := by
        intro piece hmem
        refine (@Text.of_mem_splitWhitespace row.line piece ?_).2
        rw [htokens]
        exact List.mem_cons_of_mem _ (List.mem_cons_of_mem _ hmem)
      have hf := hpiece _ List.mem_cons_self
      have ho := hpiece _ (List.mem_cons_of_mem _ List.mem_cons_self)
      rw [row.splitWhitespace_line, Text.splitWhitespace_of_forall hfstype hf,
        Text.splitWhitespace_of_forall hoptions ho] at htokens
      -- what is read as the source and the target is a piece of them, or a number
      have hfree : ∀ piece ∈ Text.splitWhitespace (escape row.source) ++ Text.splitWhitespace (escape row.target),
          ∀ e ∈ unescapeMountField piece, isForeign e = false := by
        intro piece hmem
        rcases List.mem_append.mp hmem with hmem | hmem
        · exact isForeign_unescape hmem
        · exact isForeign_unescape hmem
      have hzero : ∀ e ∈ unescapeMountField ['0'], isForeign e = false := by
        intro e he
        rw [List.mem_singleton.mp (show e ∈ ['0'] from he)]
        rfl
      have hread : (∀ e ∈ unescapeMountField a, isForeign e = false) ∧
          ∀ e ∈ unescapeMountField b, isForeign e = false := by
        generalize Text.splitWhitespace (escape row.source) ++ Text.splitWhitespace (escape row.target) = pieces
          at htokens hfree
        rcases pieces with _ | ⟨x, _ | ⟨y, pieces⟩⟩
        · simp only [List.nil_append, List.cons_append, List.cons.injEq] at htokens
          obtain ⟨ha, hb, hf, ho, -⟩ := htokens
          rw [← ha, ← hb, ← hf, ← ho]
          exact ⟨hzero, hzero⟩
        · simp only [List.nil_append, List.cons_append, List.cons.injEq] at htokens
          obtain ⟨ha, hb, hf, ho, -⟩ := htokens
          rw [← ha, ← hb, ← hf, ← ho]
          exact ⟨hfree x List.mem_cons_self, hzero⟩
        · simp only [List.cons_append, List.cons.injEq] at htokens
          obtain ⟨ha, hb, -⟩ := htokens
          rw [← ha, ← hb]
          exact ⟨hfree x List.mem_cons_self, hfree y (List.mem_cons_of_mem _ List.mem_cons_self)⟩
      rw [hs, ht] at hread
      simp only [MountRow.Plain, List.forall_mem_append]
      exact ⟨hread, fun e he => (hword (List.mem_append_left _ he)).symm.trans (hf e he),
        fun e he => (hword (List.mem_append_right _ he)).symm.trans (ho e he)⟩
    · cases h
  · intro h
    rw [row.splitWhitespace_line]
    simp only [MountRow.Plain, List.forall_mem_append] at h
    obtain ⟨⟨hs, ht⟩, hf, ho⟩ := h
    have hfstype' := Text.splitWhitespace_of_forall hfstype fun c hc => (hword (List.mem_append_left _ hc)).trans (hf c hc)
    have hoptions' := Text.splitWhitespace_of_forall hoptions fun c hc => (hword (List.mem_append_right _ hc)).trans (ho c hc)
    rw [splitWhitespace_escape hsource hs, splitWhitespace_escape htarget ht, hfstype', hoptions']
    simp [unescapeMountField_escape, MountRow.entry]

end Lines

/-! ### Servers -/

/-- A server as it stands in a source: its name, in brackets if it is an IPv6 address. -/
structure MountServer where
  /-- The name or the address. -/
  name : List Char
  /-- It stands in brackets. -/
  bracketed : Bool
  /-- It has no slashes and no brackets. -/
  bare : ∀ c ∈ name, c ≠ '/' ∧ c ≠ '[' ∧ c ≠ ']'

/-- A server as it is written. -/
def MountServer.text (server : MountServer) : List Char :=
  if server.bracketed then '[' :: (server.name ++ [']']) else server.name

/-- A mount of a path of a server. -/
structure NfsMount where
  /-- The server. -/
  server : MountServer
  /-- The path, after the slash it begins with. -/
  path : List Char
  /-- Where it is mounted. -/
  target : String
  /-- File system type. -/
  fstype : String
  /-- Mount options. -/
  options : String
  /-- It is a mount of the NFS family. -/
  nfs : (⟨"", target, fstype⟩ : MountInfo).isNfs = true

namespace NfsMount

/-- The mount, its source written with a colon between server and path. -/
def entry (mount : NfsMount) : MountEntry :=
  ⟨⟨String.ofList (mount.server.text ++ ':' :: '/' :: mount.path), mount.target, mount.fstype⟩, mount.options⟩

end NfsMount

section Servers

variable (server : MountServer) (mount : NfsMount)

/-- Brackets around a name are taken off. -/
theorem MountServer.trim_text :
    ((server.text.dropWhile (· = '[')).reverse.dropWhile (· = ']')).reverse = server.name := by
  have hopening : ∀ d ∈ server.name.head?, decide (d = '[') = false := fun d hd =>
    decide_eq_false (server.bare d (List.mem_of_mem_head? hd)).2.1
  have hclosing : ∀ d ∈ server.name.reverse.head?, decide (d = ']') = false := fun d hd =>
    decide_eq_false (server.bare d (List.mem_reverse.mp (List.mem_of_mem_head? hd))).2.2
  unfold text
  cases server.bracketed with
  | false => rw [if_neg (by decide), Text.dropWhile_eq_self hopening, Text.dropWhile_eq_self hclosing, List.reverse_reverse]
  | true =>
    have hname : ∀ d ∈ (server.name ++ [']']).head?, decide (d = '[') = false := by
      intro d hd
      cases hhead : server.name with
      | nil =>
        rw [hhead] at hd
        cases hd
        rfl
      | cons c name =>
        rw [hhead] at hd hopening
        exact hopening d hd
    rw [if_pos rfl, List.dropWhile_cons_of_pos (by simp), Text.dropWhile_eq_self hname, List.reverse_append,
      List.reverse_singleton, List.singleton_append, List.dropWhile_cons_of_pos (by simp),
      Text.dropWhile_eq_self hclosing, List.reverse_reverse]

/-- The server is found exactly if the path has no colon before a slash. -/
theorem nfsServer_iff : mount.entry.nfsServer = some (String.ofList mount.server.name) ↔ ¬ [':', '/'] <:+: mount.path := by
  have hnfs : mount.entry.isNfs = true := mount.nfs
  have hsource : mount.entry.source.toList = mount.server.text ++ ':' :: '/' :: mount.path := String.toList_ofList
  unfold MountEntry.nfsServer
  rw [if_pos hnfs, hsource]
  by_cases hpath : [':', '/'] <:+: mount.path
  · -- the text before the last one holds the slash that the path begins with
    refine iff_of_false (fun h => ?_) (not_not_intro hpath)
    have hnone : Text.rsplitOnce [':', '/'] mount.path = none ↔ ¬ [':', '/'] <:+: mount.path :=
      Text.rsplitOnce_eq_none_iff (by decide)
    obtain ⟨parts, hparts⟩ := Option.ne_none_iff_exists'.mp (hnone.not_left.mpr hpath)
    have hsplit := Text.rsplitOnce_append hparts (mount.server.text ++ [':', '/'])
    rw [List.append_assoc, List.cons_append, List.singleton_append] at hsplit
    rw [hsplit, Option.map_some, Option.some.injEq, String.ofList_inj] at h
    have hslash : '/' ∈ mount.server.name := by
      rw [← h, List.mem_reverse]
      refine Text.mem_dropWhile_of_mem (List.mem_reverse.mpr (Text.mem_dropWhile_of_mem ?_ rfl)) rfl
      simp
    exact (mount.server.bare _ hslash).1 rfl
  · refine iff_of_true ?_ hpath
    have hnone : Text.rsplitOnce [':', '/'] ('/' :: mount.path) = none := by
      rw [Text.rsplitOnce_eq_none_iff (by decide), List.infix_cons_iff, not_or]
      refine ⟨fun hprefix => ?_, hpath⟩
      exact absurd (List.cons_prefix_cons.mp hprefix).1 (by decide)
    have hfirst : Text.rsplitOnce [':', '/'] (':' :: '/' :: mount.path) = some ([], mount.path) := by
      rw [Text.rsplitOnce, hnone]
      rfl
    rw [Text.rsplitOnce_append hfirst, Option.map_some, List.append_nil, mount.server.trim_text]

end Servers

/-- **Mounts are read back exactly if they hold no other white space than the kernel escapes,
and the server of a source is found exactly if its path holds no colon before a slash.** -/
theorem mounts_kept_iff (rows : List MountRow) (mount : NfsMount) :
    (parseMounts (printMounts rows) = rows.map MountRow.entry ↔ ∀ row ∈ rows, row.Plain) ∧
      (mount.entry.nfsServer = some (String.ofList mount.server.name) ↔ ¬ [':', '/'] <:+: mount.path) := by
  refine ⟨?_, nfsServer_iff mount⟩
  have hlines : Text.lines (printMounts rows) = rows.map MountRow.line := by
    refine Text.lines_flatMap fun l hl => ?_
    obtain ⟨row, -, rfl⟩ := List.mem_map.mp hl
    exact row.line_lines
  rw [parseMounts, hlines, Text.filterMap_map_eq_map_iff]
  exact forall₂_congr fun row _ => parseMountLine_line_iff row

/-- A mount at `/mnt/a b`, with a space that does not break, of a path that holds a colon
before a slash. -/
def awkwardRow : MountRow where
  source := "fs:/a:/b".toList
  target := "/mnt/a\u00A0b".toList
  fstype := "nfs4".toList
  options := "rw".toList
  nonempty := by decide
  words := by simp

/-- The target is cut in two, and part of the path is taken for the server. -/
theorem mounts_misread :
    parseMounts (printMounts [awkwardRow]) = [⟨⟨"fs:/a:/b", "/mnt/a", "b"⟩, "nfs4"⟩] ∧
      parseMounts (printMounts [awkwardRow]) ≠ [awkwardRow.entry] ∧ awkwardRow.entry.nfsServer = some "fs:/a" := by
  decide +kernel

end Sentinel
