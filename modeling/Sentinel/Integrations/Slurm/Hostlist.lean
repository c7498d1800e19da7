import Sentinel.Lib.Text

/-!
# Hostlists

Slurm writes sets of nodes compactly, as in `node[01-04,07]`.  What is not understood is
kept as it is, as one name.

## Main definitions

* `Hostlist.expand` — the names a hostlist stands for.
-/

namespace Sentinel

namespace Hostlist

/-- Where splitting stands: the parts so far, the part being read, and how many
brackets are open. -/
structure Splitting where
  /-- The parts so far. -/
  parts : List (List Char)
  /-- The part being read. -/
  current : List Char
  /-- Brackets open. -/
  depth : ℕ

namespace Splitting

/-- End the part being read, unless it is blank. -/
def finish (s : Splitting) : List (List Char) :=
  if Text.trim s.current = [] then s.parts else s.parts ++ [Text.trim s.current]

/-- Read one character. -/
def read (s : Splitting) (c : Char) : Splitting :=
  if c = '[' then ⟨s.parts, s.current ++ [c], s.depth + 1⟩
  else if c = ']' then ⟨s.parts, s.current ++ [c], s.depth - 1⟩
  else if c = ',' ∧ s.depth = 0 then ⟨s.finish, [], s.depth⟩
  else ⟨s.parts, s.current ++ [c], s.depth⟩

end Splitting

/-- Split on commas that are not inside brackets. -/
def splitTopLevel (input : List Char) : List (List Char) :=
  (input.foldl Splitting.read ⟨[], [], 0⟩).finish

/-- Expand a range as `01-04`, or a number, keeping the zeros before it. -/
def expandRange (range : List Char) : Option (List (List Char)) :=
  match Text.splitOnce ['-'] range with
  | some (start, stop) => do
    let start := Text.trim start
    let stop := Text.trim stop
    if start = [] ∨ stop = [] ∨ ¬ start.all Char.isDigit ∨ ¬ stop.all Char.isDigit then none
    else
      let width := start.length
      let start ← Text.parseBelow (2 ^ 64) start
      let stop ← Text.parseBelow (2 ^ 64) stop
      -- against a typo that would take all memory
      if stop < start ∨ stop - start > 100000 then none
      else some ((List.range' start (stop - start + 1)).map (Text.padded width))
  | none => if range ≠ [] ∧ range.all Char.isDigit then some [range] else none

/-- Expand one element, which may contain several groups of brackets.  Every round
takes one group away, so the brackets bound the rounds. -/
def expandElement : ℕ → List Char → List (List Char)
  | 0, element => [element]
  | rounds + 1, element =>
    match Text.splitOnce ['['] element with
    | none => [element]
    | some (start, rest) =>
      match Text.splitOnce [']'] rest with
      | none => [element]
      | some (ranges, suffix) =>
        -- a part that is not understood keeps the element as it is
        match (ranges.splitOn ',').mapM fun range => expandRange (Text.trim range) with
        | none => [element]
        | some middles =>
          middles.flatten.flatMap fun middle => expandElement rounds (start ++ middle ++ suffix)

/-- Expand a hostlist into names. -/
def expand (hostlist : List Char) : List (List Char) :=
  let hostlist := Text.trim hostlist
  if hostlist = [] ∨ hostlist = "(null)".toList then []
  else (splitTopLevel hostlist).flatMap fun element => expandElement (element.count '[') element

end Hostlist

end Sentinel
