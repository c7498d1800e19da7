import Mathlib

/-!
# Texts

Texts are lists of characters.  The operations are those of a systems language's
standard library: trimming by the white space of Unicode, splitting, comparing
without regard to the case of ASCII letters, reading decimal numbers that fit a
machine word, and decoding UTF-8 with a replacement character for what is no UTF-8.

## Main definitions

* `Text.trim`, `Text.lines`, `Text.splitOnce` — cutting up texts.
* `Text.parseBelow`, `Text.padded` — decimal numbers.
* `Text.decodeLossy` — UTF-8.
-/

namespace Text

/-! ### Cutting up -/

/-- White space, as Unicode has it. -/
def isWhitespace (c : Char) : Bool :=
  let n := c.toNat
  (9 ≤ n && n ≤ 13) || n = 0x20 || n = 0x85 || n = 0xA0 || n = 0x1680 ||
    (0x2000 ≤ n && n ≤ 0x200A) || n = 0x2028 || n = 0x2029 || n = 0x202F || n = 0x205F || n = 0x3000

/-- Drop white space at both ends. -/
def trim (s : List Char) : List Char :=
  ((s.dropWhile isWhitespace).reverse.dropWhile isWhitespace).reverse

/-- Split at the first occurrence of a pattern. -/
def splitOnce (pattern : List Char) : List Char → Option (List Char × List Char)
  | [] => if pattern = [] then some ([], []) else none
  | c :: s =>
    if pattern.isPrefixOf (c :: s) then some ([], (c :: s).drop pattern.length)
    else (splitOnce pattern s).map fun parts => (c :: parts.1, parts.2)

/-- Drop a carriage return at the end. -/
def stripReturn (line : List Char) : List Char :=
  if line.getLast? = some '\r' then line.dropLast else line

/-- The lines of a text: a line feed ends a line, together with the carriage return
before it, and the last line may go without. -/
def lines (s : List Char) : List (List Char) :=
  let parts := s.splitOn '\n'
  let last := parts.getLast?.getD []
  parts.dropLast.map stripReturn ++ if last = [] then [] else [last]

/-- Equality up to the case of ASCII letters. -/
def eqIgnoreCase (s t : List Char) : Bool := s.map Char.toUpper = t.map Char.toUpper

/-! ### Numbers -/

/-- The number that digits denote. -/
def ofDigits (digits : List Char) : ℕ := digits.foldl (fun n c => 10 * n + (c.toNat - '0'.toNat)) 0

/-- Read a decimal number below a bound; a plus sign may stand before it. -/
def parseBelow (bound : ℕ) (s : List Char) : Option ℕ :=
  let digits := match s with
    | '+' :: rest => rest
    | s => s
  if digits ≠ [] ∧ digits.all Char.isDigit ∧ ofDigits digits < bound then some (ofDigits digits) else none

/-- The decimal digits of a number, with zeros before them up to a width. -/
def padded (width n : ℕ) : List Char :=
  let digits := Nat.toDigits 10 n
  List.replicate (width - digits.length) '0' ++ digits

/-! ### UTF-8 -/

/-- A character begun: how many bytes are owed, which the next one may be, and the code
so far. -/
structure Begun where
  /-- Bytes owed. -/
  owed : ℕ
  /-- The least the next byte may be. -/
  low : ℕ
  /-- The greatest the next byte may be. -/
  high : ℕ
  /-- The bits read so far. -/
  code : ℕ

/-- What stands for a sequence that is no character. -/
def replacement : Char := '\uFFFD'

/-- The character a byte begins, if more bytes are owed. -/
def begin (b : ℕ) : Option Begun :=
  if 0xC2 ≤ b ∧ b ≤ 0xDF then some ⟨1, 0x80, 0xBF, b - 0xC0⟩
  else if b = 0xE0 then some ⟨2, 0xA0, 0xBF, b - 0xE0⟩
  else if b = 0xED then some ⟨2, 0x80, 0x9F, b - 0xE0⟩
  else if 0xE1 ≤ b ∧ b ≤ 0xEF then some ⟨2, 0x80, 0xBF, b - 0xE0⟩
  else if b = 0xF0 then some ⟨3, 0x90, 0xBF, b - 0xF0⟩
  else if 0xF1 ≤ b ∧ b ≤ 0xF3 then some ⟨3, 0x80, 0xBF, b - 0xF0⟩
  else if b = 0xF4 then some ⟨3, 0x80, 0x8F, b - 0xF0⟩
  else none

/-- Decode UTF-8.  A sequence that is cut short or goes wrong is replaced, and decoding
goes on at the byte that did not fit. -/
def decodeFrom (begun : Option Begun) : List UInt8 → List Char
  | [] => if begun.isSome then [replacement] else []
  | byte :: bytes =>
    let b := byte.toNat
    let fresh :=
      if b < 0x80 then Char.ofNat b :: decodeFrom none bytes
      else match begin b with
        | some begun => decodeFrom (some begun) bytes
        | none => replacement :: decodeFrom none bytes
    match begun with
    | none => fresh
    | some begun =>
      if begun.low ≤ b ∧ b ≤ begun.high then
        let code := begun.code * 64 + (b - 0x80)
        if begun.owed = 1 then Char.ofNat code :: decodeFrom none bytes
        else decodeFrom (some ⟨begun.owed - 1, 0x80, 0xBF, code⟩) bytes
      else replacement :: fresh

/-- Decode UTF-8 from the start. -/
def decodeLossy (bytes : List UInt8) : List Char := decodeFrom none bytes

end Text
