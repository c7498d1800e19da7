import Sentinel.Lib.Text

/-!
# External commands

Every external command goes through one runner.  A command has a time limit, and what
it prints is captured up to a number of bytes; that the capture was cut is recorded.

## Main definitions

* `CommandError`, `CommandOutput` — how a command can end.
* `readLimited` — the captured bytes.
* `Execution`, `Execution.result` — what happens when a command is run.
-/

namespace Sentinel

/-- Why a command could not produce a usable result. -/
inductive CommandError
  /-- The program is not on the allowlist. -/
  | notAllowed
  /-- The program could not be started. -/
  | spawn
  /-- The command did not finish in time and was killed. -/
  | timeout
  /-- Reading the child's output failed. -/
  | io
  deriving DecidableEq, Repr

/-- A finished command. -/
structure CommandOutput where
  /-- Exit status, none if it was terminated by a signal. -/
  exitCode : Option ℤ
  /-- Captured output, possibly cut. -/
  stdout : List Char
  /-- Whether the output was cut at the limit. -/
  stdoutTruncated : Bool

/-- Whether the command exited zero. -/
def CommandOutput.isSuccess (output : CommandOutput) : Bool := output.exitCode = some 0

/-- At most `limit` bytes, and whether there were more. -/
def readLimited (limit : ℕ) (bytes : List UInt8) : List UInt8 × Bool :=
  (bytes.take limit, limit < bytes.length)

/-- What happens when a command is run: it fails, or it ends with a status. -/
inductive Outcome
  /-- It produces no result. -/
  | failed (error : CommandError)
  /-- It ends. -/
  | exited (code : Option ℤ)
  deriving DecidableEq, Repr

/-- One run of a command, with everything it prints if it is let to. -/
structure Execution where
  /-- Everything it prints. -/
  printed : List UInt8
  /-- How it ends. -/
  outcome : Outcome

namespace Execution

/-- What the runner makes of a run. -/
def result (limit : ℕ) (execution : Execution) : Except CommandError CommandOutput :=
  match execution.outcome with
  | .failed error => .error error
  | .exited code =>
    let (stdout, truncated) := readLimited limit execution.printed
    .ok ⟨code, Text.decodeLossy stdout, truncated⟩

/-- Everything it prints, as text. -/
def full (execution : Execution) : List Char := Text.decodeLossy execution.printed

end Execution

end Sentinel
