import JavacLauncher.SystemError

/-!
# The machine a launch runs on

A launch asks its machine for the current directory, for files and variables, and to start processes. A
process may change anything that the machine later says, so a start takes the machine's state and gives
the next one; all other questions leave the state as it is. A `Host` is one such machine: the launcher
is written for any host and any type of states, and a host that writes its starts down shows which
processes a launch starts, and when.
-/

namespace JavacLauncher

/-- How a process ended. -/
inductive Outcome where
  | exited (code : UInt8)
  | killed (signal : UInt8)
  deriving DecidableEq, Repr, Inhabited

/-- The outcome as one number: the exit code, or 128 and the signal, as shells count. -/
def Outcome.code : Outcome → Nat
  | .exited code => code.toNat
  | .killed signal => 128 + signal.toNat

/-- What a process wrote on its two streams. -/
structure Output where
  output : Bytes
  errors : Bytes
  deriving DecidableEq, Repr, Inhabited

/-- A machine with states `σ`. -/
structure Host (σ : Type) where
  /-- The directory from which relative paths are seen. -/
  currentDir : σ → Except SystemError Path
  /-- Whether a path leads to anything. -/
  isPresent : σ → Path → Bool
  /-- Whether a path leads to a regular file. -/
  isFile : σ → Path → Bool
  /-- What a file holds. -/
  read : σ → Path → Except SystemError Bytes
  /-- The value of a variable of the environment. -/
  valueOf? : σ → Text → Option Bytes
  /-- The home directory that the machine keeps for the user. -/
  accountHome? : σ → Option Path
  /-- The launcher's own program. -/
  program : σ → Except SystemError Path
  /-- Runs a command to its end and collects what it writes. The program comes first. -/
  collect : List Bytes → σ → Except SystemError Output × σ
  /-- Runs a command to its end on the launcher's own streams. The program comes first. -/
  run : List Bytes → σ → Except SystemError Outcome × σ

end JavacLauncher
