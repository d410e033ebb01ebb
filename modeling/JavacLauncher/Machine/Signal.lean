import JavacLauncher.Text.Basic

/-!
# Signals

The signals by name and number. Most of them end the process that gets one; those in `ignored` do
nothing to it.
-/

namespace JavacLauncher.Signal

/-- The names of the signals, the first one being number 1. -/
def names : List Text :=
  ["HUP", "INT", "QUIT", "ILL", "TRAP", "ABRT", "BUS", "FPE", "KILL", "USR1", "SEGV", "USR2", "PIPE",
    "ALRM", "TERM", "STKFLT", "CHLD", "CONT", "STOP", "TSTP", "TTIN", "TTOU", "URG", "XCPU", "XFSZ",
    "VTALRM", "PROF", "WINCH", "IO", "PWR", "SYS"].map String.toList

/-- What the system calls the signals, the first one being number 1. -/
def descriptions : List Text :=
  ["Hangup", "Interrupt", "Quit", "Illegal instruction", "Trace/breakpoint trap", "Aborted", "Bus error",
    "Floating point exception", "Killed", "User defined signal 1", "Segmentation fault",
    "User defined signal 2", "Broken pipe", "Alarm clock", "Terminated", "Stack fault", "Child exited",
    "Continued", "Stopped (signal)", "Stopped", "Stopped (tty input)", "Stopped (tty output)",
    "Urgent I/O condition", "CPU time limit exceeded", "File size limit exceeded",
    "Virtual timer expired", "Profiling timer expired", "Window changed", "I/O possible",
    "Power failure", "Bad system call"].map String.toList

/-- The signals that users and pipes end processes with; nobody is told of them. -/
def silent : List Nat := [2, 13]

/-- What a signal is called. -/
def describe (n : Nat) : Text :=
  ((descriptions[n - 1]?).getD ("Unknown signal ".toList ++ Text.ofNat n))

/-- The number of a signal given by name, in capitals or not, or by number. -/
def ofText? (t : Text) : Option Nat :=
  if t ≠ [] ∧ t.all Char.isDigit then some (Nat.ofDigitChars 10 t 0)
  else (names.findIdx? (· = t.map Char.toUpper)).map (· + 1)

/-- The signals that do not end a process: it goes on, or waits and is woken. -/
def ignored : List Nat := [0, 17, 18, 19, 20, 21, 22, 23, 28]

/-- The signal with the highest number. -/
def last : Nat := 64

/-- The signal that ends a process that nothing else ends. -/
def kill : Nat := 9

/-- The signal that asks a process to end. -/
def terminate : Nat := 15

end JavacLauncher.Signal
