import JavacLauncher.Shell.Builtin.Basic
import JavacLauncher.Shell.Format
import JavacLauncher.Shell.View

/-!
# Commands that write, and tests
-/

namespace JavacLauncher.Shell.Builtin

/-- Whose rules the shell follows. -/
def voice : Run Voice := do return if (← get).isExtended then .extended else .plain

def echo : Body := fun args => do
  let v ← voice
  say (echoText (if (← get).hasExtra "xpg_echo" then .plain else v) args)
  setStatus 0

/-- What is said of a `printf` without a format. -/
def printfUsage (v : Voice) : Text :=
  match v with
  | .extended => "printf: usage: printf [-v var] format [arguments]".toList
  | _ => "printf: usage: printf format [arg ...]".toList

def printf : Body := fun args => do
  let v ← voice
  let (target?, args) :=
    match v, args with
    | .extended, ['-', 'v'] :: name :: rest => (some name, rest)
    | _, args => (none, args)
  let args := if args.head? = some ['-', '-'] then args.tail else args
  match args with
  | [] =>
    if v = .extended then
      act ((← get).process.complain (printfUsage v))
      setStatus 2
    else abort "usage: printf format [arg ...]".toList
  | format :: args =>
    let (w, _) := formatText v format args
    for c in w.complaints do
      warn (c.message v)
    match target? with
    | some name => assign name w.text
    | none => say w.text
    setStatus (w.status v)

def test (isBracket : Bool) : Body := fun args => do
  let s ← get
  match testAnswer (← voice) s.view isBracket args with
  | .ok answer => setStatus (if answer then 0 else 1)
  | .error message =>
    if s.isExtended then failWith 2 message else abort message

/-- The current directory as the shell knows it. -/
def pwd : Body := fun args => do
  let o ← options "LP" "[-LP]" args
  let s ← get
  if o.last? "LP".toList = some 'P' then
    match ← physicalDirectory with
    | some d => sayLine d
    | none => goWrong 1 "getcwd() failed: No such file or directory".toList
  else
    sayLine s.directory
  setStatus 0

end JavacLauncher.Shell.Builtin
