import JavacLauncher.Machine.Basic

/-!
# Looking programs up

A name with a slash is the path of a program. Other names are looked up in the directories of `PATH`.
-/

namespace JavacLauncher.Exec

/-- The files that a name may mean: itself if it has a slash, else one in each directory of `PATH`. -/
def candidates (p : Process) (name : Text) : List Text :=
  if '/' ∈ name then [name]
  else
    let dirs := ((p.valueOf? "PATH".toList).getD "/bin:/usr/bin".toList).splitOn ':'
    dirs.map fun dir => if dir = [] then name else dir ++ '/' :: name

/--
Tries files in turn. One that is missing is passed over, one that may not be run is remembered, and any
other refusal is final.
-/
def firstOf (start : Starter) (p : Process) (argv : List Text) (worst : SystemError) : List Text →
    Action (Except SystemError Outcome)
  | [] => return .error worst
  | path :: paths => do
    match ← start p path argv with
    | .ok o => return .ok o
    | .error e =>
      if e = .noEntry ∨ e = .notDirectory then firstOf start p argv (if paths = [] ∧ worst = .noEntry then e else worst) paths
      else if e = .permissionDenied then firstOf start p argv e paths
      else return .error e

/-- Starts a program by its name. -/
def named (start : Starter) (p : Process) (argv : List Text) : Action (Except SystemError Outcome) := do
  match argv with
  | [] => return .error .noEntry
  | name :: _ => if name = [] then return .error .noEntry else firstOf start p argv .noEntry (candidates p name)

/-- Starts a program by its name; a shell reads a file of no known format. -/
def namedOrRead (start : Starter) (p : Process) (argv : List Text) : Action (Except SystemError Outcome) :=
  let shell := "/bin/sh".toList
  let orRead : Starter := fun p path argv => do
    match ← start p path argv with
    | .error .execFormat => start p shell (shell :: path :: argv.tail)
    | result => return result
  named orRead p argv

end JavacLauncher.Exec
