import JavacLauncher.Shell.Builtin.Directory
import JavacLauncher.Shell.Builtin.Output
import JavacLauncher.Shell.Builtin.Process
import JavacLauncher.Shell.Builtin.Read
import JavacLauncher.Shell.Builtin.Variables

/-!
# The shell's own commands by name

Some of them run others or leave what is being run; those are known here by name only.
-/

namespace JavacLauncher.Shell.Builtin

def succeed : Body := fun _ => setStatus 0

def fail : Body := fun _ => setStatus 1

/-- The commands that run others or leave what is being run. -/
def controlNames : List Text :=
  [".", "break", "command", "continue", "eval", "exec", "exit", "return"].map String.toList

/-- Those of the extended dialect alone. -/
def extendedControlNames : List Text := ["builtin", "caller", "source"].map String.toList

/-- The commands that both dialects have. -/
def sharedBodies : List (Text × Body) :=
  [(":", succeed), ("true", succeed), ("false", fail), ("[", test true), ("test", test false), ("echo", echo),
    ("printf", printf), ("pwd", pwd), ("cd", cd), ("export", exportNames), ("readonly", fixNames), ("unset", unset),
    ("shift", shift), ("set", setArguments), ("getopts", getopts), ("alias", aliasNames), ("unalias", unalias),
    ("read", read), ("kill", kill), ("trap", trap), ("jobs", jobs), ("times", times), ("ulimit", ulimit),
    ("umask", umask), ("hash", hash), ("wait", wait)].map fun e => (e.1.toList, e.2)

def plainBodies : List (Text × Body) :=
  [("local", makeLocal), ("chdir", cd), ("fg", resume false "fg"), ("bg", resume false "bg")].map
    fun e => (e.1.toList, e.2)

def extendedBodies : List (Text × Body) :=
  [("local", declare true), ("declare", declare false), ("typeset", declare false), ("let", letExpressions),
    ("shopt", shopt), ("pushd", pushd), ("popd", popd), ("dirs", dirs), ("mapfile", mapfile),
    ("readarray", mapfile), ("fg", resume true "fg"), ("bg", resume true "bg"), ("disown", succeed),
    ("enable", succeed), ("history", succeed), ("bind", succeed), ("complete", succeed), ("compgen", fail)].map
      fun e => (e.1.toList, e.2)

/-- The names of all commands of the shell itself. -/
def names (isExtended : Bool) : List Text :=
  controlNames ++ (if isExtended then extendedControlNames else []) ++ ["type".toList] ++
    (sharedBodies ++ if isExtended then extendedBodies else plainBodies).map (·.1)

/-- What a command of the shell does that runs no others. -/
def body? (isExtended : Bool) (name : Text) : Option Body :=
  match sharedBodies.lookup name with
  | some b => some b
  | none =>
    if name = "type".toList then some (typeOf (names isExtended))
    else if isExtended then extendedBodies.lookup name else plainBodies.lookup name

/-- Whether a name is that of a command of the shell itself. -/
def isOwn (isExtended : Bool) (name : Text) : Bool :=
  name ∈ controlNames || (isExtended && name ∈ extendedControlNames) || (body? isExtended name).isSome

/-- The commands whose arguments may be assignments. -/
def takesAssignments (isExtended : Bool) (name : Text) : Bool :=
  if isExtended then name ∈ declarations
  else name ∈ ["alias", "export", "local", "readonly"].map String.toList

end JavacLauncher.Shell.Builtin
