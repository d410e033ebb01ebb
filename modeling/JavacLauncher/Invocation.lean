import JavacLauncher.LaunchError

/-!
# How the compiler is started

Either the program is started with its arguments as they are, or one line is handed to the shell. In
the line every argument stands between double quotes, and a double quote in it follows a backslash; the
shell still reads other backslashes, `$` and backquotes in its own way.
-/

namespace JavacLauncher

/-- The two ways to start a command. -/
inductive Invocation where
  /-- Start the program with its arguments. -/
  | spawn
  /-- Hand a line to the shell. -/
  | shell
  deriving DecidableEq, Repr, Inhabited

namespace Invocation

/-- The name of an invocation in settings. -/
def name : Invocation → Text
  | .spawn => "spawn".toList
  | .shell => "shell".toList

/-- The invocation of that very name. -/
def ofName? (t : Text) : Option Invocation := [spawn, shell].find? fun i => i.name = t

/-- The invocation that a setting names, in capitals or not and with white space around it or not. -/
def parse (t : Text) : Except LaunchError Invocation :=
  let word := t.trim.lowercaseAscii
  match ofName? word with
  | some i => .ok i
  | none =>
    .error (.invalidConfig ("unknown invocation mode ".toList ++ Quoted.text word ++
      " (expected \"spawn\" or \"shell\")".toList))

end Invocation

namespace CommandLine

/-- An argument between double quotes. -/
def quote (arg : Text) : Text :=
  '"' :: arg.flatMap (fun c => if c = '"' then ['\\', '"'] else [c]) ++ ['"']

/-- An argument between single quotes, in which the shell reads nothing in a way of its own. -/
def protect (arg : Text) : Text :=
  '\'' :: arg.flatMap (fun c => if c = '\'' then "'\\''".toList else [c]) ++ ['\'']

/-- The line for a list of arguments. -/
def ofArguments (args : List Text) : Text := [' '].intercalate (args.map quote)

end CommandLine

end JavacLauncher
