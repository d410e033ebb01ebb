import JavacLauncher.Arguments.Basic
import JavacLauncher.Install

/-!
# The plan of a compiler run

A plan names the runtime, the archives and the user's arguments; `command` is the command line that it
comes to. The launcher's archives stand in front of what the user adds, on the boot class path as on
the class path, and nothing that the user gave follows the launcher's own options except the arguments
that the compiler gets as they are.

The boot class path travels as text, the class path and the compiler's arguments as bytes.
-/

namespace JavacLauncher

/-- What separates the entries of a path list. -/
def pathSeparator : Char := ':'

/-- The runtime of the home directory `home?`; without one, the runtime found by its name. -/
def javaCommand (home? : Option Path) : Path :=
  match home? with
  | some home => (home.join (.ofString "bin")).join (.ofString "java")
  | none => .ofString "java"

/-- A path list of the absolute paths of `files`, and then the list `previous?`. -/
def pathList (currentDir : Except SystemError Path) (files : List Path) (previous? : Option Text) :
    Except LaunchError Text := do
  if files = [] then throw .emptyPathSet
  let paths ← files.mapM fun file => file.absolute currentDir
  return [pathSeparator].intercalate (paths.map Path.display ++ previous?.toList)

/-- Everything a compiler run is made of. -/
structure Plan where
  java : Path
  selfArchive : Path
  support : SupportFiles
  arguments : Arguments
  deriving DecidableEq, Repr, Inhabited

namespace Plan

/-- Entries for the boot class path that the user gave, as one list. -/
def userBootClasspath? (plan : Plan) : Option Text :=
  match plan.arguments.bootClasspath with
  | [] => none
  | entries => some ([pathSeparator].intercalate entries)

/-- The boot class path: the annotated library, the compiler, then the user's entries. -/
def bootClasspath (currentDir : Except SystemError Path) (plan : Plan) : Except LaunchError Text :=
  pathList currentDir [plan.support.library, plan.support.compiler] plan.userBootClasspath?

/-- The class path: the launcher's own archive, then the user's entries byte for byte. -/
def classpath (currentDir : Except SystemError Path) (plan : Plan) : Except LaunchError Bytes := do
  let archive ← plan.selfArchive.absolute currentDir
  return archive.bytes ++ plan.arguments.classpath.flatMap (Utf8.encode [pathSeparator] ++ ·)

/-- The option that puts a path list in front of the runtime's own library. -/
def bootOption : Text := "-Xbootclasspath/p:".toList

/-- The option that keeps assertions on in the compiler's own packages. -/
def assertionsOption : Bytes := Bytes.ofString "-ea:com.sun.tools..."

/-- The command line of the plan, the program first. -/
def command (currentDir : Except SystemError Path) (plan : Plan) : Except LaunchError (List Bytes) := do
  let bootClasspath ← plan.bootClasspath currentDir
  let compiler ← plan.support.compiler.absolute currentDir
  let classpath ← plan.classpath currentDir
  return [plan.java.bytes, Utf8.encode (bootOption ++ bootClasspath), assertionsOption]
    ++ plan.arguments.jvmOptions.map Utf8.encode
    ++ [Bytes.ofString "-jar", compiler.bytes, Bytes.ofString "-classpath", classpath]
    ++ plan.arguments.toolOptions

end Plan

end JavacLauncher
