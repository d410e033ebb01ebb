import JavacLauncher.Arguments.Rule

/-!
# The arguments of a compiler run

The launcher is called with a compiler's arguments. It keeps for itself what belongs to the runtime and
the class path, and hands the rest on: first entries for the boot class path, then options for the
runtime, then class path flags with their values. Each step looks at what the step before has left, so
that a flag's value is the next token that is not consumed earlier.
-/

namespace JavacLauncher

/-- A compiler's arguments, sorted by what becomes of them. -/
structure Arguments where
  /-- Entries to put on the boot class path, first come first. -/
  bootClasspath : List Text
  /-- Options for the runtime. -/
  jvmOptions : List Text
  /-- Entries of the class path. -/
  classpath : List Bytes
  /-- What the compiler gets as it is. -/
  toolOptions : List Bytes
  deriving DecidableEq, Repr, Inhabited

namespace Arguments

/-- Entries for the boot class path, with or without the mark of runtime options in front. -/
def bootRule : Rule where
  pattern := .beginning ["-J-Xbootclasspath/p:".toList, "-Xbootclasspath/p:".toList]
  allowEmpty := false

/-- Options for the runtime. -/
def jvmRule : Rule where
  pattern := .beginning ["-J".toList]
  allowEmpty := false

/-- The flags that announce a class path. -/
def classpathFlags : List Bytes := [Bytes.ofString "-cp", Bytes.ofString "-classpath"]

/-- The class path without any flag: the variable `CLASSPATH`, if set, and the current directory. -/
def defaultClasspath (inherited? : Option Bytes) : List Bytes :=
  inherited?.toList ++ [Bytes.ofString "."]

/--
Takes class path flags and their values out of `tokens`, and gives the last value. A flag takes the
token after it, whatever that is; a flag at the end stays.
-/
def takeClasspath : List Bytes → Option Bytes × List Bytes
  | [] => (none, [])
  | [token] => (none, [token])
  | token :: value :: tokens =>
    if token ∈ classpathFlags then
      let (later?, rest) := takeClasspath tokens
      (some (later?.getD value), rest)
    else
      let (later?, rest) := takeClasspath (value :: tokens)
      (later?, token :: rest)

/-- Takes the entries for the boot class path out of `tokens`. -/
def extractBoot (tokens : List Bytes) : Extraction Text := bootRule.extract tokens

/-- Takes the options for the runtime out of `tokens`. -/
def extractJvm (tokens : List Bytes) : Extraction Text := jvmRule.extract tokens

/-- Takes the class path out of `tokens`. The last value given wins over the others and the default. -/
def extractClasspath (inherited? : Option Bytes) (tokens : List Bytes) : Extraction Bytes :=
  let (value?, rest) := takeClasspath tokens
  ⟨value?.elim (defaultClasspath inherited?) ([·]), rest⟩

/-- The arguments in `tokens`, where `inherited?` is the value of `CLASSPATH`. -/
def ofTokens (inherited? : Option Bytes) (tokens : List Bytes) : Arguments :=
  let boot := extractBoot tokens
  let jvm := extractJvm boot.remainder
  let classpath := extractClasspath inherited? jvm.remainder
  ⟨boot.matched, jvm.matched, classpath.matched, classpath.remainder⟩

end Arguments

end JavacLauncher
