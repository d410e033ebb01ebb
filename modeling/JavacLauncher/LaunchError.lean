import JavacLauncher.SystemError

/-!
# Why a launch fails

Every failure ends the launch. A `LaunchError` keeps the cause; `message` is the one place that puts
it into words.
-/

namespace JavacLauncher

/-- The cause of a failed launch. -/
inductive LaunchError where
  /-- The system refused something about a path. -/
  | system (path : Path) (cause : SystemError)
  /-- The runtime's version is not of the form that the launcher reads. -/
  | unreadableVersion (version : Text)
  /-- No annotated library fits the runtime's version. -/
  | unsupportedVersion (version : Text)
  /-- Archives that are in none of the search directories. -/
  | missingFiles (names : List Text)
  /-- There is nothing to make a path list of. -/
  | emptyPathSet
  /-- The launcher's own code is not in an archive. -/
  | loadedFromDirectory
  /-- The launcher's own archive is not on this machine. -/
  | loadedRemotely (scheme : Text)
  /-- The location of the launcher's own archive makes no sense. -/
  | unrecognizedLocation (location : Text)
  /-- A configuration file does not hold a configuration. -/
  | malformedConfig
  /-- A setting has a value that it cannot have. -/
  | invalidConfig (reason : Text)
  /-- A process could not be started. -/
  | execution (reason : Text)
  deriving DecidableEq, Repr, Inhabited

namespace LaunchError

/-- What the user is told. -/
def message : LaunchError → Text
  | .system path cause => "IO error at ".toList ++ Quoted.bytes path.bytes ++ ": ".toList ++ cause.message
  | .unreadableVersion v => "Could not determine version from java.version=".toList ++ v
  | .unsupportedVersion v => "Unsupported JRE version: ".toList ++ v
  | .missingFiles names =>
    "The following files could not be located: ".toList ++ ", ".toList.intercalate names
  | .emptyPathSet => "Cannot build a file path from an empty set of files".toList
  | .loadedFromDirectory =>
    "The launcher archive was loaded from a directory and not from a jar file.".toList
  | .loadedRemotely scheme =>
    "The launcher archive has been loaded remotely via the ".toList ++ scheme ++
      " protocol. Only loading from a jar on the local file system is supported.".toList
  | .unrecognizedLocation l =>
    "Cannot make sense of the launcher archive location: ".toList ++ Quoted.text l
  | .malformedConfig => "JSON error: the text is not a launcher configuration".toList
  | .invalidConfig reason => "Invalid configuration: ".toList ++ reason
  | .execution reason => "Java execution failed: ".toList ++ reason

end LaunchError

/-- Two stages end well exactly if the first does, and then the second with what the first gave. -/
theorem bind_eq_ok_iff {ε α β : Type} {first : Except ε α} {second : α → Except ε β} {b : β} :
    first >>= second = .ok b ↔ ∃ a, first = .ok a ∧ second a = .ok b := by
  cases first <;> simp [bind, Except.bind]

end JavacLauncher
