import JavacLauncher.Shell.Session
import JavacLauncher.Shell.Test

/-!
# What tests see of a shell

In a shell, tests look at its files as every process does, and beyond that at its variables and options.
-/

namespace JavacLauncher.Shell.Session

/-- Whether a text names a variable, or an element of an array, that has a value. -/
def isSet (s : Session) (t : Text) : Bool :=
  match cut? '[' t with
  | some (name, k) =>
    match s.content? name with
    | some (.table es) => (es.lookup k.dropLast).isSome
    | some content => ((numeral? k.dropLast).bind content.at?).isSome
    | none => false
  | none =>
    match numeral? t with
    | some n => n = 0 || (s.positional[n - 1]?).isSome
    | none => (s.valueOf? t).isSome

/-- Whether a text is the long name of an option that is on. -/
def isOn (s : Session) (t : Text) : Bool := ((optionNames s.isExtended).lookup (String.ofList t)).any s.has

/-- What tests made in a shell see. -/
def view (s : Session) : FileView :=
  { fileView s.machine.tree s.process with isSet := s.isSet, isOn := s.isOn }

end JavacLauncher.Shell.Session
