import JavacLauncher.Shell.Builtin.Variables

/-!
# Reading lines into variables

A line is split like a word, but at most into as many fields as there are variables: the last variable gets
all that is left, without the separators at its end, if only they are left.
-/

namespace JavacLauncher.Shell.Builtin

/-- How far the splitting of a line has come. -/
structure Split where
  /-- How many fields may still begin. -/
  count : Nat
  finished : List Text
  /-- The current field, its last character first. -/
  current : Text
  isAfterSpace : Bool
  /-- How long the current field is without the separators it ends with. -/
  cut? : Option Nat
  deriving Inhabited

namespace Split

/-- Goes on with a character. -/
def add (separators : Text) (s : Split) (g : Char × Bool) : Split :=
  let (c, isQuoted) := g
  let separates := !isQuoted && separators.contains c
  let isSpace := separates && (c = ' ' || c = '\t' || c = '\n')
  let longer (s : Split) : Split := { s with current := c :: s.current }
  if isQuoted then longer { s with cut? := if s.count = 0 then none else s.cut?, isAfterSpace := false }
  else if s.count = 0 then
    if isSpace then longer { s with cut? := some (s.cut?.getD s.current.length) }
    else longer { s with
      cut? := if separates ∧ s.isAfterSpace then s.cut? else none
      isAfterSpace := false }
  else if s.isAfterSpace ∧ isSpace then s
  else if s.isAfterSpace ∧ separates then { s with isAfterSpace := false }
  else if separates then
    if s.current = [] ∧ isSpace then s
    else if s.count = 1 then
      longer { s with count := 0, cut? := some s.current.length, isAfterSpace := isSpace }
    else { s with
      count := s.count - 1, finished := s.current.reverse :: s.finished, current := [], isAfterSpace := isSpace }
  else longer { s with isAfterSpace := false }

/-- The fields of a line, at most so many. -/
def fields (separators : Text) (count : Nat) (line : Marked) : List Text :=
  let s := line.foldl (add separators) ⟨count, [], [], false, none⟩
  let last := s.current.reverse.take (s.cut?.getD s.current.length)
  (if last = [] then s.finished else last :: s.finished).reverse

end Split

/-- A line with its backslashes taken as quotes. -/
def takeBackslashes : Text → Marked
  | '\\' :: '\n' :: t => takeBackslashes t
  | '\\' :: c :: t => (c, true) :: takeBackslashes t
  | ['\\'] => []
  | c :: t => (c, false) :: takeBackslashes t
  | [] => []

/-- A line up to its end; a backslash at its end makes it go on, unless they mean nothing. -/
def takeLine (isRaw : Bool) (ending : UInt8) (stream : Nat) : Nat → Text → Run (Text × Bool)
  | 0, line => return (line, false)
  | n + 1, line => do
    match ← act (Machine.readRecord ending stream) with
    | .error _ => return (line, false)
    | .ok bs =>
      let t := Octets.ofBytes bs
      let c := Char.ofNat ending.toNat
      if t.getLast? = some c then
        let body := t.dropLast
        let backslashes := (body.reverse.takeWhile (· = '\\')).length
        if !isRaw ∧ backslashes % 2 = 1 then takeLine isRaw ending stream n (line ++ t)
        else return (line ++ body, true)
      else return (line ++ t, false)

def read : Body := fun args => do
  let s ← get
  let o ← options (if s.isExtended then "ersa:d:i:n:N:p:t:u:" else "p:r")
    "[-ers] [-a array] [-d delim] [-i text] [-n nchars] [-N nchars] [-p prompt] [-t timeout] [-u fd] [name ...]" args
  if o.rest = [] ∧ !s.isExtended then abort "arg count".toList
  let isRaw := o.has 'r'
  let ending : UInt8 :=
    match o.value? 'd' with
    | some (c :: _) => UInt8.ofNat c.toNat
    | some [] => 0
    | none => 10
  let descriptor := ((o.value? 'u').bind numeral?).getD 0
  let (line, isComplete) ←
    match s.process.stream? descriptor, ((o.value? 'n').orElse fun _ => o.value? 'N').bind numeral? with
    | some n, some k => do
      let before ← match ← act (Machine.read n (some k)) with
        | .ok bs => pure (Octets.ofBytes bs)
        | .error _ => pure []
      let line := if o.has 'N' then before else before.takeWhile (· ≠ '\n')
      if line.length < before.length then
        act (Machine.unread n (Octets.toBytes (before.drop (line.length + 1))))
      pure (line, line.length = k || line.length < before.length)
    | some n, none => takeLine isRaw ending n Parse.rounds []
    | none, _ => pure ([], false)
  let line := line.filter (· ≠ '\x00')
  let marked := if isRaw then mark false line else takeBackslashes line
  match o.value? 'a' with
  | some name =>
    let fields := Split.fields s.separators (line.length + 2) marked
    assignContent name (.list (fields.zipIdx.map fun e => (e.2, e.1)))
  | none =>
    if o.rest = [] then assign "REPLY".toList (unmark marked)
    else
      let fields := Split.fields s.separators o.rest.length marked
      for (name, i) in o.rest.zipIdx do
        if !isTarget name then
          if s.isExtended then failWith 1 ('\x60' :: name ++ "': not a valid identifier".toList)
          else abort (name ++ ": bad variable name".toList)
        assignTarget name ((fields[i]?).getD [])
  setStatus (if isComplete then 0 else 1)

/-- Reads all lines into an array. -/
def mapfile : Body := fun args => do
  let s ← get
  let o ← options "d:n:O:s:tu:C:c:" "[-d delim] [-n count] [-O origin] [-s count] [-t] [-u fd] [array]" args
  let t ←
    match s.process.stream? (((o.value? 'u').bind numeral?).getD 0) with
    | some n => do
      match ← act (Machine.read n none) with
      | .ok bs => pure (Octets.ofBytes bs)
      | .error _ => pure []
    | none => pure []
  let ending := match o.value? 'd' with
    | some (c :: _) => c
    | some [] => '\x00'
    | none => '\n'
  let pieces := t.splitOn ending
  let lines := pieces.dropLast.map (fun l => if o.has 't' then l else l ++ [ending]) ++
    (pieces.getLast?.toList.filter (· ≠ []))
  let lines := lines.drop (((o.value? 's').bind numeral?).getD 0)
  let lines := match ((o.value? 'n').bind numeral?).filter (· > 0) with
    | some n => lines.take n
    | none => lines
  assignContent (o.rest.headD "MAPFILE".toList) (.list (lines.zipIdx.map fun e => (e.2, e.1)))
  setStatus 0

end JavacLauncher.Shell.Builtin
