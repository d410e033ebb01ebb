import JavacLauncher.Shell.Fields
import JavacLauncher.Shell.Subshell

/-!
# Replacing what words hold

The parts of a word are replaced one after another: a home directory for a tilde, a value for a parameter,
what a command writes, the value of an expression. What comes of it is a list of segments, from which the
fields are made where a word may come to several fields, or one text where it may not.

An operand is expanded like a word, in the quotes in which its parameter stands.
-/

namespace JavacLauncher.Shell

/-- Where tildes are looked for. -/
inductive TildeRule where
  | never
  /-- At the front of a word. -/
  | front
  /-- At the front, and behind colons. -/
  | value
  deriving DecidableEq, Repr, Inhabited

/-- How a word is expanded. -/
structure Setting where
  /-- It stands in quotes. -/
  isQuoted : Bool
  /-- It is an operand, whose unquoted text is split too. -/
  isOperand : Bool
  /-- It may come to several fields. -/
  isFull : Bool
  tilde : TildeRule
  deriving DecidableEq, Repr, Inhabited

namespace Setting

def full : Setting := ⟨false, false, true, .front⟩
def text : Setting := ⟨false, false, false, .front⟩
def value : Setting := ⟨false, false, false, .value⟩
def quoted : Setting := ⟨true, false, false, .never⟩
def bare : Setting := ⟨false, false, false, .never⟩

end Setting

/-- The home directories of the system's accounts. -/
def accountHomes : List (Text × Text) :=
  [("root", "/root"), ("daemon", "/usr/sbin"), ("bin", "/bin"), ("sys", "/dev"), ("sync", "/bin"),
    ("games", "/usr/games"), ("man", "/var/cache/man"), ("lp", "/var/spool/lpd"), ("mail", "/var/mail"),
    ("news", "/var/spool/news"), ("uucp", "/var/spool/uucp"), ("proxy", "/bin"), ("www-data", "/var/www"),
    ("backup", "/var/backups"), ("list", "/var/list"), ("irc", "/run/ircd"), ("nobody", "/nonexistent")].map
      fun e => (e.1.toList, e.2.toList)

/-- The directory that a tilde with a name behind it stands for. -/
def homeOf? (s : Session) (name : Text) : Option Text :=
  match String.ofList name with
  | "" => s.valueOf? "HOME".toList
  | "+" => if s.isExtended then s.valueOf? "PWD".toList else none
  | "-" => if s.isExtended then s.valueOf? "OLDPWD".toList else none
  | _ => accountHomes.lookup name

/-- The parts of a text outside quotes, with the tildes replaced in it. -/
def tildeParts (home? : Text → Option Text) (rule : TildeRule) (isEnd : Bool) : Nat → Bool → Text → List Part
  | 0, _, t => [.plain t]
  | _ + 1, _, [] => []
  | n + 1, isFront, c :: t =>
    let put (c : Char) (ps : List Part) : List Part :=
      match ps with
      | .plain t :: ps => .plain (c :: t) :: ps
      | ps => .plain [c] :: ps
    if isFront ∧ c = '~' then
      let name := t.takeWhile fun c => c ≠ '/' && !(c = ':' && rule = .value)
      let rest := t.drop name.length
      match if rest = [] ∧ !isEnd then none else home? name with
      | some home => .quoted home :: tildeParts home? rule isEnd n false rest
      | none => put c (tildeParts home? rule isEnd n false t)
    else put c (tildeParts home? rule isEnd n (rule = .value && c = ':') t)

/-- A word with its tildes replaced. -/
def Word.withHomes (home? : Text → Option Text) (rule : TildeRule) : Bool → Word → Word
  | _, [] => []
  | isFront, .plain t :: w =>
    (if '~' ∈ t then tildeParts home? rule w.isEmpty (t.length + 1) isFront t else [.plain t]) ++
      withHomes home? rule (rule = .value && t.getLast? = some ':') w
  | _, p :: w => p :: withHomes home? rule false w

/-- What a parameter is. -/
inductive Worth where
  | unset
  | text (t : Text)
  /-- All of several values; a star in quotes joins them. -/
  | list (ts : List Text) (isStar : Bool)
  deriving DecidableEq, Repr, Inhabited

namespace Worth

/-- What is between values that are joined. -/
def joint (s : Session) : Text :=
  match s.valueOf? "IFS".toList with
  | some ifs => ifs.take 1
  | none => [' ']

/-- The values as one text. -/
def joined (s : Session) : Worth → Text
  | .unset => []
  | .text t => t
  | .list ts _ => (joint s).intercalate ts

/-- The values one by one. -/
def values : Worth → List Text
  | .unset => []
  | .text t => [t]
  | .list ts _ => ts

/-- The same, with each value changed. -/
def map (f : Text → Text) : Worth → Worth
  | .unset => .unset
  | .text t => .text (f t)
  | .list ts isStar => .list (ts.map f) isStar

/-- The segments for a value. -/
def segments (s : Session) (isQuoted isFull : Bool) : Worth → List Segment
  | .unset => []
  | .text t => [if isQuoted then .fixed true t else .splittable t]
  | .list ts isStar =>
    if isQuoted ∧ isStar ∨ !isFull then
      let t := (joint s).intercalate ts
      [if isQuoted then .fixed true t else .splittable t]
    else if ts = [] then []
    else [.arguments isQuoted ts]

end Worth

variable (evaluate : Evaluator)

/-- What is left of written bytes: no NULs, and no line ends at the end. -/
def substitutionText (bs : Bytes) : Text :=
  ((Octets.ofBytes bs).filter (· ≠ '\x00')).reverse.dropWhile (· = '\n') |>.reverse

/-- What a command writes. -/
def outputOf (body : Option Command) : Run Text := do
  match body with
  | none =>
    modify fun s => { s with substituted := 0 }
    return []
  | some c =>
    let s ← get
    let n ← act (Machine.openStream Machine.newBuffer)
    let o ← inSubshell evaluate (·.bind 1 n) do
      if s.isExtended then modify fun s => { s with options := s.options.filter (· ≠ 'e') }
      evaluate .last c
    let bs ← act (Machine.takeStream n)
    tellOfSignal o
    modify fun t =>
      if s.isExtended then { t with substituted := codeOf o, status := codeOf o, line := s.line }
      else { t with substituted := codeOf o }
    return substitutionText bs

section

variable (self : Setting → Word → Run (List Segment))

/-- A word as one text with its marks. -/
def markedWith (setting : Setting) (w : Word) : Run Marked := do
  return (← self setting w).flatMap Segment.marked

/-- A word as one text. -/
def textWith (setting : Setting) (w : Word) : Run Text := do
  return unmark (← markedWith self setting w)

/-- The subscript of an element: a number for most arrays. -/
def subscriptOf (name : Text) (w : Word) : Run Text := do
  let t ← textWith self .bare w
  match (← get).content? name with
  | some (.table _) => return t
  | content? =>
    let n ← calculate t
    let length : Nat :=
      match content? with
      | some (.list es) => (es.getLast?.map fun (e : Nat × Text) => e.1 + 1).getD 0
      | some (.text _) => 1
      | _ => 0
    if n < 0 then return Text.ofNat (n + length).toNat else return Text.ofNat n.toNat

/-- What a parameter is. -/
def worthOf (name : Text) (subscript : Option Word) : Run Worth := do
  let s ← get
  match subscript with
  | some [.plain ['@']] => return .list (((s.content? name).map Content.elements).getD []) false
  | some [.plain ['*']] => return .list (((s.content? name).map Content.elements).getD []) true
  | some w =>
    let k ← subscriptOf self name w
    let s ← get
    match s.content? name with
    | some (.table es) => return ((es.lookup k).map Worth.text).getD .unset
    | some c => return ((c.at? ((numeral? k).getD 0)).map Worth.text).getD .unset
    | none => return .unset
  | none =>
    if name = ['@'] then return .list s.positional false
    else if name = ['*'] then return .list s.positional true
    else
      if name = "RANDOM".toList ∧ s.isExtended then
        set { s with random := (s.random * 1103515245 + 12345) % 2147483648 }
      return ((s.parameter? name).map Worth.text).getD .unset

/-- The parameter as messages name it. -/
def shownName (name : Text) (subscript : Option Word) : Text :=
  match subscript with
  | some w => name ++ '[' :: w.text ++ [']']
  | none => name

/-- Fails because a parameter is not set. -/
def abortUnset {α : Type} (name : Text) (subscript : Option Word) : Run α := do
  let s ← get
  if s.isExtended then
    endOfExtended (shownName name subscript ++ ": unbound variable".toList)
  else abort (name ++ ": parameter not set".toList)

/-- A text with big or small letters. -/
def withCase (kind : Char) (isAll : Bool) (p : List PatternItem) (t : Text) : Text :=
  let change (c : Char) : Char :=
    if p ≠ [] ∧ !isMatch p [c] then c
    else if kind = '^' then c.toUpper
    else if kind = ',' then c.toLower
    else if c.isUpper then c.toLower else c.toUpper
  if isAll then t.map change
  else
    match t with
    | c :: t => change c :: t
    | [] => []

/-- A text with matches replaced. -/
def withReplaced (kind : Char) (p : List PatternItem) (replacement t : Text) : Text :=
  match kind with
  | '#' =>
    match matchedLength? true p t with
    | some n => replacement ++ t.drop n
    | none => t
  | '%' =>
    match matchedLength? true p.reverse t.reverse with
    | some n => t.take (t.length - n) ++ replacement
    | none => t
  | kind => if p = [] then t else replaceMatches (kind = '/') p replacement (t.length + 1) t

/-- Several values of the plain dialect, trimmed as one: at the front only the first value is matched, and a longest match
that is all of it takes away the others too; at the end a match takes away all values behind it. -/
def trimmedList (isFront isLongest : Bool) (p : List PatternItem) : List Text → List Text
  | [] => []
  | t :: ts =>
    if isFront then
      if isLongest ∧ isMatch p t then [[]] else dropFront isLongest p t :: ts
    else
      let values := t :: ts
      let hits := (List.range values.length).filter fun i => values[i]?.any fun v => hasSuffix p v
      match if isLongest then hits.head? else hits.getLast? with
      | some i => values.take i ++ [dropBack isLongest p ((values[i]?).getD [])]
      | none => values
where
  /-- Whether a value ends in a match. -/
  hasSuffix (p : List PatternItem) (t : Text) : Bool := (matchedLength? false p.reverse t.reverse).isSome

/-- A text in single quotes, as the shell reads it back. -/
def inSingleQuotes (t : Text) : Text :=
  '\'' :: t.flatMap (fun c => if c = '\'' then "'\\''".toList else [c]) ++ ['\'']

/-- The letters of a variable's traits. -/
def traitLetters (v : Variable) : Text :=
  let t := v.traits
  (match v.content with
    | some (.list _) => ['a']
    | some (.table _) => ['A']
    | _ => []) ++ (if t.isInteger then ['i'] else []) ++ (if t.isLower then ['l'] else []) ++
    (if t.isFixed then ['r'] else []) ++ (if t.isUpper then ['u'] else []) ++ (if t.isExported then ['x'] else [])

/-- The part of a list from a place on. -/
def sliceOf {α : Type} (l : List α) (first : Int) (count? : Option Int) : List α :=
  let size : Int := l.length
  let first := if first < 0 then size + first else first
  if first < 0 then []
  else
    let rest := l.drop first.toNat
    match count? with
    | none => rest
    | some n => if n < 0 then rest.take (rest.length + n).toNat else rest.take n.toNat

/-- The segments of a parameter. -/
def parameterSegments (setting : Setting) (isQuoted : Bool) (name : Text) (subscript : Option Word) :
    Nat → Operation → Run (List Segment)
  | 0, _ => throw (.killed Signal.kill)
  | n + 1, operation => do
    let isAll := name = ['@'] ∨ name = ['*'] ∨ subscript matches some [.plain ['@']] | some [.plain ['*']]
    let worth ← worthOf self name subscript
    let s ← get
    let give (w : Worth) : Run (List Segment) := do return w.segments (← get) isQuoted setting.isFull
    let operand : Setting := ⟨isQuoted, true, setting.isFull, if isQuoted then .never else .front⟩
    let insist : Run Unit :=
      if worth = .unset ∧ s.has 'u' ∧ !isAll then abortUnset name subscript else pure ()
    let isMissing (countsEmpty : Bool) : Bool :=
      match worth with
      | .unset => true
      | .list ts _ => if s.isExtended then ts = [] || (countsEmpty && worth.joined s = []) else
          countsEmpty && worth.joined s = []
      | .text t => countsEmpty && t = []
    match operation with
    | .value =>
      insist
      give worth
    | .orElse countsEmpty w => if isMissing countsEmpty then self operand w else give worth
    | .instead countsEmpty w => if isMissing countsEmpty then return [] else self operand w
    | .assign countsEmpty w =>
      if isMissing countsEmpty then
        let t ← textWith self ⟨isQuoted, false, false, if isQuoted then .never else .front⟩ w
        match subscript with
        | some k =>
          let k ← subscriptOf self name k
          assignCell name (some k) t
        | none => assignNamed name t
        give (.text t)
      else give worth
    | .complain countsEmpty w =>
      if isMissing countsEmpty then
        let t ← textWith self ⟨isQuoted, false, false, .front⟩ w
        let t :=
          if w ≠ [] then t
          else if s.isExtended then (if countsEmpty then "parameter null or not set".toList else "parameter not set".toList)
          else if countsEmpty then "parameter not set or null".toList
          else "parameter not set".toList
        if s.isExtended then endOfExtended (shownName name subscript ++ ": ".toList ++ t)
        else abort (name ++ ": ".toList ++ t)
      else give worth
    | .length =>
      insist
      match worth with
      | .list ts _ =>
        if s.isExtended then give (.text (Text.ofNat ts.length))
        else give (.text (Text.ofNat (worth.joined s).length))
      | w => give (.text (Text.ofNat (w.joined s).length))
    | .trim isFront isLongest w =>
      insist
      if worth = .unset then return []
      let p := pattern (← markedWith self ⟨false, false, false, .front⟩ w)
      let trimmed (t : Text) : Text := if isFront then dropFront isLongest p t else dropBack isLongest p t
      match worth, s.isExtended with
      | .list ts isStar, false =>
        if isQuoted ∧ isStar ∨ !setting.isFull then give (.text (trimmed (worth.joined s)))
        else give (.list (trimmedList isFront isLongest p ts) isStar)
      | _, _ => give (worth.map trimmed)
    | .slice first count =>
      insist
      let first ← calculate (← textWith self .bare first)
      let count? ←
        match count with
        | some w => do
          let n ← calculate (← textWith self .bare w)
          pure (some n)
        | none => pure none
      let refuse (n : Int) : Run (List Segment) := do
        modify fun s => { s with command? := none }
        abort (Arithmetic.display n ++ ": substring expression < 0".toList)
      match worth, count? with
      | .list ts isStar, count? =>
        if let some n := count?.filter (· < 0) then refuse n
        else
          let ts := if name = ['@'] ∨ name = ['*'] then (if first < 0 then ts else s.name :: ts) else ts
          give (.list (sliceOf ts first count?) isStar)
      | .text t, count? =>
        let start := if first < 0 then t.length + first else first
        if let some n := count?.filter fun n => n < 0 ∧ t.length + n < start ∧ 0 ≤ start ∧ start ≤ t.length then
          refuse n
        else give (.text (sliceOf t first count?))
      | .unset, _ => give .unset
    | .replace kind w replacement =>
      insist
      let p := pattern (← markedWith self ⟨false, false, false, .never⟩ w)
      let replacement ← textWith self ⟨false, false, false, .never⟩ replacement
      give (worth.map (withReplaced kind p replacement))
    | .changeCase kind isAll w =>
      insist
      let p := pattern (← markedWith self ⟨false, false, false, .never⟩ w)
      give (worth.map (withCase kind isAll p))
    | .namesLike isList =>
      let names := (s.bindings.map Variable.name).filter fun v => (after? name v).isSome
      give (.list (names.mergeSort fun (a b : Text) => !b.precedes a) (!isList))
    | .subscripts =>
      give (.list (((s.content? name).map Content.subscripts).getD [])
        (subscript matches some [.plain ['*']]))
    | .transform kind =>
      insist
      match kind with
      | 'Q' => give (worth.map inSingleQuotes)
      | 'U' => give (worth.map fun t => t.map Char.toUpper)
      | 'L' => give (worth.map fun t => t.map Char.toLower)
      | 'u' => give (worth.map (withCase '^' false []))
      | 'E' | 'P' => give worth
      | 'a' =>
        give (.text (((s.find? name).map traitLetters).getD []))
      | 'A' =>
        match worth, s.find? name with
        | .unset, _ | _, none => give .unset
        | w, some v =>
          let letters := traitLetters v
          let assigned := name ++ '=' :: inSingleQuotes (w.joined s)
          give (.text (if letters = [] then assigned else "declare -".toList ++ letters ++ ' ' :: assigned))
      | _ => abortPlainly ("$\x7b".toList ++ name ++ '@' :: kind :: "\x7d: bad substitution".toList)
    | .indirect inner =>
      let target := worth.joined s
      let (target, sub) :=
        match cut? '[' target with
        | some (name, rest) => (name, some [Part.plain rest.dropLast])
        | none => (target, none)
      if target = [] then
        abortPlainly (name ++ ": invalid indirect expansion".toList)
      else parameterSegments setting isQuoted target sub n inner
    | .nonsense =>
      if s.isExtended then abortPlainly ("$\x7b".toList ++ name ++ "\x7d: bad substitution".toList)
      else abort "Bad substitution".toList

/-- A file with what a command writes, or one that a command reads later. -/
def channelPath (isInput : Bool) (body : Option Command) : Run Text := do
  let id ← act Machine.newProcess
  let path := "/dev/fd/".toList ++ Text.ofNat id
  if isInput then
    let t ←
      match body with
      | none => pure []
      | some c => do
        let n ← act (Machine.openStream Machine.newBuffer)
        let _ ← inSubshell evaluate (·.bind 1 n) (evaluate .last c)
        pure (Octets.ofBytes (← act (Machine.takeStream n)))
    let n ← act (Machine.openStream (.source (Octets.toBytes t)))
    modify fun s => { s with process := s.process.bind id n }
    return path
  else return path

/-- The file that a command only opens to read. -/
def fileOf? : Option Command → Option Word
  | some (.simple _ [] [] [.to none .input w]) => some w
  | _ => none

/-- What a file holds, in place of what a command writes. -/
def contentOf (w : Word) : Run Text := do
  let path ← textWith self .text w
  let s ← get
  match ← act (s.process.readFile path) with
  | .ok t =>
    modify fun s => { s with substituted := 0, status := 0 }
    return substitutionText (Octets.toBytes t)
  | .error e =>
    warn (path ++ ": ".toList ++ (match e with
      | .code n => SystemError.describe n
      | e => e.message))
    modify fun s => { s with substituted := 1, status := 1 }
    return []

/-- The segments of a part of a word. -/
def partSegments (setting : Setting) (p : Part) : Run (List Segment) := do
  match p with
  | .plain t =>
    if setting.isQuoted then return [.fixed true t]
    else if setting.isOperand then return [.splittable t]
    else return [.fixed false t]
  | .quoted [] => return [.trace]
  | .quoted t => return [.fixed true t]
  | .arithmetic isQuoted w =>
    let t ← textWith self .quoted w
    let n ← calculate t
    return Worth.segments (← get) (setting.isQuoted || isQuoted) setting.isFull (.text (Arithmetic.display n))
  | .output isQuoted _ body =>
    let t ←
      match fileOf? body, (← get).isExtended with
      | some w, true => contentOf self w
      | _, _ => outputOf evaluate body
    return Worth.segments (← get) (setting.isQuoted || isQuoted) setting.isFull (.text t)
  | .channel isInput _ body => return [.fixed true (← channelPath evaluate isInput body)]
  | .parameter isQuoted name subscript operation =>
    parameterSegments self setting (setting.isQuoted || isQuoted) name subscript 16 operation

end

/-- The segments of a word, with words in it as deep as the bound allows. -/
def wordSegments : Nat → Setting → Word → Run (List Segment)
  | 0, _, _ => throw (.killed Signal.kill)
  | n + 1, setting, w => do
    let s ← get
    let w := if setting.tilde = .never then w else w.withHomes (homeOf? s) setting.tilde true
    match w with
    | [p] => partSegments evaluate (wordSegments n) setting p
    | w =>
      let parts ← w.mapM (partSegments evaluate (wordSegments n) setting)
      return parts.flatten

/-- How deep words may stand in words. -/
def wordDepth : Nat := 200

/-- A word as one text. -/
def expandText (setting : Setting) (w : Word) : Run Text := do
  match w with
  | [.quoted t] => return t
  | w => return unmark ((← wordSegments evaluate wordDepth setting w).flatMap Segment.marked)

/-- A word as a pattern. -/
def expandPattern (w : Word) : Run (List PatternItem) := do
  return pattern ((← wordSegments evaluate wordDepth .text w).flatMap Segment.marked)

/-! ## Braces -/

/-- A text outside quotes cut at the commas of braces, if it has a brace that closes. -/
structure BraceCut where
  front : Marked
  items : List Marked
  back : Marked

/-- The items of braces from behind the opening one, and what follows them. -/
def braceItems : Marked → Nat → Marked → List Marked → Option (List Marked × Marked)
  | [], _, _, _ => none
  | (c, q) :: m, depth, item, items =>
    if q then braceItems m depth ((c, q) :: item) items
    else if c = '{' then braceItems m (depth + 1) ((c, q) :: item) items
    else if c = '\x7d' then
      if depth = 0 then some ((item.reverse :: items).reverse, m)
      else braceItems m (depth - 1) ((c, q) :: item) items
    else if c = ',' ∧ depth = 0 then braceItems m depth [] (item.reverse :: items)
    else braceItems m depth ((c, q) :: item) items

/-- The texts of a range such as `1..5` or `a..e`, with a step if one is given. -/
def rangeItems? (t : Text) : Option (List Text) :=
  let parts := String.ofList t |>.splitOn ".."
  let number? (s : String) : Option Int :=
    match s.toList with
    | '-' :: ds => (numeral? ds).map fun n => -(n : Int)
    | '+' :: ds => (numeral? ds).map Int.ofNat
    | ds => (numeral? ds).map Int.ofNat
  let count (a b : Int) (step : Nat) : List Int :=
    let step := max step 1
    let n := (b - a).natAbs / step
    (List.range (n + 1)).map fun i => if a ≤ b then a + (i * step : Nat) else a - (i * step : Nat)
  let make (a b : String) (step : Nat) : Option (List Text) :=
    match number? a, number? b with
    | some x, some y =>
      let isPadded (s : String) : Bool :=
        match s.toList.filter (· ≠ '-') with
        | '0' :: _ :: _ => true
        | _ => false
      let width := if isPadded a || isPadded b then max a.length b.length else 0
      some ((count x y step).map fun n =>
        let digits := Text.ofNat n.natAbs
        let sign := if n < 0 then ['-'] else []
        sign ++ List.replicate (width - digits.length - sign.length) '0' ++ digits)
    | _, _ =>
      match a.toList, b.toList with
      | [c], [d] =>
        if c.isAlpha ∧ d.isAlpha then
          some ((count c.toNat d.toNat step).map fun n => [Char.ofNat n.toNat])
        else none
      | _, _ => none
  match parts with
  | [a, b] => make a b 1
  | [a, b, c] => (number? c).bind fun n => make a b n.natAbs
  | _ => none

/-- The parts of a word as pieces that braces can be looked for in: each part but plain text is one quoted
character, which stands for the part of that number. -/
def bracePieces (w : Word) : Marked :=
  w.zipIdx.flatMap fun (p, i) =>
    match p with
    | .plain t => mark false t
    | _ => [(Char.ofNat (0xF0000 + i), true)]

/-- The word that pieces stand for. -/
def ofBracePieces (w : Word) (m : Marked) : Word :=
  let parts := m.map fun (c, q) =>
    if q then (w[c.toNat - 0xF0000]?).getD (.plain []) else .plain [c]
  (parts.foldr (fun p ps =>
    match p, ps with
    | .plain t, .plain u :: ps => .plain (t ++ u) :: ps
    | p, ps => p :: ps) [])

/-- All that pieces with braces stand for. -/
def braceExpansions : Nat → Marked → List Marked
  | 0, m => [m]
  | n + 1, m =>
    let rec find (front : Marked) : Marked → Option BraceCut
      | [] => none
      | (c, q) :: rest =>
        if !q ∧ c = '{' ∧ (front.head?.map (·.1)) ≠ some '$' then
          match braceItems rest 0 [] [] with
          | some ([item], back) =>
            match if item.any (·.2) then none else rangeItems? (unmark item) with
            | some ts => some ⟨front.reverse, ts.map (mark false), back⟩
            | none => find ((c, q) :: front) rest
          | some (items, back) => some ⟨front.reverse, items, back⟩
          | none => find ((c, q) :: front) rest
        else find ((c, q) :: front) rest
    match find [] m with
    | none => [m]
    | some ⟨front, items, back⟩ =>
      let backs := braceExpansions n back
      items.flatMap fun item =>
        (braceExpansions n item).flatMap fun i => backs.map fun b => front ++ i ++ b

/-- The words that a word with braces stands for. -/
def Word.braces (w : Word) : List Word :=
  if w.any fun
    | .plain t => t.contains '{'
    | _ => false
  then (braceExpansions 32 (bracePieces w)).map (ofBracePieces w)
  else [w]

/-! ## Fields -/

/-- Whether a part comes to a list that may have nothing in it. -/
def Part.isList : Part → Bool
  | .parameter true name subscript operation =>
    let isAll : Bool := name = ['@'] || (match subscript with
      | some [.plain ['@']] => true
      | _ => false)
    match operation with
    | .trim .. | .slice .. | .replace .. | .changeCase .. | .subscripts | .transform _ => isAll
    | .namesLike isList => isList
    | _ => false
  | _ => false

/-- A word without the trace of the quotes around a list: a list with nothing in it comes to no field. -/
def Word.withoutTrace : Word → Word
  | [.quoted [], p] => if p.isList then [p] else [.quoted [], p]
  | w => w

/-- The fields that a word comes to. -/
def expandFields (w : Word) : Run (List Text) := do
  let s ← get
  let one (w : Word) : Run (List Text) := do
    match w with
    | [.plain t] =>
      if !t.any (fun c => c = '*' || c = '?' || c = '[' || c = '~') then return [t]
      else fields w
    | w => fields w
  if s.isExtended then
    return (← w.braces.mapM fun w => one w.withoutTrace).flatten
  else one w
where
  fields (w : Word) : Run (List Text) := do
    let ss ← wordSegments evaluate wordDepth .full w
    let s ← get
    let found := (Fields.ofSegments s.separators ss).map Fields.marked
    return found.flatMap fun m =>
      if isPattern m ∧ !s.has 'f' then
        let style : GlobStyle := ⟨s.hasExtra "dotglob", !s.isExtended⟩
        match glob style s.machine.tree s.process.standpoint m with
        | [] => if s.hasExtra "nullglob" then [] else [unmark m]
        | files => files
      else [unmark m]

/-- Fields of words, one word after another. -/
def expandAll (ws : List Word) : Run (List Text) := do
  return (← ws.mapM (expandFields evaluate)).flatten

end JavacLauncher.Shell
