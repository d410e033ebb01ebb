import JavacLauncher.Shell.Builtin.Basic
import JavacLauncher.Shell.Expand
import JavacLauncher.Shell.Format

/-!
# Commands about variables, arguments and options
-/

namespace JavacLauncher.Shell.Builtin

/-! ## Traits of variables -/

/-- Variables by name. -/
def sortedVariables (s : Session) : List Variable :=
  s.bindings.mergeSort fun a b => !b.name.precedes a.name

/-- A value in double quotes, as the extended dialect reads it back. -/
def inDoubleQuotes (t : Text) : Text :=
  '"' :: t.flatMap (fun c => if c = '"' ∨ c = '\\' ∨ c = '$' ∨ c = '`' then ['\\', c] else [c]) ++ ['"']

/-- A variable as the extended dialect declares it. -/
def declaration (v : Variable) : Text :=
  let letters := traitLetters v
  let front := "declare -".toList ++ (if letters = [] then ['-'] else letters) ++ ' ' :: v.name
  let item (k t : Text) : Text := '[' :: k ++ ']' :: '=' :: inDoubleQuotes t
  match v.content with
  | none => front
  | some (.text t) => front ++ '=' :: inDoubleQuotes t
  | some (.list es) =>
    front ++ "=(".toList ++ [' '].intercalate (es.map fun e => item (Text.ofNat e.1) e.2) ++ [')']
  | some (.table es) => front ++ "=(".toList ++ es.flatMap (fun e => item e.1 e.2 ++ [' ']) ++ [')']

/-- Shows variables. -/
def showVariables (command : Text) (isShown : Variable → Bool) : Run Unit := do
  let s ← get
  for v in sortedVariables s do
    if isShown v then
      if s.isExtended then sayLine (declaration v)
      else
        let front := if command = [] then [] else command ++ [' ']
        match v.content with
        | some (.text t) => sayLine (front ++ v.name ++ '=' :: inSingleQuotes t)
        | _ => if command ≠ [] then sayLine (front ++ v.name)

/-- Whether a text can name a variable of the shell, or an element of an array. -/
def isTarget (t : Text) : Bool :=
  match cut? '[' t with
  | some (name, rest) => isName name && rest.getLast? = some ']'
  | none => isName t

/-- Assigns to a variable, or to an element of an array. -/
def assignTarget (target value : Text) : Run Unit := do
  match cut? '[' target with
  | some (name, rest) =>
    let k := rest.dropLast
    match (← get).content? name with
    | some (.table _) => assignCell name (some k) value
    | _ => assignCell name (some (Arithmetic.display (← calculate k))) value
  | none => assign target value

/-- Gives variables a trait, and a value where one is given. -/
def giveTrait (command : String) (change : Traits → Traits) (args : List Text) : Run Unit := do
  setStatus 0
  for a in args do
    let (name, value?) :=
      match cut? '=' a with
      | some (name, value) => (name, some value)
      | none => (a, none)
    let (name, isAppended) :=
      if (← get).isExtended ∧ name.getLast? = some '+' ∧ value?.isSome then (name.dropLast, true) else (name, false)
    if !isName name then
      if (← get).isExtended then failWith 1 ('\x60' :: a ++ "': not a valid identifier".toList)
      else abort (name ++ ": bad variable name".toList)
    else
      match value? with
      | some value =>
        let old := ((← get).valueOf? name).getD []
        assign name (if isAppended then old ++ value else value)
      | none => pure ()
      modify fun s =>
        let v := s.variableOf name
        s.putVariable { v with traits := change v.traits }
  let _ := command

def exportNames : Body := fun args => do
  let s ← get
  let o ← options (if s.isExtended then "pnf" else "p") "[-fn] [name[=value] ...] or export -p" args
  if o.rest = [] ∨ o.has 'p' then
    showVariables "export".toList fun v => v.traits.isExported
    setStatus 0
  else if o.has 'f' then setStatus 0
  else giveTrait "export" (fun t => { t with isExported := !o.has 'n' }) o.rest

def fixNames : Body := fun args => do
  let s ← get
  let o ← options (if s.isExtended then "pafA" else "p") "[-aAf] [name[=value] ...] or readonly -p" args
  if o.rest = [] ∨ o.has 'p' then
    showVariables "readonly".toList fun v => v.traits.isFixed
    setStatus 0
  else giveTrait "readonly" (fun t => { t with isFixed := true }) o.rest

/-- Whether a variable has been noted by the command being run. -/
def isKept (s : Session) (name : Text) : Bool :=
  match s.saved with
  | kept :: _ => kept.any fun
    | .variable n _ => n = name
    | .options _ => false
  | [] => false

/-- Makes variables the function's own: they get their values back when it ends. -/
def makeLocal : Body := fun args => do
  let s ← get
  if s.callers = [] then
    if s.isExtended then failWith 1 "can only be used in a function".toList
    else abort "not in a function".toList
  else
    setStatus 0
    for a in args do
      if a = ['-'] then
        modify fun s =>
          match s.saved with
          | kept :: outer => { s with saved := (.options s.options :: kept) :: outer }
          | [] => s
      else
        let name := a.takeWhile (· ≠ '=')
        if !isName name then abort (name ++ ": bad variable name".toList)
        keepVariable name
        match cut? '=' a with
        | some (_, value) => assign name value
        | none => pure ()

def unset : Body := fun args => do
  let o ← options "vf" "[-f] [-v] [-n] [name ...]" args
  setStatus 0
  for name in o.rest do
    if o.last? "vf".toList ≠ some 'f' then
      let s ← get
      if s.isExtended then
        match cut? '[' name with
        | some (array, rest) =>
          let k := rest.dropLast
          match s.content? array with
          | some (.list es) =>
            let n ← calculate k
            modify fun s => s.put array (.list (es.filter fun e => (e.1 : Int) ≠ n))
          | some (.table es) => modify fun s => s.put array (.table (es.filter fun e => e.1 ≠ k))
          | _ => pure ()
        | none =>
          match s.find? name with
          | some v =>
            if v.traits.isFixed then failWith 1 (name ++ ": cannot unset: readonly variable".toList)
            else modify fun s => s.dropVariable name
          | none => modify fun s => { s with functions := s.functions.filter fun e => e.1 ≠ name }
      else
        if !isName name then abort (name ++ ": bad variable name".toList)
        unsetVariable name
    if o.last? "vf".toList ≠ some 'v' ∧ !(← get).isExtended ∨ o.last? "vf".toList = some 'f' then
      modify fun s => { s with functions := s.functions.filter fun e => e.1 ≠ name }

/-- What an argument of a declaration says: a name, a value if it has one, and whether it is appended. -/
def splitDeclaration (a : Text) : Text × Option Text × Bool :=
  match cut? '=' a with
  | some (name, value) =>
    if name.getLast? = some '+' then (name.dropLast, some value, true) else (name, some value, false)
  | none => (a, none, false)

/-- What a variable holds when it becomes an array. -/
def arrayContent (isList isTable : Bool) (old : Option Content) : Option Content :=
  match old with
  | none | some (.text _) =>
    if isTable then some (.table [])
    else if isList then some (.list ((old.bind Content.text?).toList.map fun t => (0, t)))
    else old
  | c => c

/-- Declares variables with traits, and makes them a function's own. -/
def declare (isLocal : Bool) : Body := fun args => do
  let s ← get
  if isLocal ∧ s.callers = [] then failWith 1 "can only be used in a function".toList
  else
    let on := args.takeWhile fun a => (a.head? = some '-' || a.head? = some '+') && a.length > 1
    let rest := args.drop on.length
    let letters := (on.filter fun a => a.head? = some '-').flatMap List.tail
    let off := (on.filter fun a => a.head? = some '+').flatMap List.tail
    setStatus 0
    if letters.contains 'f' ∨ letters.contains 'F' then
      for name in rest do
        if ((← get).functions.lookup name).isNone then setStatus 1
        else if letters.contains 'F' then sayLine name
    else if letters.contains 'p' ∨ rest = [] then
      if rest = [] then showVariables [] fun _ => true
      for name in rest do
        match (← get).find? name with
        | some v => sayLine (declaration v)
        | none => failWith 1 (name ++ ": not found".toList)
    else
      for a in rest do
        let (name, value?, isAppended) := splitDeclaration a
        if !isTarget name then failWith 1 ('\x60' :: a ++ "': not a valid identifier".toList)
        else
          if s.callers ≠ [] ∧ !letters.contains 'g' then
            let isNew := !isKept (← get) name
            keepVariable name
            if isNew then modify fun s =>
              if (s.find? name).any fun v => v.traits.isFixed then s else s.dropVariable name
          let change (t : Traits) : Traits :=
            { t with
              isExported := (t.isExported || letters.contains 'x') && !off.contains 'x'
              isInteger := (t.isInteger || letters.contains 'i') && !off.contains 'i'
              isLower := (t.isLower || letters.contains 'l') && !off.contains 'l'
              isUpper := (t.isUpper || letters.contains 'u') && !off.contains 'u' }
          modify fun s =>
            let v := s.variableOf name
            let content := arrayContent (letters.contains 'a') (letters.contains 'A') v.content
            s.putVariable { v with content := content, traits := change v.traits }
          match value? with
          | some value =>
            if isAppended then
              let old := ((← get).valueOf? name).getD []
              if ((← get).variableOf name).traits.isInteger then assign name (old ++ '+' :: value)
              else assignTarget name (old ++ value)
            else assignTarget name value
          | none => pure ()
          if letters.contains 'r' then modify fun s => s.fix name

/-! ## Arguments -/

def shift : Body := fun args => do
  let n ←
    match args with
    | [] => pure 1
    | t :: _ => number t
  let s ← get
  if n > s.positional.length then
    if s.isExtended then setStatus 1 else abort "can't shift that many".toList
  else
    set { s with positional := s.positional.drop n }
    setStatus 0

/-- Turns an option on or off. -/
def setOption (isOn : Bool) (c : Char) : Run Unit := modify fun s =>
  let others := s.options.filter (· ≠ c)
  { s with options := if isOn then c :: others else others }

/-- The options of `set`, and the new arguments if there are any. -/
def setOptions : Nat → List Text → Run Unit
  | 0, _ => pure ()
  | n + 1, args => do
    let s ← get
    let names := optionNames s.isExtended
    let letters (isOn : Bool) (t : Text) (rest : List Text) : Run Unit := do
      let mut rest := rest
      for c in t do
        if c = 'o' then
          match rest with
          | name :: more =>
            match names.lookup (String.ofList name) with
            | some c => setOption isOn c
            | none =>
              if s.isExtended then goWrong 2 (name ++ ": invalid option name".toList)
              else abort ("Illegal option ".toList ++ (if isOn then ['-'] else ['+']) ++ "o ".toList ++ name)
            rest := more
          | [] =>
            if isOn then
              if !s.isExtended then sayLine "Current option settings".toList
              for (name, c) in names do
                let width := if s.isExtended then 15 else 16
                sayLine (name.toList ++ List.replicate (width - name.length) ' ' ++ (if s.isExtended then ['\t'] else []) ++
                  (if s.options.contains c then "on".toList else "off".toList))
            else
              for (name, c) in names do
                sayLine ("set ".toList ++ (if s.options.contains c then ['-'] else ['+']) ++ "o ".toList ++ name.toList)
        else if names.any fun e => e.2 = c then setOption isOn c
        else if s.isExtended then
          goWrong 2 ((if isOn then '-' else '+') :: c :: ": invalid option".toList)
          usage "set" "[-abefhkmnptuvxBCEHPT] [-o option-name] [--] [-] [arg ...]"
        else abort ("Illegal option ".toList ++ [if isOn then '-' else '+', c])
      setOptions n rest
    match args with
    | [] => pure ()
    | ['-'] :: rest =>
      setOption false 'x'
      setOption false 'v'
      if rest ≠ [] then modify fun s => { s with positional := rest }
    | ['-', '-'] :: rest => modify fun s => { s with positional := rest }
    | ('-' :: t) :: rest => letters true t rest
    | ('+' :: t) :: rest => letters false t rest
    | args => modify fun s => { s with positional := args }

def setArguments : Body := fun args => do
  setStatus 0
  if args = [] then
    if (← get).isExtended then
      for v in sortedVariables (← get) do
        match v.content with
        | some (.text t) => sayLine (v.name ++ '=' :: (if t ≠ [] ∧ isSafe t then t else if t = [] then [] else inSingleQuotes t))
        | _ => pure ()
    else showVariables [] fun _ => true
  else setOptions (args.length + 1) args

/-- What the search for options has found, and where it goes on. -/
structure OptionSearch where
  letter : Char
  value? : Option Text
  /-- The argument to go on with, and how far into the one before it. -/
  index : Nat
  offset : Nat
  isDone : Bool
  message? : Option Text
  deriving Repr, Inhabited

/-- Looks for the next option among some arguments. -/
def nextOption (isExtended : Bool) (known : Text) (args : List Text) (index offset : Nat) : OptionSearch :=
  let isSilent := known.head? = some ':'
  let done (index : Nat) : OptionSearch := ⟨'?', none, index, 0, true, none⟩
  let current? : Option (Text × Nat) :=
    let before := (args[index - 2]?).getD []
    if index > 1 ∧ offset > 0 ∧ offset < before.length then some (before.drop offset, index) else none
  let start : Except OptionSearch (Text × Nat) :=
    match current? with
    | some c => .ok c
    | none =>
      match args[index - 1]? with
      | some ('-' :: c :: t) => if c = '-' ∧ t = [] then .error (done (index + 1)) else .ok (c :: t, index + 1)
      | _ => .error (done index)
  match start with
  | .error d => d
  | .ok ([], index) => done index
  | .ok (c :: t, index) =>
    let (isKnown, hasValue) := letterKind known c
    let offsetOf (t : Text) : Nat := if t = [] then 0 else ((args[index - 2]?).getD []).length - t.length
    if !isKnown then
      if isSilent then ⟨'?', some [c], index, offsetOf t, false, none⟩
      else
        ⟨'?', none, index, offsetOf t, false,
          some (if isExtended then "illegal option -- ".toList ++ [c] else "Illegal option -".toList ++ [c])⟩
    else if hasValue then
      match t, args[index - 1]? with
      | [], none =>
        if isSilent then ⟨':', some [c], index, 0, false, none⟩
        else
          ⟨'?', none, index, 0, false,
            some (if isExtended then "option requires an argument -- ".toList ++ [c]
              else "No arg for -".toList ++ c :: " option".toList)⟩
      | [], some v => ⟨c, some v, index + 1, 0, false, none⟩
      | t, _ => ⟨c, some t, index, 0, false, none⟩
    else ⟨c, if isExtended then none else some [], index, offsetOf t, false, none⟩

def getopts : Body := fun args => do
  let s ← get
  match args with
  | known :: name :: rest =>
    let args := if rest = [] then s.positional else rest
    let found := nextOption s.isExtended known args s.optionIndex s.optionOffset
    if let some m := found.message? then
      if !s.isExtended ∨ s.valueOf? "OPTERR".toList ≠ some ['0'] then
        act (s.process.complain (if s.isExtended then s.name ++ ": ".toList ++ m else m))
    if !found.isDone ∨ s.isExtended then
      match found.value? with
      | some v => assign "OPTARG".toList v
      | none => modify fun s => s.dropVariable "OPTARG".toList
    modify fun s => { s.putText "OPTIND".toList (Text.ofNat found.index) with
      optionIndex := found.index, optionOffset := found.offset }
    if !isName name then
      if s.isExtended then failWith 1 ('\x60' :: name ++ "': not a valid identifier".toList)
      else abort (name ++ ": bad variable name".toList)
    else
      assign name [found.letter]
      setStatus (if found.isDone then 1 else 0)
  | _ =>
    if s.isExtended then
      usage "getopts" "optstring name [arg ...]"
      setStatus 2
    else abort "Usage: getopts optstring var [arg...]".toList

/-! ## Aliases and extras -/

def aliasNames : Body := fun args => do
  let s ← get
  setStatus 0
  let args := if s.isExtended ∧ args = [['-', 'p']] then [] else args
  let shown (name value : Text) : Text :=
    (if s.isExtended then "alias ".toList else []) ++ name ++ '=' :: inSingleQuotes value
  if args = [] then
    for (name, value) in s.aliases.mergeSort fun a b => !b.1.precedes a.1 do
      sayLine (shown name value)
  for a in args do
    match cut? '=' a with
    | some (name, value) =>
      if name = [] then pure ()
      else modify fun s => { s with aliases := (name, value) :: s.aliases.filter fun e => e.1 ≠ name }
    | none =>
      match (← get).aliases.lookup a with
      | some value => sayLine (shown a value)
      | none =>
        if s.isExtended then failWith 1 (a ++ ": not found".toList)
        else
          act (s.process.complain ("alias: ".toList ++ a ++ " not found".toList))
          setStatus 1

def unalias : Body := fun args => do
  let o ← options "a" "[-a] name [name ...]" args
  setStatus 0
  if o.has 'a' then modify fun s => { s with aliases := [] }
  for a in o.rest do
    let s ← get
    if (s.aliases.lookup a).isSome then set { s with aliases := s.aliases.filter fun e => e.1 ≠ a }
    else if s.isExtended then failWith 1 (a ++ ": not found".toList)
    else
      act (s.process.complain ("unalias: ".toList ++ a ++ " not found".toList))
      setStatus 1

/-- The extras that the extended dialect knows. -/
def extraNames : List String :=
  ["dotglob", "expand_aliases", "extglob", "failglob", "globstar", "lastpipe", "nocasematch", "nocaseglob", "nullglob",
    "xpg_echo", "inherit_errexit", "checkwinsize", "cmdhist", "sourcepath", "globskipdots", "compat50"]

def shopt : Body := fun args => do
  let o ← options "suqpo" "[-pqsu] [-o] [optname ...]" args
  setStatus 0
  for name in o.rest do
    let s ← get
    if !(extraNames.contains (String.ofList name)) then failWith 1 (name ++ ": invalid shell option name".toList)
    else if o.has 's' then set { s with extras := name :: s.extras.filter (· ≠ name) }
    else if o.has 'u' then set { s with extras := s.extras.filter (· ≠ name) }
    else
      let isOn := s.extras.contains name
      if !o.has 'q' then
        sayLine (name ++ List.replicate (15 - name.length) ' ' ++ '\t' :: (if isOn then "on".toList else "off".toList))
      if !isOn then setStatus 1

/-- Evaluates expressions; the status tells whether the last one is zero. -/
def letExpressions : Body := fun args => do
  if args = [] then failWith 1 "expression expected".toList
  for a in args do
    let n ← calculate a
    setStatus (if n = 0 then 1 else 0)

end JavacLauncher.Shell.Builtin
