import JavacLauncher.Shell.Arithmetic
import JavacLauncher.Text.Real

/-!
# Writing arguments

What `echo` and `printf` write. A format is used again as long as arguments are left; a conversion
without an argument takes the empty text, or zero. The two dialects of the shell and the tools of the
system differ in the escapes they know and in how they complain.
-/

namespace JavacLauncher.Shell

/-- Whose rules are followed. -/
inductive Voice where
  | plain
  | extended
  | tool
  deriving DecidableEq, Repr, Inhabited

/-! ## Escapes -/

/-- Which escapes there are. -/
structure EscapeRule where
  /-- An octal number begins with a zero of its own, and `\\c` ends all writing. -/
  isArgument : Bool
  /-- In arguments an octal number may also do without that zero. -/
  hasBareOctal : Bool
  /-- There are numbers of base 16, and escapes of quotes. -/
  hasHex : Bool
  deriving DecidableEq, Repr, Inhabited

namespace EscapeRule

def ofFormat (v : Voice) : EscapeRule := ⟨false, true, v ≠ .plain⟩
def ofArgument (v : Voice) : EscapeRule := ⟨true, true, v ≠ .plain⟩
def ofEcho (v : Voice) : EscapeRule := ⟨true, v ≠ .extended, v ≠ .plain⟩

end EscapeRule

/-- The digits of a base, at most `n`, at the front of a text: their value and the rest. -/
def takeDigits? (base n : Nat) (t : Text) : Option (Nat × Text) :=
  let ds := (t.take n).takeWhile fun c => c.isAlphanum && Arithmetic.digitValue base c < base
  if ds = [] then none else some (Arithmetic.valueOf base ds, t.drop ds.length)

/-- What a letter after a backslash stands for. -/
def escapeLetter? (c : Char) : Option Char :=
  match c with
  | 'a' => some '\x07'
  | 'b' => some '\x08'
  | 'e' => some '\x1b'
  | 'f' => some '\x0c'
  | 'n' => some '\n'
  | 'r' => some '\r'
  | 't' => some '\t'
  | 'v' => some '\x0b'
  | '\\' => some '\\'
  | _ => none

/-- What is written for a character given by its code point: only those of ASCII can be written, the others are
spelled as they were given. -/
def codePoint (n : Nat) : Text :=
  let digits := (Nat.toDigits 16 n).map Char.toUpper
  let spelled (letter : Char) (width : Nat) : Text :=
    '\\' :: letter :: List.replicate (width - digits.length) '0' ++ digits
  if n < 0x80 then [Char.ofNat n] else if n < 0x10000 then spelled 'u' 4 else spelled 'U' 8

/-- What an escape stands for, from behind its backslash, and the rest. -/
def escape (rule : EscapeRule) (c : Char) (t : Text) : Text × Text :=
  match escapeLetter? c with
  | some d => ([d], t)
  | none =>
    let octal? :=
      if rule.isArgument then
        if c = '0' then some ((takeDigits? 8 3 t).getD (0, t))
        else if rule.hasBareOctal then takeDigits? 8 3 (c :: t) else none
      else takeDigits? 8 3 (c :: t)
    match octal? with
    | some (v, t) => ([Char.ofNat (v % 256)], t)
    | none =>
      if rule.hasHex then
        if c = 'x' then
          match takeDigits? 16 2 t with
          | some (v, t) => ([Char.ofNat v], t)
          | none => (['\\', c], t)
        else if c = 'u' ∨ c = 'U' then
          match takeDigits? 16 (if c = 'u' then 4 else 8) t with
          | some (v, t) => (codePoint v, t)
          | none => (['\\', c], t)
        else if c = 'E' then (['\x1b'], t)
        else if !rule.isArgument ∧ (c = '"' ∨ c = '\'') then ([c], t)
        else (['\\', c], t)
      else (['\\', c], t)

/-- A text with its escapes replaced, and whether writing ends there. What is done comes last first. -/
def unescape (rule : EscapeRule) : Nat → Text → Text → Text × Bool
  | 0, done, _ => (done.reverse, false)
  | _ + 1, done, [] => (done.reverse, false)
  | n + 1, done, '\\' :: c :: t =>
    if c = 'c' ∧ rule.isArgument then (done.reverse, true)
    else
      let (front, t) := escape rule c t
      unescape rule n (front.reverse ++ done) t
  | n + 1, done, c :: t => unescape rule n (c :: done) t

/-- A text with its escapes replaced. -/
def unescapeAll (rule : EscapeRule) (t : Text) : Text × Bool :=
  if '\\' ∈ t then unescape rule (t.length + 1) [] t else (t, false)

/-- What `echo` writes for its arguments. -/
def echoLine (rule : EscapeRule) (readsEscapes endsLine : Bool) (args : List Text) : Text :=
  let ending := if endsLine then ['\n'] else []
  let line := [' '].intercalate args
  if readsEscapes then
    match unescapeAll rule line with
    | (t, false) => t ++ ending
    | (t, true) => t
  else line ++ ending

/-- Whether an argument of `echo` is made of options. -/
def isEchoOption (a : Text) : Bool :=
  match a with
  | '-' :: c :: t => (c :: t).all fun c => c = 'n' || c = 'e' || c = 'E'
  | _ => false

/-- What `echo` writes. Only some know options that ask for escapes. -/
def echoText (v : Voice) (args : List Text) : Text :=
  match v with
  | .plain =>
    match args with
    | ['-', 'n'] :: rest => echoLine (.ofEcho v) true false rest
    | _ => echoLine (.ofEcho v) true true args
  | v =>
    let options := (args.takeWhile isEchoOption).flatMap List.tail
    let readsEscapes := ((options.filter (· ≠ 'n')).getLast?) = some 'e'
    echoLine (.ofEcho v) readsEscapes (!options.contains 'n') (args.dropWhile isEchoOption)

/-! ## Formats -/

/-- What can be wrong with a format or its arguments. -/
inductive Complaint where
  /-- An argument without a number where one is asked for. -/
  | notNumber (argument : Text)
  /-- An argument with more than a number. -/
  | notOnlyNumber (argument : Text)
  | outOfRange (argument : Text)
  /-- A conversion of no known kind; it ends all writing. -/
  | badDirective (directive : Text)
  /-- The format ends within a conversion. -/
  | cutDirective (directive : Text)
  deriving DecidableEq, Repr, Inhabited

namespace Complaint

/-- Whether writing ends there. -/
def isFatal : Complaint → Bool
  | .badDirective _ | .cutDirective _ => true
  | _ => false

/-- What is said. -/
def message (v : Voice) (c : Complaint) : Text :=
  let quoted (t : Text) : Text := '\'' :: t ++ ['\'']
  match v, c with
  | .plain, .notNumber t => t ++ ": expected numeric value".toList
  | .plain, .notOnlyNumber t => t ++ ": not completely converted".toList
  | .plain, .outOfRange t => t ++ ": Numerical result out of range".toList
  | .plain, .badDirective t => t ++ ": invalid directive".toList
  | .plain, .cutDirective _ => "missing format character".toList
  | .extended, .notNumber t | .extended, .notOnlyNumber t => t ++ ": invalid number".toList
  | .extended, .outOfRange t => "warning: ".toList ++ t ++ ": Numerical result out of range".toList
  | .extended, .badDirective t => '\x60' :: t.getLast?.toList ++ "': invalid format character".toList
  | .extended, .cutDirective t => '\x60' :: t ++ "': missing format character".toList
  | .tool, .notNumber t => quoted t ++ ": expected a numeric value".toList
  | .tool, .notOnlyNumber t => quoted t ++ ": value not completely converted".toList
  | .tool, .outOfRange t => quoted t ++ ": Numerical result out of range".toList
  | .tool, .badDirective t | .tool, .cutDirective t => t ++ ": invalid conversion specification".toList

end Complaint

/-- What has been written, what is wrong, and whether writing ends. -/
structure Written where
  text : Text
  complaints : List Complaint
  ends : Bool
  deriving DecidableEq, Repr, Inhabited

namespace Written

/-- Text with nothing wrong. -/
def plain (t : Text) : Written := ⟨t, [], false⟩

/-- The status of a command that has written this. -/
def status (v : Voice) (w : Written) : Nat :=
  if w.complaints = [] then 0
  else if v = .plain ∧ w.complaints.any Complaint.isFatal then 2
  else 1

end Written

/-- A conversion of a format: its flags, its width, its precision and its letter. -/
structure Conversion where
  flags : Text
  width : Option Nat
  precision : Option Nat
  letter : Char
  deriving Repr, Inhabited

/-- The greatest number without a sign. -/
def maxUnsigned : Nat := Arithmetic.wordSize - 1

/-- A sign and what follows it. -/
def takeSign (t : Text) : Bool × Text :=
  match t with
  | '-' :: t => (true, t)
  | '+' :: t => (false, t)
  | t => (false, t)

/-- The number that an argument gives, and what is wrong with it. A quote gives the next character's. -/
def argumentNumber (isSigned : Bool) (arg : Text) : Int × List Complaint :=
  match arg with
  | '"' :: rest | '\'' :: rest => ((rest.head?.map Char.toNat).getD 0, [])
  | [] => (0, [])
  | _ =>
    let (isNegative, t) := takeSign (arg.dropWhile Arithmetic.isSpace)
    if !(t.head?).any Char.isDigit then (0, [.notNumber arg])
    else
      let (n, rest) := Arithmetic.numeral t
      let limit := if isSigned then (if isNegative then Arithmetic.maxNumber + 1 else Arithmetic.maxNumber) else maxUnsigned
      let complaints : List Complaint :=
        if rest ≠ [] then [.notOnlyNumber arg] else if n > limit then [.outOfRange arg] else []
      let m := min n limit
      (if isNegative then (if !isSigned ∧ n > limit then (limit : Int) else -(m : Int)) else m, complaints)

/-- A number of a conversion, given in the format or as an argument. -/
def takeCount (t : Text) (args : List Text) : Option Int × Text × List Text :=
  match t with
  | '*' :: t => (some (argumentNumber true (args.headD [])).1, t, args.tail)
  | _ => ((numeral? (t.takeWhile Char.isDigit)).map Int.ofNat, t.dropWhile Char.isDigit, args)

/-- The conversion that a format goes on with behind a percent sign. -/
def conversion? (v : Voice) (t : Text) (args : List Text) : Option (Conversion × Text × List Text) :=
  let isFlag := fun c => "-+ #0'".toList.contains c
  let flags := t.takeWhile isFlag
  let (width, t, args) := takeCount (t.dropWhile isFlag) args
  let (flags, width) :=
    match width with
    | some w => (if w < 0 then '-' :: flags else flags, some w.natAbs)
    | none => (flags, none)
  let (precision, t, args) :=
    match t with
    | '.' :: t =>
      let (p, t, args) := takeCount t args
      (if p.any (· < 0) then none else some (p.getD 0).toNat, t, args)
    | _ => (none, t, args)
  let t := if v = .plain then t else t.dropWhile fun c => "hlqjztL".toList.contains c && (t.length > 1) &&
    !(v = .extended && c = 'q')
  match t with
  | c :: t => some (⟨flags, width, precision, c⟩, t, args)
  | [] => none

/-- A text brought to the width of a conversion. -/
def pad (c : Conversion) (t : Text) : Text :=
  match c.width with
  | none => t
  | some w =>
    let missing := w - t.length
    if c.flags.contains '-' then t ++ List.replicate missing ' ' else List.replicate missing ' ' ++ t

/-- The sign of a number. -/
def signText (c : Conversion) (isNegative : Bool) : Text :=
  if isNegative then ['-'] else if c.flags.contains '+' then ['+'] else if c.flags.contains ' ' then [' '] else []

/-- A number brought to the width of a conversion, with zeros if it asks for them. -/
def padSigned (c : Conversion) (mayFill : Bool) (sign digits : Text) : Text :=
  if mayFill ∧ c.flags.contains '0' ∧ !c.flags.contains '-' then
    sign ++ List.replicate (c.width.getD 0 - sign.length - digits.length) '0' ++ digits
  else pad c (sign ++ digits)

/-- A whole number brought to the precision and the width of a conversion. -/
def padNumber (c : Conversion) (sign digits : Text) : Text :=
  let digits := if c.precision = some 0 ∧ digits = ['0'] then [] else digits
  let digits := List.replicate (c.precision.getD 1 - digits.length) '0' ++ digits
  padSigned c c.precision.isNone sign digits

/-- The digits of a number without sign, as a conversion's letter asks for them. -/
def unsignedDigits (letter : Char) (n : Nat) : Text :=
  match letter with
  | 'x' => Nat.toDigits 16 n
  | 'X' => (Nat.toDigits 16 n).map Char.toUpper
  | 'o' => Nat.toDigits 8 n
  | _ => Nat.toDigits 10 n

/-- What stands before the digits of a number in the longer form. -/
def baseMark (letter : Char) : Text :=
  match letter with
  | 'x' => ['0', 'x']
  | 'X' => ['0', 'X']
  | _ => []

/-- A real number as a conversion writes it. -/
def realText (c : Conversion) (v : Real.Value) : Text :=
  let digits := Real.format c.letter c.precision (c.flags.contains '#') v
  padSigned c (v matches .exact _) (signText c v.isNegative) digits

/-- A whole number with a sign as a conversion writes it. -/
def signedText (c : Conversion) (n : Int) : Text := padNumber c (signText c (n < 0)) (Text.ofNat n.natAbs)

/-- A whole number without a sign as a conversion writes it. -/
def unsignedText (c : Conversion) (n : Nat) : Text :=
  let digits := unsignedDigits c.letter n
  if c.flags.contains '#' ∧ n ≠ 0 then
    if c.letter = 'o' then padNumber c [] ('0' :: digits)
    else padNumber c (baseMark c.letter) digits
  else padNumber c [] digits

/-- The real number that an argument gives, and what is wrong with it. -/
def argumentReal (arg : Text) : Float × List Complaint :=
  match arg with
  | '"' :: rest | '\'' :: rest => (Float.ofNat ((rest.head?.map Char.toNat).getD 0), [])
  | [] => (0.0, [])
  | _ =>
    match Real.take? arg with
    | some (x, rest) => (x, if rest = [] then [] else [.notOnlyNumber arg])
    | none => (0.0, [.notNumber arg])

/-- Whether a text needs no quotes to be read back as it is. -/
def isSafe (t : Text) : Bool :=
  t ≠ [] && t.all fun c => c.isAlphanum || "%+,-./:=@_".toList.contains c

/-- A text as the extended dialect reads it back. -/
def backslashed (t : Text) : Text :=
  if t = [] then ['\'', '\'']
  else if t.any fun c => c.toNat < 32 || c.toNat ≥ 127 then
    "$'".toList ++ t.flatMap (fun c =>
      match c with
      | '\n' => ['\\', 'n']
      | '\t' => ['\\', 't']
      | '\r' => ['\\', 'r']
      | '\x07' => ['\\', 'a']
      | '\x08' => ['\\', 'b']
      | '\x1b' => ['\\', 'E']
      | '\x0c' => ['\\', 'f']
      | '\x0b' => ['\\', 'v']
      | '\\' => ['\\', '\\']
      | '\'' => ['\\', '\'']
      | c =>
        if c.toNat < 32 ∨ c.toNat ≥ 127 then
          let ds := Nat.toDigits 8 c.toNat
          '\\' :: List.replicate (3 - ds.length) '0' ++ ds
        else [c]) ++ ['\'']
  else t.flatMap fun c =>
    if c.isAlphanum || "%+-./:=@_".toList.contains c then [c] else ['\\', c]

/-- What a conversion makes of an argument. -/
def convert (v : Voice) (c : Conversion) (arg : Text) : Written :=
  let cut (t : Text) : Text :=
    match c.precision with
    | some p => t.take p
    | none => t
  match c.letter with
  | 's' => .plain (pad c (cut arg))
  | 'b' =>
    let (t, ends) := unescapeAll (.ofArgument v) arg
    ⟨pad c (cut t), [], ends⟩
  | 'c' => .plain (pad c (if arg = [] then (if v = .tool then [] else ['\x00']) else arg.take 1))
  | 'd' | 'i' =>
    let (n, complaints) := argumentNumber true arg
    ⟨signedText c n, complaints, false⟩
  | 'u' | 'x' | 'X' | 'o' =>
    let (n, complaints) := argumentNumber false arg
    ⟨unsignedText c (n % Arithmetic.wordSize).toNat, complaints, false⟩
  | 'e' | 'E' | 'f' | 'F' | 'g' | 'G' =>
    let (x, complaints) := argumentReal arg
    ⟨realText c (Real.valueOf x), complaints, false⟩
  | 'q' =>
    if v = .plain then ⟨[], [.badDirective ['%', 'q']], true⟩
    else .plain (pad c (if v = .tool ∧ isSafe arg then arg else backslashed arg))
  | other => ⟨[], [.badDirective ['%', other]], true⟩

/-- A pass over a format, or several of them. -/
structure Pass where
  /-- What has been written, the last part first. -/
  parts : List Text
  complaints : List Complaint
  ends : Bool
  args : List Text
  deriving Inhabited

namespace Pass

/-- Goes on with what is written. -/
def put (p : Pass) (w : Written) : Pass :=
  { p with parts := w.text :: p.parts, complaints := w.complaints.reverse ++ p.complaints, ends := w.ends }

/-- One pass over a format. -/
def once (v : Voice) : Nat → Text → Pass → Pass
  | 0, _, p => p
  | _ + 1, [], p => p
  | n + 1, '%' :: '%' :: t, p => once v n t (p.put (.plain ['%']))
  | n + 1, '%' :: t, p =>
    match conversion? v t p.args with
    | none => p.put ⟨[], [.cutDirective ('%' :: t)], true⟩
    | some (c, t', args) =>
      let p := { p with args := args.tail }
      let w := convert v c (args.headD [])
      let directive := '%' :: t.take (t.length - t'.length)
      let w := { w with complaints := w.complaints.map fun
        | .badDirective _ => .badDirective directive
        | other => other }
      let p := p.put w
      if p.ends then p else once v n t' p
  | n + 1, c :: t, p =>
    let plain := (c :: t).takeWhile (· ≠ '%')
    once v n ((c :: t).drop plain.length) (p.put (.plain plain))

/-- Passes over a format as long as arguments are left. -/
def all (v : Voice) (format : Text) : Nat → Pass → Pass
  | 0, p => p
  | n + 1, p =>
    let q := once v (format.length + 1) format p
    if q.ends ∨ q.args = [] ∨ q.args.length = p.args.length then q else all v format n q

end Pass

/-- What `printf` writes for a format with escapes, and the arguments that nothing asked for. -/
def formatText (v : Voice) (format : Text) (args : List Text) : Written × List Text :=
  let p := Pass.all v (unescapeAll (.ofFormat v) format).1 (args.length + 1) ⟨[], [], false, args⟩
  (⟨p.parts.reverse.flatten, p.complaints.reverse, p.ends⟩, p.args)

end JavacLauncher.Shell
