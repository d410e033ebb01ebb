import JavacLauncher.Proofs.Arguments.Classpath
import JavacLauncher.Proofs.Arguments.Extraction

/-!
# One pass instead of three

The arguments are sorted in three passes, each over what the one before has left. A token for
the runtime between a class path flag and its value is gone before the third pass looks one
token ahead, and this is why the order of the passes matters.

`Pass` does the same in a single pass from left to right. It needs one register, the flag that
still waits for its value: tokens for the runtime do not touch it, and the next token of any
other kind is the value. The inherited class path is not looked at before the end.

The proof is by simulation. `resume` is what the three passes would still make of the tokens
to come, with the waiting flag in front of them. A step of the single pass does not change it
(`resume_step`), and when the tokens are used up it is the result (`resume_nil`).
-/

namespace JavacLauncher.Arguments

/-- The two spellings of the flag that announces a class path. -/
inductive ClasspathFlag where
  | short
  | long
  deriving DecidableEq, Repr

/-- The token that is the flag. -/
def ClasspathFlag.token : ClasspathFlag → Bytes
  | .short => Bytes.ofString "-cp"
  | .long => Bytes.ofString "-classpath"

/-- The flag that a token is, if it is one. -/
def ClasspathFlag.ofToken? (token : Bytes) : Option ClasspathFlag :=
  if token = ClasspathFlag.short.token then some .short
  else if token = ClasspathFlag.long.token then some .long
  else none

theorem ClasspathFlag.token_mem (flag : ClasspathFlag) : flag.token ∈ classpathFlags := by
  cases flag with
  | short => exact List.mem_cons_self
  | long => exact List.mem_cons_of_mem _ List.mem_cons_self

theorem ClasspathFlag.ofToken?_eq_some {token : Bytes} {flag : ClasspathFlag}
    (h : ofToken? token = some flag) : flag.token = token := by
  unfold ofToken? at h
  split at h
  · rename_i hshort
    rw [← Option.some.inj h, hshort]
  · split at h
    · rename_i _ hlong
      rw [← Option.some.inj h, hlong]
    · cases h

theorem ClasspathFlag.ofToken?_eq_none {token : Bytes} (h : ofToken? token = none) :
    token ∉ classpathFlags := by
  unfold ofToken? at h
  split at h
  · cases h
  · split at h
    · cases h
    · rename_i hshort hlong
      intro hmem
      rcases List.mem_cons.mp hmem with hcp | hrest
      · exact hshort hcp
      · exact hlong (List.mem_singleton.mp hrest)

/-- How far a single pass has come. -/
structure Pass where
  /-- Entries for the boot class path so far. -/
  bootClasspath : List Text
  /-- Options for the runtime so far. -/
  jvmOptions : List Text
  /-- The last value that a class path flag had. -/
  value? : Option Bytes
  /-- The class path flag that waits for its value. -/
  pending? : Option ClasspathFlag
  /-- What the compiler gets so far. -/
  toolOptions : List Bytes

namespace Pass

/-- Before the first token. -/
def start : Pass := ⟨[], [], none, none, []⟩

/-- A token that no rule takes is a value if a flag waits for one, else a flag or for the compiler. -/
def takePlain (s : Pass) (token : Bytes) : Pass :=
  match s.pending? with
  | some _ => { s with value? := some token, pending? := none }
  | none =>
    match ClasspathFlag.ofToken? token with
    | some flag => { s with pending? := some flag }
    | none => { s with toolOptions := s.toolOptions ++ [token] }

/-- One token. -/
def step (s : Pass) (token : Bytes) : Pass :=
  match kind token with
  | .boot entry => { s with bootClasspath := s.bootClasspath ++ kept entry }
  | .runtime option => { s with jvmOptions := s.jvmOptions ++ kept option }
  | .plain => s.takePlain token

/-- All tokens, from left to right. -/
def run (tokens : List Bytes) : Pass := tokens.foldl step start

/-- The flag that waits, as a token again. -/
def pendingTokens (s : Pass) : List Bytes := s.pending?.toList.map ClasspathFlag.token

/-- The arguments after the last token. A flag that still waits is the compiler's to complain about. -/
def finish (inherited? : Option Bytes) (s : Pass) : Arguments where
  bootClasspath := s.bootClasspath
  jvmOptions := s.jvmOptions
  classpath :=
    match s.value? with
    | some value => [value]
    | none => inherited?.toList ++ [Bytes.ofString "."]
  toolOptions := s.toolOptions ++ s.pendingTokens

/-! ## What the three passes would still do -/

/-- The arguments that the three passes make of `tokens` after a single pass has come to `s`. -/
def resume (inherited? : Option Bytes) (s : Pass) (tokens : List Bytes) : Arguments :=
  let left := takeClasspath (s.pendingTokens ++ plainTokens tokens)
  { bootClasspath := s.bootClasspath ++ (bootEntries tokens).flatMap kept
    jvmOptions := s.jvmOptions ++ (runtimeOptions tokens).flatMap kept
    classpath := (left.1.or s.value?).elim (defaultClasspath inherited?) ([·])
    toolOptions := s.toolOptions ++ left.2 }

theorem resume_start (inherited? : Option Bytes) (tokens : List Bytes) :
    start.resume inherited? tokens = ofTokens inherited? tokens := by
  rw [ofTokens_eq]
  unfold resume start pendingTokens
  simp

/-- With no token to come, the single pass is at its end. -/
theorem resume_nil (inherited? : Option Bytes) (s : Pass) :
    s.resume inherited? [] = s.finish inherited? := by
  have hleft : takeClasspath (s.pendingTokens ++ plainTokens []) = (none, s.pendingTokens) := by
    unfold pendingTokens
    cases s.pending? <;> rfl
  unfold resume finish
  rw [hleft]
  cases s.value? <;> simp [bootEntries, runtimeOptions, defaultClasspath]

/-- A token that no rule takes: the register stands for the look-ahead. -/
theorem resume_takePlain (inherited? : Option Bytes) (s : Pass) {token : Bytes}
    (hkind : kind token = .plain) (tokens : List Bytes) :
    (s.takePlain token).resume inherited? tokens = s.resume inherited? (token :: tokens) := by
  have hboot : bootEntries (token :: tokens) = bootEntries tokens := by
    rw [bootEntries_cons, hkind]
    rfl
  have hjvm : runtimeOptions (token :: tokens) = runtimeOptions tokens := by
    rw [runtimeOptions_cons, hkind]
    rfl
  have hplain : plainTokens (token :: tokens) = token :: plainTokens tokens := by
    rw [plainTokens_cons, if_pos hkind]
  obtain ⟨boot, jvm, value?, pending?, tool⟩ := s
  unfold resume
  rw [hboot, hjvm, hplain]
  cases pending? with
  | some flag =>
    -- the flag in front has found its value
    have hleft := takeClasspath_flag flag.token_mem token (plainTokens tokens)
    simp [takePlain, pendingTokens, hleft, Option.or_some]
  | none =>
    cases hflag : ClasspathFlag.ofToken? token with
    | some flag =>
      have htoken := ClasspathFlag.ofToken?_eq_some hflag
      simp [takePlain, pendingTokens, hflag, htoken]
    | none =>
      have hleft := takeClasspath_of_not_flag (ClasspathFlag.ofToken?_eq_none hflag)
        (plainTokens tokens)
      simp [takePlain, pendingTokens, hflag, hleft]

/-- **A step changes nothing of what the passes come to.** -/
theorem resume_step (inherited? : Option Bytes) (s : Pass) (token : Bytes) (tokens : List Bytes) :
    (s.step token).resume inherited? tokens = s.resume inherited? (token :: tokens) := by
  unfold step
  cases hkind : kind token with
  -- the register stays, and so does what is left for the third pass
  | boot _ | runtime _ =>
    unfold resume pendingTokens
    rw [plainTokens_cons, bootEntries_cons, runtimeOptions_cons, hkind]
    simp [Kind.boot?, Kind.runtime?]
  | plain => exact resume_takePlain inherited? s hkind tokens

theorem resume_foldl_step (inherited? : Option Bytes) (s : Pass) (tokens : List Bytes) :
    (tokens.foldl step s).finish inherited? = s.resume inherited? tokens := by
  induction tokens generalizing s with
  | nil => exact (resume_nil inherited? s).symm
  | cons token tokens ih => rw [List.foldl_cons, ih, resume_step]

end Pass

/-- **One pass with one register is enough.** -/
theorem ofTokens_eq_finish_run (inherited? : Option Bytes) (tokens : List Bytes) :
    ofTokens inherited? tokens = (Pass.run tokens).finish inherited? := by
  rw [Pass.run, Pass.resume_foldl_step, Pass.resume_start]

-- the value of the first flag stands behind a runtime option, and the second flag has none
example :
    (Pass.run (["-cp", "-J-ea", "a.jar", "-classpath"].map Bytes.ofString)).finish none =
      ⟨[], ["-ea".toList], [Bytes.ofString "a.jar"], [Bytes.ofString "-classpath"]⟩ := by decide

end JavacLauncher.Arguments
