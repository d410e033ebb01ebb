import JavacLauncher.Proofs.Location.Address
import JavacLauncher.Proofs.Path.Absolute

/-!
# The grammar of locations

A location is tried against one beginning after the other, and the beginnings overlap: `file:` and
`jar:` are schemes, `jar:file:` begins with one, and a single letter in front of a colon is none. The
order of the tests decides, so it is worth saying without an order what a location is. `Reads` has one
rule for each kind, and every rule names what the others leave to it.

The rules are complete (`reads_path?`) and exclude each other (`path?_eq_of_reads`), so a location is
read exactly as the rules say (`path?_eq_iff`). The one argument in this is about colons. A scheme has
none, so the text in front of the first colon is the only one that can be a scheme
(`scheme?_eq_some_iff`), and an absolute path, whose first character is no letter, has none whatever
stands further on (`reads_of_isAbsolute`).
-/

namespace JavacLauncher

/-- The text of an absolute path begins with a slash. -/
theorem Path.exists_of_isAbsolute_ofText {t : Text} (h : (Path.ofText t).IsAbsolute) :
    ∃ rest, t = '/' :: rest := by
  have hbytes : Utf8.encode ['/'] <+: Utf8.encode t := by
    obtain ⟨rest, hrest⟩ := List.head?_eq_some_iff.mp h
    exact ⟨rest, hrest.symm⟩
  obtain ⟨rest, hrest⟩ := Utf8.encode_prefix_encode_iff.mp hbytes
  exact ⟨rest, hrest.symm⟩

namespace Location

/-! ## Schemes -/

/-- A scheme: a letter of ASCII, and behind it at least one more letter, digit or sign. -/
structure IsScheme (s : Text) : Prop where
  length : 2 ≤ s.length
  first : ∀ c ∈ s.head?, c.isAlpha = true
  all : ∀ c ∈ s, c.isAlphanum = true ∨ c = '+' ∨ c = '-' ∨ c = '.'

theorem IsScheme.colon_notMem {s : Text} (h : IsScheme s) : ':' ∉ s := by
  intro hcolon
  exact absurd (h.all ':' hcolon) (by decide)

/-- A location that begins with a scheme and a colon. -/
def HasScheme (scheme t : Text) : Prop := IsScheme scheme ∧ ∃ rest, t = scheme ++ ':' :: rest

theorem isScheme_cons_cons_iff {first second : Char} {more : Text} :
    IsScheme (first :: second :: more) ↔ first.isAlpha = true ∧
      (second :: more).all (fun c => c.isAlphanum || c = '+' || c = '-' || c = '.') = true := by
  simp only [List.all_eq_true, Bool.or_eq_true, decide_eq_true_eq, or_assoc]
  constructor
  · intro h
    exact ⟨h.first first rfl, fun c hc => h.all c (List.mem_cons_of_mem _ hc)⟩
  · rintro ⟨hfirst, hall⟩
    refine ⟨Nat.le_add_left 2 _, ?_, ?_⟩
    · intro c hc
      obtain rfl := Option.some.inj hc
      exact hfirst
    · intro c hc
      rcases List.mem_cons.mp hc with rfl | hc
      · exact Or.inl (by rw [Char.isAlphanum, hfirst, Bool.true_or])
      · exact hall c hc

/-- The scheme of a location is what stands in front of its first colon. -/
theorem scheme?_eq_some_iff {t scheme : Text} : scheme? t = some scheme ↔ HasScheme scheme t := by
  unfold scheme?
  constructor
  · intro h
    split at h
    · rename_i first second more rest hcut
      split at h
      · rename_i hscheme
        obtain rfl := Option.some.inj h
        exact ⟨isScheme_cons_cons_iff.mpr hscheme, rest, (cut?_eq_some_iff.mp hcut).1⟩
      · cases h
    · cases h
  · rintro ⟨hscheme, rest, rfl⟩
    have hcut : cut? ':' (scheme ++ ':' :: rest) = some (scheme, rest) :=
      cut?_eq_some_iff.mpr ⟨rfl, hscheme.colon_notMem⟩
    rw [hcut]
    match scheme, hscheme with
    | [], h => exact absurd h.length (by decide)
    | [_], h => exact absurd h.length (by simp)
    | first :: second :: more, h =>
      dsimp only
      rw [if_pos (isScheme_cons_cons_iff.mp h)]

theorem scheme?_eq_none_iff {t : Text} : scheme? t = none ↔ ∀ scheme, ¬HasScheme scheme t := by
  rw [Option.eq_none_iff_forall_ne_some]
  exact forall_congr' fun scheme => not_congr scheme?_eq_some_iff

/-! ## Addresses -/

/-- The address of an entry in the archive with the path `plain`, which ends at the first `!`. -/
def IsAddressOf (plain t : Text) : Prop :=
  ∃ written entry, t = address written entry ∧ '!' ∉ written ∧
    Escapes (Utf8.encode plain) (Utf8.encode written)

/-- What the reading of an address looks for between its beginning and the first `!`. -/
theorem bind_percentDecode?_eq_some_iff {rest plain : Text} :
    ((cut? '!' rest).bind fun parts => percentDecode? parts.1) = some plain ↔
      IsAddressOf plain ("jar:file:".toList ++ rest) := by
  unfold IsAddressOf address
  simp only [Option.bind_eq_some_iff, Prod.exists, cut?_eq_some_iff, percentDecode?_eq_some_iff,
    List.append_cancel_left_eq, and_assoc]

/-! ## Kinds of locations -/

/-- Texts with different first characters do not begin with each other. -/
theorem not_prefix_of_head?_ne {start t : Text} {c : Char} (hstart : start.head? = some c)
    (ht : t.head? ≠ some c) : ¬start <+: t := by
  rintro ⟨rest, rfl⟩
  rw [List.head?_append, hstart] at ht
  exact ht rfl

/-- What a location without white space around it is read as: a path, or the reason why it is
refused. -/
inductive Reads : Text → Except LaunchError Text → Prop where
  | nothing : Reads [] (.error (.unrecognizedLocation []))
  | directory {t : Text} : "file:".toList <+: t → Reads t (.error .loadedFromDirectory)
  | address {t plain : Text} : IsAddressOf plain t → Reads t (.ok plain)
  /-- The beginning of an address without a mark, or with a path that cannot be decoded. -/
  | malformed {t : Text} : "jar:file:".toList <+: t → (∀ plain, ¬IsAddressOf plain t) →
      Reads t (.error (.unrecognizedLocation t))
  | remote {t scheme : Text} : ¬"file:".toList <+: t → ¬"jar:file:".toList <+: t →
      HasScheme scheme t → Reads t (.error (.loadedRemotely scheme))
  /-- A plain path is taken as it is. -/
  | plain {t : Text} : t ≠ [] → ¬"file:".toList <+: t → ¬"jar:file:".toList <+: t →
      (∀ scheme, ¬HasScheme scheme t) → Reads t (.ok t)

theorem isSome_after?_iff {start t : Text} : (after? start t).isSome = true ↔ start <+: t := by
  rw [Option.isSome_iff_exists]
  exact exists_congr fun rest => after?_eq_some_iff.trans eq_comm

theorem after?_eq_none_iff {start t : Text} : after? start t = none ↔ ¬start <+: t := by
  rw [← isSome_after?_iff, Option.not_isSome_iff_eq_none]

/-- Every location is of one of the kinds, and is read as what the kind says. -/
theorem reads_path? (t : Text) : Reads t (path? t) := by
  -- each test that fails gives the later kinds one of their conditions
  unfold path?
  split
  · rename_i hnil
    rw [hnil]
    exact .nothing
  · rename_i hne
    split
    · rename_i hfile
      exact .directory (isSome_after?_iff.mp hfile)
    · rename_i hfile
      rw [isSome_after?_iff] at hfile
      split
      · rename_i rest hrest
        obtain rfl := after?_eq_some_iff.mp hrest
        split
        · rename_i plain hplain
          exact .address (bind_percentDecode?_eq_some_iff.mp hplain)
        · rename_i hnone
          refine .malformed (List.prefix_append _ _) fun plain hplain => ?_
          rw [bind_percentDecode?_eq_some_iff.mpr hplain] at hnone
          cases hnone
      · rename_i hjar
        rw [after?_eq_none_iff] at hjar
        split
        · rename_i scheme hscheme
          exact .remote hfile hjar (scheme?_eq_some_iff.mp hscheme)
        · rename_i hscheme
          exact .plain hne hfile hjar (scheme?_eq_none_iff.mp hscheme)

theorem path?_of_otherStart {t : Text} (hne : t ≠ []) (hfile : ¬"file:".toList <+: t)
    (hjar : ¬"jar:file:".toList <+: t) :
    path? t = (scheme? t).elim (.ok t) fun scheme => .error (.loadedRemotely scheme) := by
  unfold path?
  rw [if_neg hne, if_neg (fun h => hfile (isSome_after?_iff.mp h)), after?_eq_none_iff.mpr hjar]
  cases scheme? t with
  | none => rfl
  | some scheme => rfl

/-- No location is of two kinds. -/
theorem path?_eq_of_reads {t : Text} {reading : Except LaunchError Text} (h : Reads t reading) :
    path? t = reading := by
  cases h with
  | nothing => rfl
  | directory hfile =>
    have hne : t ≠ [] := by
      rintro rfl
      exact absurd (List.prefix_nil.mp hfile) (by decide)
    unfold path?
    rw [if_neg hne, if_pos (isSome_after?_iff.mpr hfile)]
  | address haddress =>
    obtain ⟨written, entry, rfl, hbang, hwritten⟩ := haddress
    exact path?_address (percentDecode?_eq_some_iff.mpr hwritten) hbang entry
  | malformed hjar hnone =>
    obtain ⟨rest, rfl⟩ := hjar
    have hdecode : ((cut? '!' rest).bind fun parts => percentDecode? parts.1) = none := by
      rw [Option.eq_none_iff_forall_ne_some]
      intro plain hplain
      exact hnone plain (bind_percentDecode?_eq_some_iff.mp hplain)
    have hne : "jar:file:".toList ++ rest ≠ [] := List.cons_ne_nil _ _
    have hfile : after? "file:".toList ("jar:file:".toList ++ rest) = none := rfl
    have hrest : after? "jar:file:".toList ("jar:file:".toList ++ rest) = some rest :=
      after?_eq_some_iff.mpr rfl
    unfold path?
    rw [if_neg hne, hfile, Option.isSome_none, if_neg Bool.false_ne_true, hrest]
    dsimp only
    rw [hdecode]
  | remote hfile hjar hscheme =>
    have hne : t ≠ [] := by
      rintro rfl
      obtain ⟨rest, hrest⟩ := hscheme.2
      simp at hrest
    rw [path?_of_otherStart hne hfile hjar, scheme?_eq_some_iff.mpr hscheme, Option.elim_some]
  | plain hne hfile hjar hscheme =>
    rw [path?_of_otherStart hne hfile hjar, scheme?_eq_none_iff.mpr hscheme, Option.elim_none]

theorem path?_eq_iff {t : Text} {reading : Except LaunchError Text} :
    path? t = reading ↔ Reads t reading := by
  constructor
  · rintro rfl
    exact reads_path? t
  · exact path?_eq_of_reads

/-- A location is read as a path exactly if it is an address or has no scheme. -/
theorem exists_reads_ok_iff {t : Text} :
    (∃ plain, Reads t (.ok plain)) ↔ t ≠ [] ∧ ¬"file:".toList <+: t ∧
      ((∃ plain, IsAddressOf plain t) ∨
        ¬"jar:file:".toList <+: t ∧ ∀ scheme, ¬HasScheme scheme t) := by
  constructor
  · rintro ⟨plain, h⟩
    cases h with
    | address haddress =>
      refine ⟨?_, ?_, Or.inl ⟨plain, haddress⟩⟩
      all_goals obtain ⟨written, entry, rfl, _⟩ := haddress
      · exact List.cons_ne_nil _ _
      · exact not_prefix_of_head?_ne rfl fun h => absurd (Option.some.inj h) (by decide)
    | plain hne hfile hjar hscheme => exact ⟨hne, hfile, Or.inr ⟨hjar, hscheme⟩⟩
  · rintro ⟨hne, hfile, ⟨plain, haddress⟩ | ⟨hjar, hscheme⟩⟩
    · exact ⟨plain, .address haddress⟩
    · exact ⟨t, .plain hne hfile hjar hscheme⟩

/-- An absolute path is a plain path, whatever colons and marks it holds. -/
theorem reads_of_isAbsolute {t : Text} (h : (Path.ofText t).IsAbsolute) : Reads t (.ok t) := by
  obtain ⟨rest, rfl⟩ := Path.exists_of_isAbsolute_ofText h
  refine .plain (List.cons_ne_nil _ _) ?_ ?_ ?_
  · exact not_prefix_of_head?_ne rfl fun h => absurd (Option.some.inj h) (by decide)
  · exact not_prefix_of_head?_ne rfl fun h => absurd (Option.some.inj h) (by decide)
  · rintro scheme ⟨hscheme, more, hmore⟩
    cases scheme with
    | nil => exact absurd hscheme.length (by decide)
    | cons first letters =>
      obtain ⟨rfl, _⟩ := List.cons.inj hmore
      exact absurd (hscheme.first '/' rfl) (by decide)

/-! ## Locating -/

/-- What a location is read as is seen from the current directory and brought into normal form. -/
theorem locate_eq (currentDir : Except SystemError Path) (location : Text) :
    locate currentDir location = (path? location.trim).bind fun plain =>
      ((Path.ofText plain).absolute currentDir).map Path.normalize := by
  unfold locate
  cases path? location.trim with
  | error e => rfl
  | ok plain =>
    show (do return (← (Path.ofText plain).absolute currentDir).normalize) =
      ((Path.ofText plain).absolute currentDir).map Path.normalize
    cases (Path.ofText plain).absolute currentDir <;> rfl

theorem locate_ok_eq (dir : Path) (location : Text) :
    locate (.ok dir) location =
      (path? location.trim).map fun plain => (dir.join (.ofText plain)).normalize := by
  rw [locate_eq]
  simp only [Path.absolute_ok]
  cases path? location.trim <;> rfl

/-- **A location leads to an archive exactly if it is in the grammar**, and each way to be outside
has its own error. A plain path is taken literally. -/
theorem locate_grammar (dir : Path) {location t : Text} (ht : location.trim = t) :
    ((∃ path, locate (.ok dir) location = .ok path) ↔
      t ≠ [] ∧ ¬"file:".toList <+: t ∧
        ((∃ plain, IsAddressOf plain t) ∨
          ¬"jar:file:".toList <+: t ∧ ∀ scheme, ¬HasScheme scheme t)) ∧
    (∀ path, locate (.ok dir) location = .ok path ↔
      ∃ plain, Reads t (.ok plain) ∧ (dir.join (.ofText plain)).normalize = path) ∧
    (∀ e, locate (.ok dir) location = .error e ↔ Reads t (.error e)) ∧
    ((Path.ofText t).IsAbsolute → ∀ currentDir : Except SystemError Path,
      locate currentDir location = .ok (Path.ofText t).normalize) := by
  have hok : ∀ path, locate (.ok dir) location = .ok path ↔
      ∃ plain, Reads t (.ok plain) ∧ (dir.join (.ofText plain)).normalize = path := by
    intro path
    rw [locate_ok_eq, ht]
    simp only [← path?_eq_iff]
    cases path? t <;> simp [Except.map]
  refine ⟨?_, hok, ?_, ?_⟩
  · simp only [hok, ← exists_reads_ok_iff]
    constructor
    · rintro ⟨_, plain, hplain, _⟩
      exact ⟨plain, hplain⟩
    · rintro ⟨plain, hplain⟩
      exact ⟨_, plain, hplain, rfl⟩
  · intro e
    rw [locate_ok_eq, ht, ← path?_eq_iff]
    cases path? t <;> simp [Except.map]
  · intro habsolute currentDir
    have hplain : path? t = .ok t := path?_eq_of_reads (reads_of_isAbsolute habsolute)
    rw [locate_eq, ht, hplain]
    exact congrArg (Except.map Path.normalize) (Path.absolute_of_isAbsolute habsolute currentDir)

/-- A path with a colon, a mark and an escape, a drive without a directory, and the address of an
archive elsewhere. -/
theorem locate_grammar_colons :
    let dir := Path.ofString "/home/user"
    locate (.ok dir) " /opt/a:b!c%41/x.jar\n".toList = .ok (.ofString "/opt/a:b!c%41/x.jar") ∧
    locate (.ok dir) "c:x.jar".toList = .ok (.ofString "/home/user/c:x.jar") ∧
    locate (.ok dir) "jar:http://host/x.jar!/".toList = .error (.loadedRemotely "jar".toList) := by
  intro dir
  have hpath : Text.trim " /opt/a:b!c%41/x.jar\n".toList = "/opt/a:b!c%41/x.jar".toList := by decide
  have hdrive : Text.trim "c:x.jar".toList = "c:x.jar".toList := by decide
  have hremote : Text.trim "jar:http://host/x.jar!/".toList = "jar:http://host/x.jar!/".toList := by
    decide
  have habsolute : (Path.ofString "/opt/a:b!c%41/x.jar").IsAbsolute := by decide
  have hplain : Reads "c:x.jar".toList (.ok "c:x.jar".toList) := path?_eq_iff.mp rfl
  have hscheme : Reads "jar:http://host/x.jar!/".toList (.error (.loadedRemotely "jar".toList)) :=
    path?_eq_iff.mp rfl
  obtain ⟨_, _, _, hliteral⟩ := locate_grammar dir hpath
  obtain ⟨_, hok, _, _⟩ := locate_grammar dir hdrive
  obtain ⟨_, _, herror, _⟩ := locate_grammar dir hremote
  have hnormal : (Path.ofString "/opt/a:b!c%41/x.jar").normalize = .ofString "/opt/a:b!c%41/x.jar" := by
    decide
  refine ⟨?_, (hok _).mpr ⟨_, hplain, by decide⟩, (herror _).mpr hscheme⟩
  exact (hliteral habsolute _).trans (congrArg Except.ok hnormal)

end Location

end JavacLauncher
