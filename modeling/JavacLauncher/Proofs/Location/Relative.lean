import JavacLauncher.Proofs.Location.Grammar
import JavacLauncher.Proofs.Path.Composition

/-!
# Paths from the root

A path is brought into its final form in two steps: it is seen from the current directory, unless it
is absolute, and what comes out is normalised. Only the first step needs the current directory, and
its result is a joined path, whose names are followed one after the other. All that is said here of the
two steps together comes from that: what the result is, that it is final, and that a way may be gone
in two parts (`fromRoot_reduces_and_composes`).

For locations one thing has to be added. The text of a relative location may be put behind the
current directory by hand. It begins with a slash then and is read as a plain path whatever stands
in it (`reads_of_isAbsolute`), so it leads where the relative location did. White space in front of
the relative location, which does not count there, would be a part of a name here.
-/

namespace JavacLauncher

/-- The path down from the root to where `p` leads. -/
def Path.fromRoot (currentDir : Except SystemError Path) (p : Path) : Except LaunchError Path :=
  (p.absolute currentDir).map Path.normalize

theorem Path.fromRoot_ok (dir p : Path) : p.fromRoot (.ok dir) = .ok (dir.join p).normalize := by
  unfold Path.fromRoot
  rw [Path.absolute_ok]
  rfl

theorem Path.fromRoot_of_isAbsolute {p : Path} (h : p.IsAbsolute)
    (currentDir : Except SystemError Path) : p.fromRoot currentDir = .ok p.normalize := by
  unfold Path.fromRoot
  rw [Path.absolute_of_isAbsolute h]
  rfl

/-- The pieces of a path seen from a directory, one after the other. -/
theorem Path.normalize_join_eq {dir : Path} (h : dir.IsAbsolute) (p : Path) :
    (dir.join p).normalize = .ofNames (Path.follow []
      (if p.IsAbsolute then p.bytes.splitOn slash
        else dir.bytes.splitOn slash ++ p.bytes.splitOn slash)) := by
  rw [normalize_of_isAbsolute (h.join p), reducedNames_eq_follow]
  split
  · rename_i hp
    rw [join_of_isAbsolute hp, follow_names_eq]
  · rename_i hp
    rw [names_join hp, follow_append, follow_append, follow_names_eq, follow_names_eq]

namespace Location

/-- A location leads down from the root to the path that it is read as. -/
theorem locate_eq_fromRoot (currentDir : Except SystemError Path) (location : Text) :
    locate currentDir location =
      (path? location.trim).bind fun plain => (Path.ofText plain).fromRoot currentDir :=
  locate_eq currentDir location

/-! ## Plain paths behind a directory -/

theorem isAbsolute_ofText_append {d : Text} (h : (Path.ofText d).IsAbsolute) (t : Text) :
    (Path.ofText (d ++ t)).IsAbsolute := by
  obtain ⟨rest, rfl⟩ := Path.exists_of_isAbsolute_ofText h
  rfl

/-- Only at the end of a path below a directory there is white space to be trimmed. -/
theorem trim_below {d : Text} (h : (Path.ofText d).IsAbsolute) (t : Text) :
    Text.trim (d ++ '/' :: t) = d ++ '/' :: t.trimEnd := by
  obtain ⟨rest, rfl⟩ := Path.exists_of_isAbsolute_ofText h
  have hslash : Text.isBlank '/' = false := by decide
  unfold Text.trim
  rw [List.cons_append, Text.trimStart_cons hslash, ← List.cons_append,
    Text.trimEnd_append_cons hslash]

theorem normalize_below {d t : Text} (hd : (Path.ofText d).IsAbsolute)
    (ht : ¬(Path.ofText t).IsAbsolute) :
    (Path.ofText (d ++ '/' :: t)).normalize = ((Path.ofText d).join (.ofText t)).normalize := by
  have hnames : (Path.ofText (d ++ '/' :: t)).names = ((Path.ofText d).join (.ofText t)).names := by
    rw [Path.names_join ht]
    show Path.names ⟨Utf8.encode (d ++ '/' :: t)⟩ = _
    rw [Utf8.encode_append]
    exact Path.names_append_slash _ _
  rw [Path.normalize_of_isAbsolute (isAbsolute_ofText_append hd _),
    Path.normalize_of_isAbsolute (hd.join _), Path.reducedNames_eq_follow, hnames,
    ← Path.reducedNames_eq_follow]

/-- A relative path behind its directory leads from anywhere to where it leads from there. -/
theorem locate_below {d t : Text} (hd : (Path.ofText d).IsAbsolute)
    (ht : ¬(Path.ofText t.trimEnd).IsAbsolute) (currentDir : Except SystemError Path) :
    locate currentDir (d ++ '/' :: t) =
      .ok ((Path.ofText d).join (.ofText t.trimEnd)).normalize := by
  have habsolute := isAbsolute_ofText_append hd ('/' :: t.trimEnd)
  rw [locate_eq_fromRoot, trim_below hd, path?_eq_of_reads (reads_of_isAbsolute habsolute)]
  show (Path.ofText (d ++ '/' :: t.trimEnd)).fromRoot currentDir = _
  rw [Path.fromRoot_of_isAbsolute habsolute, normalize_below hd ht]

/-- **A path leads along its pieces, and to the same place in one part or in two.** The place is
absolute, reduced and final, and going up ends at the root. A relative location that is taken as
a path leads where the path behind the current directory does. -/
theorem fromRoot_reduces_and_composes {dir : Path} (hdir : dir.IsAbsolute) :
    (∀ p : Path, ∃ q, p.fromRoot (.ok dir) = .ok q ∧
      q = .ofNames (Path.follow []
        (if p.IsAbsolute then p.bytes.splitOn Path.slash
          else dir.bytes.splitOn Path.slash ++ p.bytes.splitOn Path.slash)) ∧
      (∀ q', (dir.join p).IsNormalForm q' ↔ q' = q) ∧
      q.IsAbsolute ∧ q.IsReduced ∧ ∀ currentDir, q.fromRoot currentDir = .ok q) ∧
    (∀ n, (Path.up n).fromRoot (.ok dir) =
      .ok (.ofNames (dir.reducedNames.take (dir.reducedNames.length - n)))) ∧
    (∀ (base base' rel : Path) (currentDir : Except SystemError Path),
      base.IsAbsolute → ¬rel.IsAbsolute → base.fromRoot currentDir = .ok base' →
      ∀ currentDir', (base.join rel).fromRoot currentDir' = (base'.join rel).fromRoot currentDir') ∧
    ∀ d location t : Text, Path.ofText d = dir → location.trim = t →
      Reads t (.ok t) → ¬(Path.ofText t).IsAbsolute →
      ∃ archive, locate (.ok dir) location = .ok archive ∧
        (∀ currentDir, locate currentDir (d ++ '/' :: t) = .ok archive) ∧
        (location.trimStart = location →
          ∀ currentDir, locate currentDir (d ++ '/' :: location) = .ok archive) := by
  refine ⟨?_, ?_, ?_, ?_⟩
  · intro p
    have habsolute := hdir.join p
    have hnormal := Path.isAbsolute_normalize habsolute
    have hreduced := Path.isReduced_normalize habsolute
    refine ⟨_, Path.fromRoot_ok dir p, Path.normalize_join_eq hdir p,
      fun q' => Path.isNormalForm_iff habsolute, hnormal, hreduced, ?_⟩
    intro currentDir
    rw [Path.fromRoot_of_isAbsolute hnormal, (Path.normalize_eq_self_iff hnormal).mpr hreduced]
  · intro n
    rw [Path.fromRoot_ok, Path.normalize_join_up hdir]
  · intro base base' rel currentDir hbase hrel hbase' currentDir'
    rw [Path.fromRoot_of_isAbsolute hbase] at hbase'
    obtain rfl := Except.ok.inj hbase'
    rw [Path.fromRoot_of_isAbsolute (hbase.join rel),
      Path.fromRoot_of_isAbsolute ((Path.isAbsolute_normalize hbase).join rel),
      Path.normalize_join_normalize hbase hrel]
  · rintro d location t rfl ht hplain hrel
    have htrimmed : Text.IsTrimmed t := ht ▸ Text.isTrimmed_trim location
    have hstart : location.trimStart.trimEnd = t := ht
    have hend : t.trimEnd = t := by
      have hself := Text.trim_eq_self_iff.mpr htrimmed
      unfold Text.trim at hself
      rwa [htrimmed.trimStart_eq] at hself
    refine ⟨((Path.ofText d).join (.ofText t)).normalize, ?_, ?_, ?_⟩
    · rw [locate_ok_eq, ht, path?_eq_of_reads hplain]
      rfl
    · intro currentDir
      rw [locate_below hdir (by rwa [hend]), hend]
    · intro hnone currentDir
      rw [hnone] at hstart
      rw [locate_below hdir (by rwa [hstart]), hstart]

/-- More `..` than there are directories, on a way in one part and in two, and a location with
white space behind it. -/
theorem fromRoot_reduces_and_composes_up :
    let dir := Path.ofString "/home/./user//lib/"
    (Path.ofString "../../../../../opt/.//x").fromRoot (.ok dir) = .ok (.ofString "/opt/x") ∧
    (Path.ofString "/a/../..").fromRoot (.error .noEntry) = .ok (.ofString "/") ∧
    (∀ currentDir, ((Path.ofString "/a/../..").join (.ofString "../b")).fromRoot currentDir =
      ((Path.ofString "/").join (.ofString "../b")).fromRoot currentDir) ∧
    ∃ archive, locate (.ok dir) "../x!%41.jar\n".toList = .ok archive ∧
      locate (.error .noEntry) ("/home/./user//lib/".toList ++ '/' :: "../x!%41.jar\n".toList) =
        .ok archive := by
  intro dir
  have hdir : dir.IsAbsolute := by decide
  have hplain : Reads "../x!%41.jar".toList (.ok "../x!%41.jar".toList) := path?_eq_iff.mp rfl
  have hbase : (Path.ofString "/a/../..").fromRoot (.error .noEntry) = .ok (.ofString "/") := rfl
  obtain ⟨hplaces, _, hcompose, hlocate⟩ := fromRoot_reduces_and_composes hdir
  obtain ⟨place, hplace, hfollow, _⟩ := hplaces (.ofString "../../../../../opt/.//x")
  have hopt : place = .ofString "/opt/x" := hfollow.trans (by decide)
  obtain ⟨archive, hrelative, _, habsolute⟩ :=
    hlocate "/home/./user//lib/".toList "../x!%41.jar\n".toList _ rfl (by decide) hplain (by decide)
  exact ⟨hopt ▸ hplace, hbase, hcompose _ _ _ _ (by decide) (by decide) hbase,
    archive, hrelative, habsolute (by decide) _⟩

end Location

end JavacLauncher
