import JavacLauncher.Proofs.Path.Composition
import Mathlib.Data.List.DropRight

/-!
# The directory of a path

`parent?` takes the last piece away that leads somewhere, and what leads nowhere on both sides of it.
It does not look at the pieces in front: `/a/b/../c` ends in `/a/b/..`, although its normal form ends
in `/a`.

What this comes to is said of the pieces between the slashes. Those of the path are those of the
directory and one more, with pieces that lead nowhere around it (`EndsIn`), and there is at most one such
directory (`parent?_eq_some_iff`). The root is a case of its own, because it has a slash at its end and
is written by it.

A reduced path is a way down along names (`exists_ofNames`). It ends in the way along all names but the
last one (`endsIn_ofNames`), and joining puts the last one behind again, with one slash between them
whether the directory is the root or not (`join_ofNames`).
-/

namespace JavacLauncher

namespace Path

/-! ## Pieces that lead nowhere -/

/-- Nothing, or the name of the directory itself. -/
def IsIdle (piece : Bytes) : Prop := piece = [] ∨ piece = dot

instance (piece : Bytes) : Decidable (IsIdle piece) := inferInstanceAs (Decidable (_ ∨ _))

/-- The last of the pieces leads somewhere, if there is one. -/
def IsTight (pieces : List Bytes) : Prop := ∀ hne : pieces ≠ [], ¬IsIdle (pieces.getLast hne)

theorem isIdle_iff {piece : Bytes} : isIdle piece = true ↔ IsIdle piece := decide_eq_true_iff

theorem isTight_concat {pieces : List Bytes} {name : Bytes} (h : ¬IsIdle name) :
    IsTight (pieces ++ [name]) := by
  intro hne
  rwa [List.getLast_concat]

/-- **What is left is tight, and what goes leads nowhere.** -/
theorem dropIdle_eq_iff {pieces kept : List Bytes} :
    dropIdle pieces = kept ↔ IsTight kept ∧ ∃ tail, (∀ piece ∈ tail, IsIdle piece) ∧
      pieces = kept ++ tail := by
  have hdrop : dropIdle pieces = pieces.rdropWhile isIdle := rfl
  rw [hdrop]
  constructor
  · rintro rfl
    refine ⟨fun hne => mt isIdle_iff.mpr (List.rdropWhile_last_not isIdle pieces hne),
      pieces.rtakeWhile isIdle, fun piece hpiece => ?_, (List.rdropWhile_append_rtakeWhile ..).symm⟩
    exact isIdle_iff.mp (List.mem_rtakeWhile_imp hpiece)
  · rintro ⟨htight, tail, htail, rfl⟩
    clear hdrop
    induction tail using List.reverseRecOn with
    | nil =>
      rw [List.append_nil, List.rdropWhile_eq_self_iff]
      exact fun hne => mt isIdle_iff.mp (htight hne)
    | append_singleton tail piece ih =>
      have hpiece := htail piece (List.mem_append_right _ (List.mem_singleton_self piece))
      rw [← List.append_assoc, List.rdropWhile_concat_pos _ _ _ (isIdle_iff.mpr hpiece)]
      exact ih fun other hother => htail other (List.mem_append_left _ hother)

/-! ## The directory -/

/-- The directory in which the path `p` ends: in front of its last piece that leads somewhere. -/
inductive EndsIn (p : Path) : Path → Prop where
  /-- A piece alone is seen from where the path begins. -/
  | alone {name : Bytes} {tail : List Bytes} :
      p.bytes.splitOn slash = name :: tail → name ≠ [] → (∀ piece ∈ tail, IsIdle piece) →
      EndsIn p ⟨[]⟩
  /-- Before the first slash of an absolute path stands nothing. -/
  | root {name : Bytes} {gap tail : List Bytes} :
      p.bytes.splitOn slash = [] :: gap ++ name :: tail → ¬IsIdle name →
      (∀ piece ∈ gap ++ tail, IsIdle piece) → EndsIn p ⟨[slash]⟩
  /-- The directory has nothing at its end that leads nowhere. -/
  | below {dir : Path} {first name : Bytes} {others gap tail : List Bytes} :
      p.bytes.splitOn slash = dir.bytes.splitOn slash ++ gap ++ name :: tail → ¬IsIdle name →
      (∀ piece ∈ gap ++ tail, IsIdle piece) →
      dir.bytes.splitOn slash = first :: others → IsTight others → (first = [] → others ≠ []) →
      EndsIn p dir

/-- The path that pieces spell when slashes are put between them. -/
theorem eq_intercalate_of_splitOn {p : Path} {pieces : List Bytes} (h : p.bytes.splitOn slash = pieces) :
    p = ⟨[slash].intercalate pieces⟩ := by
  rw [← h, List.intercalate_splitOn]

/-- Nothing in front of the first of several pieces is a slash in front of the others. -/
theorem intercalate_nil_cons {others : List Bytes} (h : others ≠ []) :
    [slash].intercalate ([] :: others) = slash :: [slash].intercalate others := by
  cases others with
  | nil => exact absurd rfl h
  | cons next more => rfl

theorem parent?_of_splitOn {p : Path} {first name : Bytes} {others gap tail : List Bytes}
    (h : p.bytes.splitOn slash = first :: (others ++ gap ++ name :: tail)) (hname : ¬IsIdle name)
    (hidle : ∀ piece ∈ gap ++ tail, IsIdle piece) (htight : IsTight others) :
    p.parent? = some (if first = [] then ⟨slash :: [slash].intercalate others⟩
      else ⟨[slash].intercalate (first :: others)⟩) := by
  obtain ⟨hgap, htail⟩ := List.forall_mem_append.mp hidle
  have hkept : dropIdle (others ++ gap ++ name :: tail) = others ++ gap ++ [name] :=
    dropIdle_eq_iff.mpr ⟨isTight_concat hname, tail, htail, by simp⟩
  have habove : dropIdle (others ++ gap) = others := dropIdle_eq_iff.mpr ⟨htight, gap, hgap, rfl⟩
  unfold parent?
  rw [h]
  dsimp only
  rw [hkept]
  split
  · rename_i hnone
    exact absurd hnone (List.append_ne_nil_of_right_ne_nil _ (List.cons_ne_nil _ _))
  · rw [List.dropLast_concat, habove]
    split <;> rfl

/-- A path without a piece that leads somewhere has no directory, unless it is a single piece. -/
theorem parent?_of_idle {p : Path} {first : Bytes} {tail : List Bytes}
    (h : p.bytes.splitOn slash = first :: tail) (htail : ∀ piece ∈ tail, IsIdle piece) :
    p.parent? = if first = [] then none else some ⟨[]⟩ := by
  have hnone : dropIdle tail = [] :=
    dropIdle_eq_iff.mpr ⟨fun hne => absurd rfl hne, tail, htail, rfl⟩
  unfold parent?
  rw [h]
  dsimp only
  rw [hnone]

/-- Pieces lead nowhere, or there is a last one that leads somewhere. -/
theorem exists_last (pieces : List Bytes) : (∀ piece ∈ pieces, IsIdle piece) ∨
    ∃ others gap name tail, pieces = others ++ gap ++ name :: tail ∧ ¬IsIdle name ∧
      (∀ piece ∈ gap ++ tail, IsIdle piece) ∧ IsTight others := by
  obtain ⟨htight, tail, htail, hpieces⟩ := dropIdle_eq_iff.mp (rfl : dropIdle pieces = _)
  rcases List.eq_nil_or_concat (dropIdle pieces) with hkept | ⟨front, name, hkept⟩
  · rw [hkept, List.nil_append] at hpieces
    exact .inl (hpieces ▸ htail)
  · rw [List.concat_eq_append] at hkept
    rw [hkept] at htight hpieces
    have hname := htight (List.append_ne_nil_of_right_ne_nil _ (List.cons_ne_nil _ _))
    rw [List.getLast_concat] at hname
    obtain ⟨hothers, gap, hgap, hfront⟩ := dropIdle_eq_iff.mp (rfl : dropIdle front = _)
    refine .inr ⟨_, gap, name, tail, ?_, hname, List.forall_mem_append.mpr ⟨hgap, htail⟩, hothers⟩
    rw [← hfront, hpieces, List.append_assoc, List.singleton_append]

/-- Some of the pieces of a path are the pieces of a path. -/
theorem splitOn_intercalate_of_append {p : Path} {front back : List Bytes}
    (h : p.bytes.splitOn slash = front ++ back) (hne : front ≠ []) :
    ([slash].intercalate front).splitOn slash = front := by
  refine List.splitOn_intercalate slash (fun piece hpiece => ?_) hne
  have hmem : piece ∈ p.bytes.splitOn slash := h ▸ List.mem_append_left back hpiece
  exact notMem_of_mem_splitOn hmem

/-- **A path has at most one directory**, and it has the one that `parent?` gives. -/
theorem parent?_eq_some_iff {p dir : Path} : p.parent? = some dir ↔ p.EndsIn dir := by
  constructor
  · intro h
    obtain ⟨first, pieces, hsplit, _⟩ := exists_splitOn_eq_cons slash p.bytes
    rcases exists_last pieces with hidle | ⟨others, gap, name, tail, rfl, hname, hidle, htight⟩
    · rw [parent?_of_idle hsplit hidle] at h
      obtain ⟨hfirst, hdir⟩ := Option.ite_none_left_eq_some.mp h
      obtain rfl := Option.some.inj hdir
      exact .alone hsplit hfirst hidle
    · rw [parent?_of_splitOn hsplit hname hidle htight, Option.some.injEq] at h
      rw [List.append_assoc, ← List.cons_append] at hsplit
      by_cases hroot : first = [] ∧ others = []
      · obtain ⟨rfl, rfl⟩ := hroot
        obtain rfl := h
        exact .root hsplit hname hidle
      · have hopen : first = [] → others ≠ [] := fun hfirst hnone => hroot ⟨hfirst, hnone⟩
        have hbytes : dir.bytes = [slash].intercalate (first :: others) := by
          rw [← h]
          split
          · rename_i hfirst
            rw [hfirst, intercalate_nil_cons (hopen hfirst)]
          · rfl
        have hdir : dir.bytes.splitOn slash = first :: others := by
          rw [hbytes]
          exact splitOn_intercalate_of_append hsplit (List.cons_ne_nil _ _)
        refine .below ?_ hname hidle hdir htight hopen
        rw [hsplit, hdir, List.append_assoc]
  · intro h
    cases h with
    | alone hsplit hname htail => rw [parent?_of_idle hsplit htail, if_neg hname]
    | root hsplit hname hidle =>
      exact parent?_of_splitOn hsplit hname hidle fun hne => absurd rfl hne
    | below hsplit hname hidle hdir htight hopen =>
      rw [hdir] at hsplit
      rw [parent?_of_splitOn hsplit hname hidle htight, eq_intercalate_of_splitOn hdir]
      split
      · rename_i hfirst
        rw [hfirst, intercalate_nil_cons (hopen hfirst)]
      · rfl

theorem isAbsolute_of_parent? {p dir : Path} (h : p.IsAbsolute) (hparent : p.parent? = some dir) :
    dir.IsAbsolute := by
  obtain ⟨ns, hpieces, _⟩ := splitOn_of_isAbsolute h
  cases parent?_eq_some_iff.mp hparent with
  | alone hsplit hname _ => exact absurd (List.cons.inj (hpieces.symm.trans hsplit)).1.symm hname
  | root => rfl
  | below hsplit _ _ hdir _ hopen =>
    -- the directory begins as the path does, and more follows
    rw [hpieces, hdir] at hsplit
    obtain rfl := (List.cons.inj hsplit).1
    rw [eq_intercalate_of_splitOn hdir, intercalate_nil_cons (hopen rfl)]
    rfl

theorem parent?_root : (ofNames []).parent? = none := rfl

/-! ## Names in front of names -/

theorem IsName.not_isAbsolute {n : Bytes} (h : IsName n) : ¬(⟨n⟩ : Path).IsAbsolute :=
  fun habsolute => h.slash_notMem (List.mem_of_mem_head? habsolute)

theorem IsName.names_eq {n : Bytes} (h : IsName n) : (⟨n⟩ : Path).names = [n] := by
  unfold names
  rw [List.splitOn_eq_singleton h.slash_notMem, List.filter_eq_self]
  intro piece hpiece
  rw [List.mem_singleton.mp hpiece]
  exact decide_eq_true ⟨h.ne_nil, h.ne_dot⟩

/-- A name behind a directory is the last name on the way. -/
theorem fileName?_join {n : Bytes} (h : IsName n) (dir : Path) : (dir.join ⟨n⟩).fileName? = some n := by
  unfold fileName?
  rw [names_join h.not_isAbsolute, h.names_eq, List.getLast?_concat]
  exact if_neg h.ne_dotDot

/-- A reduced path is a way down along names. -/
theorem exists_ofNames {p : Path} (h : p.IsReduced) : ∃ ns, (∀ n ∈ ns, IsName n) ∧ p = ofNames ns := by
  have habsolute : p.IsAbsolute := by
    rcases h with rfl | hfile
    · exact isAbsolute_ofNames []
    · exact hfile.isAbsolute
  refine ⟨p.reducedNames, fun n hn => isName_of_mem_reducedNames hn, ?_⟩
  rw [← normalize_of_isAbsolute habsolute, (normalize_eq_self_iff habsolute).mpr h]

theorem reducedNames_ofNames {ns : List Bytes} (h : ∀ n ∈ ns, IsName n) :
    (ofNames ns).reducedNames = ns := by
  rw [reducedNames_eq_follow, names_ofNames h, follow_names h, List.nil_append]

theorem ofNames_inj {ns ns' : List Bytes} (h : ∀ n ∈ ns, IsName n) (h' : ∀ n ∈ ns', IsName n)
    (heq : ofNames ns = ofNames ns') : ns = ns' := by
  rw [← reducedNames_ofNames h, heq, reducedNames_ofNames h']

theorem ofNames_concat (ns : List Bytes) (name : Bytes) :
    ofNames (ns ++ [name]) = ⟨ns.flatMap (slash :: ·) ++ slash :: name⟩ := by
  have hflat : (ns ++ [name]).flatMap (slash :: ·) = ns.flatMap (slash :: ·) ++ slash :: name := by
    rw [List.flatMap_append, List.flatMap_singleton]
  rw [← hflat]
  cases ns <;> rfl

/-- **A name behind a way down is one step more**, also behind the root. -/
theorem join_ofNames {ns : List Bytes} {name : Bytes} (hns : ∀ n ∈ ns, IsName n) (hname : IsName name) :
    (ofNames ns).join ⟨name⟩ = ofNames (ns ++ [name]) := by
  unfold join
  rw [if_neg hname.not_isAbsolute, ofNames_concat]
  rcases List.eq_nil_or_concat ns with rfl | ⟨front, last, rfl⟩
  · -- the root is its own slash
    rfl
  · rw [List.concat_eq_append] at hns ⊢
    have hlast : IsName last := hns last (List.mem_append_right _ (List.mem_singleton_self last))
    have hopen : (ofNames (front ++ [last])).bytes.getLast? ≠ some slash := by
      rw [ofNames_concat, List.getLast?_append, List.getLast?_cons_of_ne_nil hlast.ne_nil,
        List.getLast?_eq_some_getLast hlast.ne_nil, Option.some_or]
      intro hslash
      exact hlast.slash_notMem (Option.some.inj hslash ▸ List.getLast_mem hlast.ne_nil)
    have hne : (ofNames (front ++ [last])).bytes ≠ [] := by
      rw [ofNames_concat]
      exact List.append_ne_nil_of_right_ne_nil _ (List.cons_ne_nil _ _)
    rw [if_neg (not_or.mpr ⟨hne, hopen⟩), ofNames_concat, List.flatMap_append, List.flatMap_singleton]

/-- **A way down ends in the way along all names but the last one.** -/
theorem endsIn_ofNames {ns : List Bytes} {name : Bytes} (h : ∀ n ∈ ns ++ [name], IsName n) :
    (ofNames (ns ++ [name])).EndsIn (ofNames ns) := by
  have hidle : ∀ n ∈ ns ++ [name], ¬IsIdle n :=
    fun n hn => not_or.mpr ⟨(h n hn).ne_nil, (h n hn).ne_dot⟩
  have hname := hidle name (List.mem_append_right _ (List.mem_singleton_self name))
  have hns : ∀ n ∈ ns, IsName n := fun n hn => h n (List.mem_append_left _ hn)
  have hsplit := splitOn_ofNames (List.append_ne_nil_of_right_ne_nil ns (List.cons_ne_nil name []))
    fun n hn => (h n hn).slash_notMem
  have hnothing : ∀ piece ∈ ([] ++ [] : List Bytes), IsIdle piece :=
    fun _ hnone => absurd hnone List.not_mem_nil
  by_cases hroot : ns = []
  · subst hroot
    exact .root hsplit hname hnothing
  · have hdir := splitOn_ofNames hroot fun n hn => (hns n hn).slash_notMem
    refine .below ?_ hname hnothing hdir ?_ fun _ => hroot
    · rw [hsplit, hdir, List.append_nil]
      rfl
    · exact fun hne => hidle _ (List.mem_append_left _ (List.getLast_mem hne))

/-- A file in a directory ends there. -/
theorem endsIn_join {ns : List Bytes} {name : Bytes} (hns : ∀ n ∈ ns, IsName n) (hname : IsName name) :
    ((ofNames ns).join ⟨name⟩).EndsIn (ofNames ns) := by
  rw [join_ofNames hns hname]
  exact endsIn_ofNames (List.forall_mem_append.mpr ⟨hns, List.forall_mem_singleton.mpr hname⟩)

/-- **A reduced path other than the root is the last name in its directory.** -/
theorem exists_parent {p : Path} (h : p.IsReduced) (hne : p ≠ ofNames []) :
    ∃ dir name, p.parent? = some dir ∧ p.fileName? = some name ∧ dir.join ⟨name⟩ = p ∧
      dir.IsAbsolute := by
  obtain ⟨ns, hns, rfl⟩ := exists_ofNames h
  rcases List.eq_nil_or_concat ns with rfl | ⟨front, name, rfl⟩
  · exact absurd rfl hne
  · rw [List.concat_eq_append] at hns ⊢
    have hfront : ∀ n ∈ front, IsName n := fun n hn => hns n (List.mem_append_left _ hn)
    have hname : IsName name := hns name (List.mem_append_right _ (List.mem_singleton_self name))
    rw [← join_ofNames hfront hname]
    exact ⟨ofNames front, name, parent?_eq_some_iff.mpr (endsIn_join hfront hname),
      fileName?_join hname _, rfl, isAbsolute_ofNames front⟩

end Path
end JavacLauncher
