import JavacLauncher.Path
import JavacLauncher.Proofs.Text.Pieces
import Mathlib.Logic.Relation

/-!
# Reduced paths

Normalising goes from the text of a path to its names and back. On the way down, the pieces
between slashes that are empty or `.` are left out, and a `..` is never kept: it takes a name
away and goes itself. So every name that is left leads one step down (`isName_of_mem_reducedNames`).
On the way back, one slash is put before each name, and none of the names holds a slash, so that the
text falls into exactly these names again (`splitOn_ofNames`).

Together this says what the normal form of an absolute path looks like if it is not the root
(`isReducedFile_normalize`), and it is said of the text alone: what stands between its slashes. A
path that looks like this is its own normal form, and the root is one too (`normalize_eq_self_iff`).
That the names which are left are the right ones is said by `Simplifies`: each step takes away one
thing that the way does not need, and normalising is a number of such steps after which no other
one can be made (`isNormalForm_normalize`).
-/

namespace JavacLauncher

namespace Path

/-- A name that leads one step down. -/
structure IsName (n : Bytes) : Prop where
  ne_nil : n ≠ []
  ne_dot : n ≠ dot
  ne_dotDot : n ≠ dotDot
  slash_notMem : slash ∉ n

/-- An absolute path, other than the root, with nothing between its slashes but names that lead
one step down. -/
structure IsReducedFile (p : Path) : Prop where
  isAbsolute : p.IsAbsolute
  ne_root : p.bytes ≠ [slash]
  isName : ∀ n ∈ (p.bytes.splitOn slash).tail, n ≠ [] ∧ n ≠ dot ∧ n ≠ dotDot

/-- The root, or a reduced path below it. -/
def IsReduced (p : Path) : Prop := p = ofNames [] ∨ p.IsReducedFile

/-- One thing less between the slashes of an absolute path: a piece that leads nowhere, a name and
the `..` that takes it away, or a `..` at the root. -/
inductive Simplifies : (pieces rest : List Bytes) → Prop where
  | empty (front behind : List Bytes) : Simplifies (front ++ [] :: behind) (front ++ behind)
  | here (front behind : List Bytes) : Simplifies (front ++ dot :: behind) (front ++ behind)
  | back (front : List Bytes) {n : Bytes} (hn : IsName n) (behind : List Bytes) :
      Simplifies (front ++ n :: dotDot :: behind) (front ++ behind)
  | above (behind : List Bytes) : Simplifies (dotDot :: behind) behind

/-- `q` is what is left of the absolute path `p` when nothing can be made simpler any more. -/
def IsNormalForm (p q : Path) : Prop :=
  ∃ ns, Relation.ReflTransGen Simplifies (p.bytes.splitOn slash).tail ns ∧
    (∀ n ∈ ns, IsName n) ∧ q = ofNames ns

/-! ## From the text to the names -/

/-- Before the first slash of an absolute path stands nothing. -/
theorem splitOn_of_isAbsolute {p : Path} (h : p.IsAbsolute) :
    ∃ ns, p.bytes.splitOn slash = [] :: ns ∧ p.bytes = ns.flatMap (slash :: ·) := by
  obtain ⟨_ | ⟨b, bs⟩⟩ := p
  · cases h
  · obtain rfl : b = slash := Option.some.inj h
    obtain ⟨first, more, hpieces, hjoin⟩ := exists_splitOn_eq_cons slash bs
    refine ⟨first :: more, ?_, congrArg (slash :: ·) hjoin⟩
    rw [List.splitOn_cons_eq_if_modifyHead, if_pos (beq_self_eq_true slash), hpieces]

/-- A walk keeps names of the way it goes, and no `..` among them. -/
theorem mem_foldl_walk {ns trail : List Bytes} {n : Bytes} (h : n ∈ ns.foldl walk trail) :
    n ∈ trail ∨ (n ∈ ns ∧ n ≠ dotDot) := by
  induction ns generalizing trail with
  | nil => exact Or.inl h
  | cons next ns ih =>
    rw [List.foldl_cons] at h
    rcases ih h with htrail | ⟨hmem, hne⟩
    · unfold walk at htrail
      split at htrail
      · exact Or.inl (List.mem_of_mem_tail htrail)
      · rename_i hnext
        rcases List.mem_cons.mp htrail with rfl | htrail
        · exact Or.inr ⟨List.mem_cons_self, hnext⟩
        · exact Or.inl htrail
    · exact Or.inr ⟨List.mem_cons_of_mem _ hmem, hne⟩

/-- The names that are left all lead down. -/
theorem isName_of_mem_reducedNames {p : Path} {n : Bytes} (h : n ∈ p.reducedNames) : IsName n := by
  unfold reducedNames at h
  rcases mem_foldl_walk (List.mem_reverse.mp h) with hnone | ⟨hmem, hdotDot⟩
  · exact absurd hnone List.not_mem_nil
  · obtain ⟨hpiece, hkept⟩ := List.mem_filter.mp hmem
    obtain ⟨hnil, hdot⟩ := of_decide_eq_true hkept
    exact ⟨hnil, hdot, hdotDot, notMem_of_mem_splitOn hpiece⟩

/-- A walk along names goes down at each of them. -/
theorem foldl_walk_of_ne_dotDot {ns : List Bytes} (h : ∀ n ∈ ns, n ≠ dotDot) (trail : List Bytes) :
    ns.foldl walk trail = ns.reverse ++ trail := by
  induction ns generalizing trail with
  | nil => rfl
  | cons next ns ih =>
    obtain ⟨hnext, hns⟩ := List.forall_mem_cons.mp h
    rw [List.foldl_cons, walk, if_neg hnext, ih hns, List.reverse_cons, List.append_assoc]
    rfl

/-! ## Simplifying -/

/-- Pieces that lead nowhere can be left out one by one. -/
theorem simplifies_filter (front pieces : List Bytes) :
    Relation.ReflTransGen Simplifies (front ++ pieces)
      (front ++ pieces.filter fun n => n ≠ [] ∧ n ≠ dot) := by
  induction pieces generalizing front with
  | nil => exact .refl
  | cons next pieces ih =>
    rw [List.filter_cons]
    split
    · rw [List.append_cons, List.append_cons front next (List.filter _ pieces)]
      exact ih (front ++ [next])
    · rename_i hleft
      refine .head ?_ (ih front)
      rw [decide_eq_true_iff] at hleft
      rcases Classical.not_and_iff_not_or_not.mp hleft with hnil | hdot
      · rw [Classical.not_not.mp hnil]
        exact .empty front pieces
      · rw [Classical.not_not.mp hdot]
        exact .here front pieces

/-- A walk is a simplification at each `..`, with the trail standing before what is still to come. -/
theorem simplifies_walk {ns : List Bytes} (trail : List Bytes) (hns : ∀ n ∈ ns, n ≠ dotDot → IsName n)
    (htrail : ∀ n ∈ trail, IsName n) :
    Relation.ReflTransGen Simplifies (trail.reverse ++ ns) (ns.foldl walk trail).reverse := by
  induction ns generalizing trail with
  | nil =>
    rw [List.append_nil]
    exact .refl
  | cons next ns ih =>
    obtain ⟨hnext, hmore⟩ := List.forall_mem_cons.mp hns
    rw [List.foldl_cons, walk]
    split
    · rename_i hdotDot
      subst hdotDot
      cases trail with
      | nil => exact .head (.above ns) (ih _ hmore htrail)
      | cons last trail =>
        obtain ⟨hlast, htrail⟩ := List.forall_mem_cons.mp htrail
        rw [List.reverse_cons, List.append_assoc]
        exact .head (.back trail.reverse hlast ns) (ih _ hmore htrail)
    · rename_i hdotDot
      have hstep := ih (next :: trail) hmore (List.forall_mem_cons.mpr ⟨hnext hdotDot, htrail⟩)
      rwa [List.reverse_cons, List.append_assoc, List.singleton_append] at hstep

/-! ## From the names to the text -/

/-- Between the slashes of a way down stand its names, and nothing stands before the first slash. -/
theorem splitOn_ofNames {ns : List Bytes} (hne : ns ≠ []) (h : ∀ n ∈ ns, slash ∉ n) :
    (ofNames ns).bytes.splitOn slash = [] :: ns := by
  cases ns with
  | nil => exact absurd rfl hne
  | cons first more =>
    have hbytes : (ofNames (first :: more)).bytes = [slash].intercalate ([] :: first :: more) := by
      rw [intercalate_eq_append_flatMap]
      rfl
    rw [hbytes]
    refine List.splitOn_intercalate slash ?_ (List.cons_ne_nil _ _)
    intro n hn
    rcases List.mem_cons.mp hn with rfl | hn
    · exact List.not_mem_nil
    · exact h n hn

theorem isReducedFile_ofNames {ns : List Bytes} (hne : ns ≠ []) (h : ∀ n ∈ ns, IsName n) :
    (ofNames ns).IsReducedFile := by
  have hsplit := splitOn_ofNames hne fun n hn => (h n hn).slash_notMem
  refine ⟨isAbsolute_ofNames ns, ?_, ?_⟩
  · intro hroot
    -- the root has nothing behind its slash
    rw [hroot] at hsplit
    have hns : ns = [[]] := (List.cons.inj hsplit).2.symm
    exact (h [] (by rw [hns]; exact List.mem_cons_self)).ne_nil rfl
  · intro n hn
    rw [hsplit] at hn
    have hname := h n hn
    exact ⟨hname.ne_nil, hname.ne_dot, hname.ne_dotDot⟩

/-! ## Normal forms -/

theorem isAbsolute_normalize {p : Path} (h : p.IsAbsolute) : p.normalize.IsAbsolute := by
  unfold normalize
  rw [along_of_isAbsolute h]
  exact isAbsolute_ofNames _

/-- **Normalising simplifies a path as far as it goes.** -/
theorem isNormalForm_normalize {p : Path} (h : p.IsAbsolute) : p.IsNormalForm p.normalize := by
  refine ⟨p.reducedNames, ?_, fun n hn => isName_of_mem_reducedNames hn, along_of_isAbsolute h _⟩
  obtain ⟨ns, hsplit, _⟩ := splitOn_of_isAbsolute h
  have hnames : p.names = ns.filter fun n => n ≠ [] ∧ n ≠ dot := by
    unfold names
    rw [hsplit, List.filter_cons_of_neg (by simp)]
  rw [hsplit, List.tail_cons]
  refine (simplifies_filter [] ns).trans ?_
  unfold reducedNames
  rw [List.nil_append, ← hnames]
  refine simplifies_walk [] ?_ ?_
  · intro n hn hdotDot
    obtain ⟨hpiece, hkept⟩ := List.mem_filter.mp hn
    obtain ⟨hnil, hdot⟩ := of_decide_eq_true hkept
    exact ⟨hnil, hdot, hdotDot, notMem_of_mem_splitOn hpiece⟩
  · intro n hn
    exact absurd hn List.not_mem_nil

/-- Nothing between the slashes of a normal form can be left out. -/
theorem isReduced_normalize {p : Path} (h : p.IsAbsolute) : p.normalize.IsReduced := by
  unfold normalize
  rw [along_of_isAbsolute h]
  by_cases hnone : p.reducedNames = []
  · rw [hnone]
    exact Or.inl rfl
  · exact Or.inr (isReducedFile_ofNames hnone fun n hn => isName_of_mem_reducedNames hn)

/-- **The normal form of an absolute path is reduced**, if it lies in a directory. -/
theorem isReducedFile_normalize {p dir : Path} (h : p.IsAbsolute)
    (hparent : p.normalize.parent? = some dir) : p.normalize.IsReducedFile := by
  rcases isReduced_normalize h with hroot | hfile
  · have hnone : (ofNames []).parent? = none := rfl
    rw [hroot, hnone] at hparent
    cases hparent
  · exact hfile

/-- Nothing is to be left out of a reduced path. -/
theorem normalize_of_isReducedFile {p : Path} (h : p.IsReducedFile) : p.normalize = p := by
  obtain ⟨ns, hsplit, hbytes⟩ := splitOn_of_isAbsolute h.isAbsolute
  have hnames := h.isName
  rw [hsplit, List.tail_cons] at hnames
  have hkept : p.names = ns := by
    unfold names
    rw [hsplit, List.filter_cons_of_neg (by simp), List.filter_eq_self]
    intro n hn
    obtain ⟨hnil, hdot, _⟩ := hnames n hn
    exact decide_eq_true ⟨hnil, hdot⟩
  have hreduced : p.reducedNames = ns := by
    unfold reducedNames
    rw [hkept, foldl_walk_of_ne_dotDot (fun n hn => (hnames n hn).2.2), List.append_nil,
      List.reverse_reverse]
  unfold normalize
  rw [along_of_isAbsolute h.isAbsolute, hreduced]
  cases ns with
  | nil =>
    -- an absolute path has something behind its first slash
    have habsolute := h.isAbsolute
    unfold IsAbsolute at habsolute
    rw [hbytes] at habsolute
    cases habsolute
  | cons first more => exact congrArg Path.mk hbytes.symm

/-- **Normalising changes an absolute path exactly if it is not reduced.** -/
theorem normalize_eq_self_iff {p : Path} (h : p.IsAbsolute) : p.normalize = p ↔ p.IsReduced := by
  constructor
  · intro hself
    have hreduced := isReduced_normalize h
    rwa [hself] at hreduced
  · rintro (rfl | hfile)
    · rfl
    · exact normalize_of_isReducedFile hfile

end Path

end JavacLauncher
