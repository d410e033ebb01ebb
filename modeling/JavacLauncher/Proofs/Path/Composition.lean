import JavacLauncher.Proofs.Path.Reduced

/-!
# Going on from a path

Normalising looks at all names of a path at once. `follow` goes along the pieces between the slashes
one at a time and keeps the place below the root that it has come to, so a way may be cut anywhere and
gone on from the place at the cut (`follow_append`). The two are the same
(`reducedNames_eq_follow`), and the pieces of a joined path are those of its two parts but for empty
ones (`names_join`). So a relative path is followed from where its base leads, and it does not matter
whether the base is in normal form (`normalize_join_normalize`).

A place depends on the pieces only as far as they are needed: none of the steps of `Simplifies` leads
elsewhere (`follow_of_simplifies`). Whatever order the steps are made in, the same path is left, and
that path is the one that `normalize` gives (`isNormalForm_iff`).
-/

namespace JavacLauncher.Path

/-- Where a row of pieces leads from `place`, the names on the way down from the root: a name goes
down, a `..` goes up, at the root it stays, and so do an empty piece and a `.` everywhere. -/
def follow (place : List Bytes) : List Bytes → List Bytes
  | [] => place
  | piece :: pieces =>
    if piece = [] ∨ piece = dot then follow place pieces
    else if piece = dotDot then follow place.dropLast pieces
    else follow (place ++ [piece]) pieces

/-- The path that goes up `n` times. -/
def up (n : Nat) : Path := ⟨[slash].intercalate (List.replicate n dotDot)⟩

/-! ## One piece after the other -/

theorem follow_append (place front behind : List Bytes) :
    follow place (front ++ behind) = follow (follow place front) behind := by
  induction front generalizing place with
  | nil => rfl
  | cons piece front ih =>
    rw [List.cons_append, follow, follow]
    split
    · exact ih place
    · split
      · exact ih place.dropLast
      · exact ih (place ++ [piece])

theorem follow_name {n : Bytes} (h : IsName n) (place pieces : List Bytes) :
    follow place (n :: pieces) = follow (place ++ [n]) pieces := by
  rw [follow, if_neg (not_or.mpr ⟨h.ne_nil, h.ne_dot⟩), if_neg h.ne_dotDot]

theorem follow_dotDot (place pieces : List Bytes) :
    follow place (dotDot :: pieces) = follow place.dropLast pieces := rfl

/-- Names that lead down are where they lead. -/
theorem follow_names {ns : List Bytes} (h : ∀ n ∈ ns, IsName n) (place : List Bytes) :
    follow place ns = place ++ ns := by
  induction ns generalizing place with
  | nil => exact (List.append_nil place).symm
  | cons next ns ih =>
    obtain ⟨hnext, hns⟩ := List.forall_mem_cons.mp h
    rw [follow_name hnext, ih hns, List.append_assoc, List.singleton_append]

/-- Going up takes names off the end as long as there are any. -/
theorem follow_up (n : Nat) (place : List Bytes) :
    follow place (List.replicate n dotDot) = place.take (place.length - n) := by
  induction n generalizing place with
  | zero => exact (List.take_length).symm
  | succ n ih =>
    rw [List.replicate_succ, follow_dotDot, ih, List.length_dropLast, List.dropLast_eq_take,
      List.take_take]
    congr 1
    omega

/-- What leads nowhere may be left out. -/
theorem follow_filter (place pieces : List Bytes) :
    follow place (pieces.filter fun n => n ≠ [] ∧ n ≠ dot) = follow place pieces := by
  induction pieces generalizing place with
  | nil => rfl
  | cons piece pieces ih =>
    rw [List.filter_cons]
    split
    · rename_i hkept
      have hleads : ¬(piece = [] ∨ piece = dot) := not_or.mpr (of_decide_eq_true hkept)
      rw [follow, follow]
      simp only [if_neg hleads, ih]
    · rename_i hleft
      have hstays : piece = [] ∨ piece = dot := by
        rw [decide_eq_true_iff, Classical.not_and_iff_not_or_not] at hleft
        exact hleft.imp Classical.not_not.mp Classical.not_not.mp
      rw [ih, follow, if_pos hstays]

/-- A walk holds the place with the last name in front. -/
theorem reverse_foldl_walk {names : List Bytes} (h : ∀ n ∈ names, n ≠ [] ∧ n ≠ dot)
    (place : List Bytes) : (names.foldl walk place.reverse).reverse = follow place names := by
  induction names generalizing place with
  | nil => exact List.reverse_reverse place
  | cons next names ih =>
    obtain ⟨hnext, hnames⟩ := List.forall_mem_cons.mp h
    rw [List.foldl_cons, walk, follow, if_neg (not_or.mpr hnext)]
    split
    · rw [List.tail_reverse]
      exact ih hnames _
    · rw [← List.reverse_concat]
      exact ih hnames _

theorem reducedNames_eq_follow (p : Path) : p.reducedNames = follow [] p.names := by
  refine reverse_foldl_walk (fun n hn => ?_) []
  exact of_decide_eq_true (List.mem_filter.mp hn).2

theorem normalize_of_isAbsolute {p : Path} (h : p.IsAbsolute) :
    p.normalize = ofNames p.reducedNames := along_of_isAbsolute h _

theorem follow_names_eq (p : Path) (place : List Bytes) :
    follow place p.names = follow place (p.bytes.splitOn slash) := follow_filter place _

/-! ## Simplifying leads to the same place -/

theorem follow_of_simplifies {pieces rest : List Bytes} (h : Simplifies pieces rest) :
    follow [] pieces = follow [] rest := by
  cases h with
  | empty front behind =>
    rw [follow_append, follow_append]
    rfl
  | here front behind =>
    rw [follow_append, follow_append]
    rfl
  | back front hn behind =>
    rw [follow_append, follow_append, follow_name hn, follow_dotDot, List.dropLast_concat]
  | above behind => rfl

theorem follow_of_simplifies_steps {pieces rest : List Bytes}
    (h : Relation.ReflTransGen Simplifies pieces rest) : follow [] pieces = follow [] rest := by
  induction h with
  | refl => rfl
  | tail _ hstep ih => exact ih.trans (follow_of_simplifies hstep)

/-- Before the first slash of an absolute path there is nothing to follow. -/
theorem reducedNames_eq_follow_tail {p : Path} (h : p.IsAbsolute) :
    p.reducedNames = follow [] (p.bytes.splitOn slash).tail := by
  obtain ⟨ns, hsplit, _⟩ := splitOn_of_isAbsolute h
  rw [reducedNames_eq_follow, follow_names_eq, hsplit]
  rfl

/-- **An absolute path has one normal form**, in whatever order it is made simpler. -/
theorem isNormalForm_iff {p q : Path} (h : p.IsAbsolute) : p.IsNormalForm q ↔ q = p.normalize := by
  constructor
  · rintro ⟨ns, hsteps, hns, rfl⟩
    rw [normalize_of_isAbsolute h, reducedNames_eq_follow_tail h,
      follow_of_simplifies_steps hsteps, follow_names hns, List.nil_append]
  · rintro rfl
    exact isNormalForm_normalize h

/-! ## Joined paths -/

/-- A slash between two paths is crossed without a trace. -/
theorem names_append_slash (front behind : Bytes) :
    names ⟨front ++ slash :: behind⟩ = names ⟨front⟩ ++ names ⟨behind⟩ := by
  unfold names
  rw [List.splitOn_append_cons_self, List.filter_append]

theorem names_join {p : Path} (h : ¬p.IsAbsolute) (base : Path) :
    (base.join p).names = base.names ++ p.names := by
  obtain ⟨front⟩ := base
  unfold Path.join
  rw [if_neg h]
  split
  · rename_i hslash
    rcases hslash with rfl | hlast
    · rfl
    · -- behind the slash at the end of the base there is no name
      obtain ⟨front, rfl⟩ := List.getLast?_eq_some_iff.mp hlast
      rw [List.append_assoc, List.singleton_append, names_append_slash, names_append_slash]
      show _ = (names ⟨front⟩ ++ []) ++ names p
      rw [List.append_nil]
  · exact names_append_slash front p.bytes

theorem names_ofNames {ns : List Bytes} (h : ∀ n ∈ ns, IsName n) : (ofNames ns).names = ns := by
  by_cases hnone : ns = []
  · rw [hnone]
    decide
  · unfold names
    rw [splitOn_ofNames hnone fun n hn => (h n hn).slash_notMem,
      List.filter_cons_of_neg (by simp), List.filter_eq_self]
    intro n hn
    exact decide_eq_true ⟨(h n hn).ne_nil, (h n hn).ne_dot⟩

theorem reducedNames_normalize {p : Path} (h : p.IsAbsolute) :
    p.normalize.reducedNames = p.reducedNames := by
  have hnames : ∀ n ∈ p.reducedNames, IsName n := fun n hn => isName_of_mem_reducedNames hn
  rw [reducedNames_eq_follow, normalize_of_isAbsolute h, names_ofNames hnames,
    follow_names hnames, List.nil_append]

/-- A relative path is followed from where its base leads. -/
theorem reducedNames_join {p : Path} (h : ¬p.IsAbsolute) (base : Path) :
    (base.join p).reducedNames = follow base.reducedNames p.names := by
  rw [reducedNames_eq_follow, names_join h, follow_append, ← reducedNames_eq_follow]

/-- **It does not matter whether the base of a path is in normal form.** -/
theorem normalize_join_normalize {base p : Path} (hbase : base.IsAbsolute) (h : ¬p.IsAbsolute) :
    (base.normalize.join p).normalize = (base.join p).normalize := by
  rw [normalize_of_isAbsolute (hbase.join p),
    normalize_of_isAbsolute ((isAbsolute_normalize hbase).join p), reducedNames_join h,
    reducedNames_join h, reducedNames_normalize hbase]

/-! ## Going up -/

theorem not_isAbsolute_up (n : Nat) : ¬(up n).IsAbsolute := by
  cases n with
  | zero => decide
  | succ n =>
    unfold up IsAbsolute
    rw [List.replicate_succ, intercalate_eq_append_flatMap]
    intro h
    exact absurd (Option.some.inj h) (by decide)

theorem names_up (n : Nat) : (up n).names = List.replicate n dotDot := by
  unfold names up
  cases n with
  | zero => decide
  | succ n =>
    rw [List.splitOn_intercalate slash, List.filter_eq_self]
    · intro piece hpiece
      rw [List.eq_of_mem_replicate hpiece]
      decide
    · intro piece hpiece
      rw [List.eq_of_mem_replicate hpiece]
      decide
    · exact List.cons_ne_nil _ _

/-- Going up from a directory takes names off its end, and goes no further than the root. -/
theorem normalize_join_up {dir : Path} (h : dir.IsAbsolute) (n : Nat) :
    (dir.join (up n)).normalize =
      ofNames (dir.reducedNames.take (dir.reducedNames.length - n)) := by
  rw [normalize_of_isAbsolute (h.join _), reducedNames_join (not_isAbsolute_up n), names_up,
    follow_up]

end JavacLauncher.Path
