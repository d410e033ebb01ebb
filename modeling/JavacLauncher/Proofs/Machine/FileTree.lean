import JavacLauncher.Machine.Workspace
import JavacLauncher.Proofs.Path.Composition
import Std.Data.TreeMap.Lemmas

/-!
# Files are where they are put

The nodes of a file system have numbers, and a new node gets a number that no name leads to
(`IsSound`). So putting something at a place changes what is there and nothing else
(`IsSound.at?_insert`), and the directories on the way are made where there was nothing
(`IsSound.insertDirectories`).

A path is followed name by name. What a walk finds is what the tree has at the place where it ends
(`numberAt?_of_walk`), and it never ends because the bound on its steps is reached (`walk_maxSteps`): each
step takes a name away, and a link brings no more names than a path can have. Through directories the
names of a place lead to what is there (`resolve_ofNames`). So a file that is put on a machine is read
there again, and all others stay as they are (`Machine.fileContent_put`, `Machine.content?_put`).
-/

namespace JavacLauncher.FileTree

variable {t t' : FileTree} {place other : Place} {n : Node} {number : Nat}

/-! ## Places and nodes -/

theorem lookup_filter {α β : Type} [BEq α] [LawfulBEq α] (f : α → Bool) (a : α) (l : List (α × β)) :
    (l.filter fun e => f e.1).lookup a = if f a then l.lookup a else none := by
  induction l with
  | nil => simp
  | cons e l ih =>
    obtain ⟨k, v⟩ := e
    by_cases hk : a = k
    · subst hk
      cases hf : f a <;> simp [hf, ih]
    · have hbeq : (a == k) = false := beq_eq_false_iff_ne.2 hk
      cases hf : f k <;> simp [hf, ih, List.lookup_cons, hbeq]

theorem mem_of_lookup {α β : Type} [BEq α] [LawfulBEq α] {a : α} {b : β} {l : List (α × β)}
    (h : l.lookup a = some b) : (a, b) ∈ l := by
  obtain ⟨front, behind, rfl, -⟩ := List.lookup_eq_some_iff.1 h
  simp

theorem numberAt?_link (h : place ≠ []) (number : Nat) :
    (t.link place number).numberAt? other = if other = place then some number else t.numberAt? other := by
  unfold numberAt? link
  by_cases hother : other = place
  · subst hother
    simp [h]
  · have hbeq : (other == place) = false := beq_eq_false_iff_ne.2 hother
    have hkept := lookup_filter (fun p => decide (p ≠ place)) other t.names
    rw [if_pos (decide_eq_true hother)] at hkept
    simp only [List.lookup_cons, hbeq, hkept, if_neg hother]

theorem node?_setNode (k : Nat) :
    (t.setNode number n).node? k = if k = number then some n else t.node? k := by
  simp only [setNode, node?, Std.TreeMap.getElem?_insert, Nat.compare_eq_eq, eq_comm (a := k)]

theorem numberAt?_erase (h : place ≠ []) :
    (t.erase place).numberAt? other = if place <+: other then none else t.numberAt? other := by
  unfold numberAt? erase
  by_cases hroot : other = []
  · subst hroot
    simp [h]
  · have hkept := lookup_filter (fun p => !place.isPrefixOf p) other t.names
    simp only [if_neg hroot, hkept]
    by_cases hbelow : place <+: other
    · rw [if_pos hbelow, if_neg (by simpa using hbelow)]
    · rw [if_neg hbelow, if_pos (by simpa [← Bool.not_eq_true] using hbelow)]

theorem at?_erase (h : place ≠ []) :
    (t.erase place).at? other = if place <+: other then none else t.at? other := by
  rw [at?, numberAt?_erase h]
  split <;> rfl

/-! ## Changing a tree -/

/-- No name leads to the number of the next node, and the root is a directory. -/
structure IsSound (t : FileTree) : Prop where
  numbers : ∀ e ∈ t.names, e.2 < t.next
  next : rootNode < t.next
  root : t.isDirectory [] = true

theorem isDirectory_iff : t.isDirectory place = true ↔ ∃ mode time, t.at? place = some ⟨.directory, mode, time⟩ := by
  unfold isDirectory
  split
  · rename_i heq
    exact iff_of_true rfl ⟨_, _, heq⟩
  · rename_i hne
    exact iff_of_false Bool.false_ne_true fun ⟨mode, time, heq⟩ => hne mode time heq

theorem IsSound.numberAt?_lt (ht : t.IsSound) (h : t.numberAt? place = some number) : number < t.next := by
  unfold numberAt? at h
  split at h
  · exact Option.some.inj h ▸ ht.next
  · exact ht.numbers _ (mem_of_lookup h)

theorem isDirectory_of_at? (h : t.at? place = t'.at? place) : t.isDirectory place = t'.isDirectory place := by
  rw [isDirectory, isDirectory, h]

/-- **What is put at a place is there, and nothing else changes.** -/
theorem IsSound.at?_insert (ht : t.IsSound) (h : place ≠ []) :
    (t.insert place n).at? other = if other = place then some n else t.at? other := by
  rw [insert, if_neg h]
  change (((t.link place t.next).numberAt? other).bind (((t.link place t.next).setNode t.next n).node? ·)) = _
  rw [numberAt?_link h]
  split
  · simp [node?_setNode]
  · rw [at?]
    cases hnumber : t.numberAt? other with
    | none => rfl
    | some k =>
      -- a number that is in use is not the one of the new node
      have hk := ht.numberAt?_lt hnumber
      rw [Option.bind_some, node?_setNode, if_neg (Nat.ne_of_lt hk)]
      rfl

theorem isSound_empty : empty.IsSound where
  numbers := nofun
  next := Nat.one_pos
  root := by decide

theorem IsSound.insert (ht : t.IsSound) (place : Place) (n : Node) : (t.insert place n).IsSound := by
  by_cases hplace : place = []
  · rwa [FileTree.insert, if_pos hplace]
  · have hroot : (t.insert place n).at? [] = t.at? [] := by
      rw [ht.at?_insert hplace, if_neg (Ne.symm hplace)]
    refine ⟨fun e he => ?_, ?_, (isDirectory_of_at? hroot).trans ht.root⟩
    · rw [FileTree.insert, if_neg hplace] at he ⊢
      rcases List.mem_cons.1 he with rfl | he
      · exact Nat.lt_succ_self _
      · exact Nat.lt_succ_of_lt (ht.numbers e (List.mem_filter.1 he).1)
    · rw [FileTree.insert, if_neg hplace]
      exact Nat.lt_succ_of_lt ht.next

theorem IsSound.erase (ht : t.IsSound) (h : place ≠ []) : (t.erase place).IsSound where
  numbers e he := ht.numbers e (List.mem_filter.1 he).1
  next := ht.next
  root := by
    have hroot : (t.erase place).at? [] = t.at? [] := by
      rw [at?_erase h, if_neg (by simpa using h)]
    exact (isDirectory_of_at? hroot).trans ht.root

/-- A directory that is made on the way to a place. -/
def madeDirectory : Node := ⟨.directory, 0o755, 0⟩

theorem IsSound.insertDirectory (ht : t.IsSound) (place : Place) : (t.insertDirectory place).IsSound := by
  unfold FileTree.insertDirectory
  split
  · exact ht
  · exact ht.insert _ _

theorem IsSound.at?_insertDirectory (ht : t.IsSound) (place : Place) : (t.insertDirectory place).at? other =
    (t.at? other).or (if other = place then some madeDirectory else none) := by
  unfold FileTree.insertDirectory
  split
  · rename_i n hn
    split
    · rename_i heq
      rw [heq, hn]
      rfl
    · rw [Option.or_none]
  · rename_i hnone
    have hplace : place ≠ [] := by
      rintro rfl
      obtain ⟨mode, time, hroot⟩ := isDirectory_iff.1 ht.root
      cases hnone.symm.trans hroot
    rw [ht.at?_insert hplace]
    split
    · rename_i heq
      rw [heq, hnone]
      rfl
    · rw [Option.or_none]

/-- **Where directories are made on the way to a place,** whatever was there stays, and nothing else comes. -/
theorem IsSound.insertDirectories (ht : t.IsSound) (place : Place) : (t.insertDirectories place).IsSound ∧
    ∀ other, (t.insertDirectories place).at? other =
      (t.at? other).or (if other <+: place then some madeDirectory else none) := by
  -- after `k` rounds the shorter prefixes are there
  have hsteps (k : Nat) :
      ((List.range k).foldl (fun t n => t.insertDirectory (place.take n)) t).IsSound ∧ ∀ other,
        ((List.range k).foldl (fun t n => t.insertDirectory (place.take n)) t).at? other =
          (t.at? other).or (if ∃ i < k, other = place.take i then some madeDirectory else none) := by
    induction k with
    | zero => exact ⟨ht, fun other => by simp⟩
    | succ k ih =>
      obtain ⟨hsound, hat⟩ := ih
      rw [List.range_succ, List.foldl_append, List.foldl_cons, List.foldl_nil]
      refine ⟨hsound.insertDirectory _, fun other => ?_⟩
      rw [hsound.at?_insertDirectory, hat, Option.or_assoc]
      congr 1
      have hlast : (∃ i < k + 1, other = place.take i) ↔
          (∃ i < k, other = place.take i) ∨ other = place.take k := Nat.exists_lt_succ_right
      simp only [hlast]
      by_cases hearlier : ∃ i < k, other = place.take i
      · simp only [hearlier, true_or, if_true, Option.some_or]
      · simp only [hearlier, false_or, if_false, Option.none_or]
  refine ⟨(hsteps _).1, fun other => ((hsteps _).2 other).trans ?_⟩
  have htakes : (∃ i < place.length + 1, other = place.take i) ↔ other <+: place := by
    constructor
    · rintro ⟨i, -, rfl⟩
      exact List.take_prefix i place
    · exact fun h => ⟨other.length, Nat.lt_succ_of_le h.length_le, List.prefix_iff_eq_take.1 h⟩
  simp only [htakes]

/-! ## Following names -/

/-- What is found is what the tree has at the place, unless its directory has been removed. -/
theorem numberAt?_of_walk {isFollowed : Bool} {fuel links : Nat} {at_ : Standpoint} {names : List Bytes}
    {found : Location} (h : t.walk isFollowed fuel links at_ names = .ok found) (hlost : found.isLost = false) :
    t.numberAt? found.place = found.number? := by
  induction fuel generalizing links at_ names with
  | zero => cases h
  | succ fuel ih =>
    cases names with
    | nil =>
      cases h
      simpa [isGone] using hlost
    | cons name rest =>
      rw [walk] at h
      split at h
      · exact ih h
      split at h
      · exact ih h
      split at h
      · cases h
      dsimp only at h
      split at h
      · rename_i hnone
        split at h
        · cases h
          simpa [show t.isGone at_ = false from hlost] using hnone
        · cases h
      -- what is there: a link, a directory, or anything else
      rename_i number hsome
      have hnumber : t.numberAt? (at_.place ++ [name]) = some number := by
        split at hsome
        · cases hsome
        · exact hsome
      split at h
      · split at h
        · cases h
          exact hnumber
        split at h
        · cases h
        split at h
        · cases h
        · exact ih h
      · exact ih h
      · split at h
        · cases h
          exact hnumber
        · cases h

theorem length_splitOn_le (sep : UInt8) (bs : Bytes) : (bs.splitOn sep).length ≤ bs.length + 1 := by
  induction bs with
  | nil => simp
  | cons b bs ih =>
    rw [List.splitOn_cons_eq_if_modifyHead]
    split
    · simpa using ih
    · rw [List.length_modifyHead, List.length_cons]
      omega

/-- Between the bytes of a path there are no more names than bytes, and one. -/
theorem length_steps_le (p : Path) : (steps p).length ≤ p.bytes.length + 1 := by
  refine Nat.le_trans ?_ (length_splitOn_le Path.slash p.bytes)
  rw [steps, List.length_append]
  split
  · -- the empty piece at the end is left out for the dot
    rename_i hlast
    have hlt : ((p.bytes.splitOn Path.slash).filter (· ≠ [])).length < (p.bytes.splitOn Path.slash).length :=
      List.length_filter_lt_length_iff_exists.2 ⟨[], List.mem_of_getLast? hlast, by simp⟩
    exact hlt
  · exact List.length_filter_le _ _

/-- No link holds more than a path may. -/
def HasShortLinks (t : FileTree) : Prop :=
  ∀ number n target, t.node? number = some n → n.kind = .link target → target.length < maxPath

/-- More steps than there are names, on the way and in as many links as are allowed, change nothing. -/
theorem HasShortLinks.walk_add (ht : t.HasShortLinks) {isFollowed : Bool} {fuel links : Nat} {at_ : Standpoint}
    {names : List Bytes} (h : names.length + links * maxPath < fuel) (k : Nat) :
    t.walk isFollowed (fuel + k) links at_ names = t.walk isFollowed fuel links at_ names := by
  induction fuel generalizing links at_ names with
  | zero => exact absurd h (Nat.not_lt_zero _)
  | succ fuel ih =>
    rw [Nat.succ_add]
    cases names with
    | nil => rfl
    | cons name rest =>
      rw [List.length_cons, Nat.succ_add] at h
      have hrest (at_ : Standpoint) : t.walk isFollowed (fuel + k) links at_ rest =
          t.walk isFollowed fuel links at_ rest := ih (Nat.lt_of_succ_lt_succ h)
      rw [walk, walk]
      simp only [hrest]
      -- only a link makes the way longer, and there is one link less to go through
      split
      · rfl
      split
      · rfl
      split
      · rfl
      split
      · rfl
      split
      · rename_i number _ _ target hkind
        split
        · rfl
        cases links with
        | zero => rfl
        | succ links =>
          dsimp only
          split
          · rfl
          refine ih ?_
          obtain ⟨n, hnode, hn⟩ := Option.map_eq_some_iff.1 hkind
          have hle := length_steps_le ⟨target⟩
          have hlt := ht number n target hnode hn
          rw [Nat.succ_mul] at h
          rw [List.length_append]
          dsimp only at hle
          omega
      · rfl
      · rfl

/-- **The bound on the steps ends no walk** along a path that the system looks at. -/
theorem HasShortLinks.walk_maxSteps (ht : t.HasShortLinks) {isFollowed : Bool} {at_ : Standpoint} {p : Path}
    (hp : accept p = .ok ()) (k : Nat) :
    t.walk isFollowed (maxSteps + k) maxLinks at_ (steps p) = t.walk isFollowed maxSteps maxLinks at_ (steps p) := by
  refine ht.walk_add ?_ k
  have hlt : p.bytes.length < maxPath := by
    unfold accept at hp
    split at hp
    · cases hp
    split at hp
    · cases hp
    split at hp
    · cases hp
    · omega
  have hle := length_steps_le p
  have hmax : maxPath + maxLinks * maxPath < maxSteps := by decide
  omega

theorem hasShortLinks_empty : empty.HasShortLinks := by
  intro number n target hnode hkind
  have hset : (({ empty with nodes := ∅ } : FileTree).setNode rootNode ⟨.directory, 0o755, 0⟩).node? number = some n :=
    hnode
  rw [node?_setNode] at hset
  split at hset
  · cases hset
    cases hkind
  · cases hset

theorem HasShortLinks.insert (ht : t.HasShortLinks) (place : Place)
    (hn : ∀ target, n.kind = .link target → target.length < maxPath) : (t.insert place n).HasShortLinks := by
  by_cases hplace : place = []
  · rwa [FileTree.insert, if_pos hplace]
  · intro number n' target hnode hkind
    have hset : ((t.link place t.next).setNode t.next n).node? number = some n' := by
      rwa [FileTree.insert, if_neg hplace] at hnode
    rw [node?_setNode] at hset
    split at hset
    · cases hset
      exact hn target hkind
    · exact ht number n' target hset hkind

theorem HasShortLinks.insertDirectories (ht : t.HasShortLinks) (place : Place) :
    (t.insertDirectories place).HasShortLinks := by
  refine List.foldlRecOn _ _ ht fun t ht k _ => ?_
  unfold insertDirectory
  split
  · exact ht
  · exact ht.insert _ nofun

/-- A name that is looked up, and not one that stands for a directory itself. -/
structure IsStep (name : Bytes) : Prop where
  isName : Path.IsName name
  length : name.length ≤ maxName

/-- A name in a directory leads to what is there, unless it is a link. -/
theorem walk_name {isFollowed : Bool} {fuel links : Nat} {at_ : Standpoint} {name : Bytes} {rest : List Bytes}
    (hname : IsStep name) (hhere : t.numberAt? at_.place = some at_.node)
    (hnumber : t.numberAt? (at_.place ++ [name]) = some number) (hnode : t.node? number = some n)
    (hlink : ∀ target, n.kind ≠ .link target) :
    t.walk isFollowed (fuel + 1) links at_ (name :: rest) =
      if n.kind = .directory then t.walk isFollowed fuel links ⟨at_.place ++ [name], number⟩ rest
      else if rest = [] then .ok ⟨at_.place ++ [name], some number, false⟩ else .error .notDirectory := by
  have hgone : t.isGone at_ = false := by simp [isGone, hhere]
  rw [walk, if_neg hname.isName.ne_dot, if_neg hname.isName.ne_dotDot, if_neg (Nat.not_lt_of_le hname.length)]
  simp only [hgone, hnumber]
  rw [if_neg Bool.false_ne_true]
  dsimp only
  rw [hnode, Option.map_some]
  cases hkind : n.kind with
  | link target => exact absurd hkind (hlink target)
  | _ => rfl

theorem isDirectory_eq_true (h : t.isDirectory place = true) :
    ∃ number n, t.numberAt? place = some number ∧ t.node? number = some n ∧ n.kind = .directory := by
  obtain ⟨mode, time, hat⟩ := isDirectory_iff.1 h
  obtain ⟨number, hnumber, hnode⟩ := Option.bind_eq_some_iff.1 hat
  exact ⟨number, _, hnumber, hnode, rfl⟩

/-- Through directories the names of a place lead to it. -/
theorem walk_directories {isFollowed : Bool} {fuel links : Nat} (at_ : Standpoint) {front : List Bytes}
    (rest : List Bytes) (hhere : t.numberAt? at_.place = some at_.node) (hnames : ∀ name ∈ front, IsStep name)
    (hdirs : ∀ dir, dir <+: front → t.isDirectory (at_.place ++ dir) = true) :
    ∃ number, t.numberAt? (at_.place ++ front) = some number ∧
      t.walk isFollowed (front.length + fuel) links at_ (front ++ rest) =
        t.walk isFollowed fuel links ⟨at_.place ++ front, number⟩ rest := by
  induction front generalizing at_ with
  | nil => exact ⟨at_.node, by simpa using hhere, by simp⟩
  | cons name front ih =>
    obtain ⟨hname, hnames⟩ := List.forall_mem_cons.1 hnames
    obtain ⟨number, n, hnumber, hnode, hkind⟩ := isDirectory_eq_true (hdirs [name] (by simp))
    have hmore (dir : List Bytes) (hdir : dir <+: front) :
        t.isDirectory (at_.place ++ [name] ++ dir) = true := by
      rw [List.append_assoc]
      exact hdirs (name :: dir) (List.cons_prefix_cons.2 ⟨rfl, hdir⟩)
    obtain ⟨last, hlast, hwalk⟩ := @ih ⟨at_.place ++ [name], number⟩ hnumber hnames hmore
    rw [List.append_assoc, List.singleton_append] at hlast hwalk
    refine ⟨last, hlast, ?_⟩
    rw [List.length_cons, Nat.succ_add, List.cons_append,
      walk_name hname hhere hnumber hnode (fun target => by rw [hkind]; nofun), if_pos hkind, hwalk]

theorem steps_ofNames {names : List Bytes} (hne : names ≠ []) (h : ∀ name ∈ names, Path.IsName name) :
    steps (Path.ofNames names) = names := by
  rw [steps, Path.splitOn_ofNames hne fun name hname => (h name hname).slash_notMem]
  have hfilter : names.filter (· ≠ []) = names :=
    List.filter_eq_self.2 fun name hname => decide_eq_true (h name hname).ne_nil
  have hlast : ([] :: names).getLast? ≠ some [] := by
    rw [List.getLast?_cons_of_ne_nil hne, List.getLast?_eq_some_getLast hne]
    exact fun heq => (h _ (List.getLast_mem hne)).ne_nil (Option.some.inj heq)
  rw [if_neg hlast, List.append_nil, List.filter_cons_of_neg (by simp), hfilter]

/-- What the system asks of the names of a path. -/
structure AreSteps (names : List Bytes) : Prop where
  isStep : ∀ name ∈ names, IsStep name
  zero_notMem : ∀ name ∈ names, 0 ∉ name
  length : (Path.ofNames names).bytes.length < maxPath

theorem AreSteps.accept {names : List Bytes} (h : AreSteps names) : accept (Path.ofNames names) = .ok () := by
  have hzero : 0 ∉ (Path.ofNames names).bytes := by
    cases names with
    | nil => decide
    | cons name names =>
      intro hmem
      obtain ⟨piece, hpiece, hmem⟩ := List.mem_flatMap.1 hmem
      rcases List.mem_cons.1 hmem with hslash | hmem
      · exact absurd hslash (by decide)
      · exact h.zero_notMem piece hpiece hmem
  have hne : (Path.ofNames names).bytes ≠ [] := by
    cases names <;> simp [Path.ofNames]
  rw [FileTree.accept, if_neg hzero, if_neg hne, if_neg (Nat.not_le_of_lt h.length)]

theorem AreSteps.length_lt {names : List Bytes} (h : AreSteps names) : names.length < maxPath := by
  refine Nat.lt_of_le_of_lt ?_ h.length
  cases names with
  | nil => exact Nat.zero_le _
  | cons name names =>
    have hle (names : List Bytes) : names.length ≤ (names.flatMap (Path.slash :: ·)).length := by
      induction names with
      | nil => exact Nat.le_refl _
      | cons name names ih =>
        rw [List.flatMap_cons, List.length_append, List.length_cons, List.length_cons]
        omega
    exact hle (name :: names)

/-- **A path along the names of a place leads to what is there,** if it is no link and directories are on
the way. -/
theorem resolve_ofNames (isFollowed : Bool) (at_ : Standpoint) {front : List Bytes} {name : Bytes}
    (hnames : AreSteps (front ++ [name])) (hdirs : ∀ dir, dir <+: front → t.isDirectory dir = true)
    (hat : t.at? (front ++ [name]) = some n) (hlink : ∀ target, n.kind ≠ .link target) :
    ∃ number, t.node? number = some n ∧
      t.resolve isFollowed at_ (Path.ofNames (front ++ [name])) = .ok (front ++ [name], number) := by
  obtain ⟨number, hnumber, hnode⟩ := Option.bind_eq_some_iff.1 hat
  refine ⟨number, hnode, ?_⟩
  have horigin : origin at_ (Path.ofNames (front ++ [name])) = rootStandpoint :=
    if_pos (Path.isAbsolute_ofNames _)
  obtain ⟨hfront, hname⟩ := List.forall_mem_append.1 hnames.isStep
  -- the steps are enough for all names and one look at the last directory
  obtain ⟨fuel, hfuel⟩ : ∃ fuel, maxSteps = front.length + (fuel + 2) := by
    have hlt := hnames.length_lt
    have hmax : maxPath + 2 ≤ maxSteps := by decide
    rw [List.length_append] at hlt
    exact ⟨maxSteps - front.length - 2, by omega⟩
  have hwalk : t.walk isFollowed maxSteps maxLinks rootStandpoint (front ++ [name]) =
      .ok ⟨front ++ [name], some number, false⟩ := by
    obtain ⟨dir, hdir, hwalk⟩ := walk_directories rootStandpoint [name] rfl hfront hdirs
    rw [hfuel, hwalk, walk_name (List.forall_mem_singleton.1 hname) hdir hnumber hnode hlink]
    split
    · rw [walk]
      simp [isGone, rootStandpoint, hnumber]
    · rfl
  rw [resolve, locate, hnames.accept,
    steps_ofNames (by simp) fun name hname => (hnames.isStep name hname).isName, horigin]
  change (do let found ← t.walk isFollowed maxSteps maxLinks rootStandpoint (front ++ [name]); _) = _
  rw [hwalk]
  rfl

/-- **What is put at a place is read there,** along directories that are there or are made. -/
theorem IsSound.readFile_insert (ht : t.IsSound) (at_ : Standpoint) {front : List Bytes} {name : Bytes}
    (hnames : AreSteps (front ++ [name]))
    (hfree : ∀ dir, dir <+: front → t.at? dir = none ∨ t.isDirectory dir = true)
    (hlink : ∀ target, n.kind ≠ .link target) :
    ((t.insertDirectories front).insert (front ++ [name]) n).readFile at_ (Path.ofNames (front ++ [name])) =
      contentOf n := by
  obtain ⟨hsound, hmade⟩ := ht.insertDirectories front
  have hne : front ++ [name] ≠ [] := by simp
  have hdirs (dir : List Bytes) (hdir : dir <+: front) :
      ((t.insertDirectories front).insert (front ++ [name]) n).isDirectory dir = true := by
    -- a directory on the way is not the place itself, so it is as it was made
    have hshort : dir ≠ front ++ [name] := by
      rintro rfl
      exact absurd hdir.length_le (by simp)
    rw [isDirectory_iff, hsound.at?_insert hne, if_neg hshort, hmade, if_pos hdir]
    rcases hfree dir hdir with hnone | hthere
    · exact ⟨_, _, by rw [hnone]; rfl⟩
    · obtain ⟨mode, time, hat⟩ := isDirectory_iff.1 hthere
      exact ⟨mode, time, by rw [hat]; rfl⟩
  obtain ⟨number, hnode, hresolve⟩ := resolve_ofNames true at_ hnames hdirs
    (by rw [hsound.at?_insert hne, if_pos rfl]) hlink
  rw [readFile, look, hresolve]
  change contentOf ((FileTree.node? _ number).getD default) = _
  rw [hnode]
  rfl

end JavacLauncher.FileTree

namespace JavacLauncher.Machine

open FileTree

variable {m : Machine} {p q : Path} {content : Bytes} {isExecutable : Bool}

/-! ## The files of a machine -/

theorem content?_eq_some : m.content? p = some content ↔
    ∃ mode time, m.tree.at? (m.place p) = some ⟨.file content, mode, time⟩ := by
  unfold content?
  cases hat : m.tree.at? (m.place p) with
  | none => simp
  | some n =>
    obtain ⟨kind, mode, time⟩ := n
    cases kind <;> simp

theorem isSound_put (h : m.tree.IsSound) (p : Path) (kind : FileKind) (isExecutable : Bool) :
    (m.put p kind isExecutable).tree.IsSound :=
  (h.insertDirectories _).1.insert _ _

/-- **A file that is put on a machine is there, and all other files stay as they are.** -/
theorem content?_put (h : m.tree.IsSound) (hplace : m.place p ≠ []) :
    (m.put p (.file content) isExecutable).content? q =
      if m.place q = m.place p then some content else m.content? q := by
  obtain ⟨hsound, hmade⟩ := h.insertDirectories (m.place p).dropLast
  have hat : (m.put p (.file content) isExecutable).tree.at? (m.place q) = _ := hsound.at?_insert hplace
  ext held
  rw [content?_eq_some]
  change (∃ mode time, (m.put p (.file content) isExecutable).tree.at? (m.place q) = _) ↔ _
  rw [hat]
  split
  · simp
  · rw [content?_eq_some, hmade]
    cases m.tree.at? (m.place q) with
    | none => simp [madeDirectory]  -- a directory that is made holds nothing
    | some n => simp

/-- **It is read there.** -/
theorem fileContent_put (h : m.tree.IsSound) (hnames : AreSteps (m.place p)) (hplace : m.place p ≠ [])
    (hfree : ∀ dir, dir <+: (m.place p).dropLast → m.tree.at? dir = none ∨ m.tree.isDirectory dir = true) :
    (m.put p (.file content) isExecutable).fileContent (Path.ofNames (m.place p)) = .ok content := by
  have hnames' := hnames
  rw [← List.dropLast_concat_getLast hplace] at hnames'
  have hread := h.readFile_insert (n := ⟨.file content, if isExecutable then programMode else plainMode, m.clock⟩)
    m.standpoint hnames' hfree nofun
  rw [List.dropLast_concat_getLast hplace] at hread
  exact hread

theorem content?_remove (hplace : m.place p ≠ []) :
    (m.remove p).content? q = if m.place p <+: m.place q then none else m.content? q := by
  have hat : (m.remove p).tree.at? (m.place q) = _ := at?_erase hplace
  ext held
  rw [content?_eq_some]
  change (∃ mode time, (m.remove p).tree.at? (m.place q) = _) ↔ _
  rw [hat]
  split
  · simp
  · rw [content?_eq_some]

/-- A property of file systems that is kept by everything from which the system's files are made. -/
theorem systemTree_induction {P : FileTree → Prop} (hempty : P .empty)
    (hdirectories : ∀ t place, P t → P (t.insertDirectories place))
    (hinsert : ∀ t place n, (∀ target, n.kind = .link target → target.length < maxPath) → P t → P (t.insert place n)) :
    P systemTree := by
  have hlinks : ∀ e ∈ systemLinks, (Bytes.ofString e.2).length < maxPath := by decide
  unfold systemTree
  refine List.foldlRecOn systemFiles _ ?_ fun t ht e _ => hinsert t _ _ nofun ht
  refine List.foldlRecOn systemDevices _ ?_ fun t ht e _ => hinsert t _ _ nofun ht
  refine List.foldlRecOn systemLinks _ ?_ fun t ht e he => hinsert t _ _ ?_ ht
  · refine List.foldlRecOn programNames _ ?_ fun t ht name _ => hinsert t _ _ nofun ht
    exact List.foldlRecOn systemDirectories _ hempty fun t ht dir _ => hdirectories t _ ht
  · rintro target ⟨⟩
    exact hlinks e he

/-- **No two files of a machine share a new node,** from the first machine on. -/
theorem isSound_fresh (workplace program : Path) : (fresh workplace program).tree.IsSound := by
  have hsystem : systemTree.IsSound := systemTree_induction isSound_empty
    (fun t place ht => (ht.insertDirectories place).1) fun t place n _ ht => ht.insert place n
  exact (hsystem.insertDirectories _).1

/-- The bound on the steps ends no walk on it. -/
theorem hasShortLinks_fresh (workplace program : Path) : (fresh workplace program).tree.HasShortLinks := by
  have hsystem : systemTree.HasShortLinks := systemTree_induction hasShortLinks_empty
    (fun t place ht => ht.insertDirectories place) fun t place n hn ht => ht.insert place hn
  exact hsystem.insertDirectories _

end JavacLauncher.Machine
