import JavacLauncher.Location

/-!
# Paths from the root

A path means something from the root, or from the current directory. Which path from the root it comes
to is said here without `absolute` (`ResolvesTo`): the path itself, or the current directory with the path
behind it. Only a relative path needs the directory, so making a path absolute fails exactly where a
relative path meets a machine without one, and succeeds exactly with the path that it resolves to
(`absolute_eq_ok_iff`).
-/

namespace JavacLauncher.Path

/-- The path that `p` comes to from the root. -/
inductive ResolvesTo (currentDir : Except SystemError Path) (p : Path) : Path → Prop where
  /-- An absolute path is from the root already. -/
  | itself : p.IsAbsolute → ResolvesTo currentDir p p
  /-- A relative path stands behind the current directory. -/
  | below {dir : Path} : ¬p.IsAbsolute → currentDir = .ok dir → ResolvesTo currentDir p (dir.join p)

variable {currentDir : Except SystemError Path} {p q : Path}

/-- **Making a path absolute is resolving it.** -/
theorem absolute_eq_ok_iff : p.absolute currentDir = .ok q ↔ p.ResolvesTo currentDir q := by
  constructor
  · intro h
    by_cases hp : p.IsAbsolute
    · rw [absolute_of_isAbsolute hp] at h
      obtain rfl := Except.ok.inj h
      exact .itself hp
    · unfold absolute at h
      rw [if_neg hp] at h
      split at h
      · obtain rfl := Except.ok.inj h
        exact .below hp rfl
      · cases h
  · rintro (hp | ⟨hp, rfl⟩)
    · exact absolute_of_isAbsolute hp currentDir
    · exact if_neg hp

/-- An absolute path comes to nothing but itself. -/
theorem ResolvesTo.eq_of_isAbsolute (h : p.ResolvesTo currentDir q) (hp : p.IsAbsolute) : q = p := by
  cases h with
  | itself => rfl
  | below hrelative => exact absurd hp hrelative

/-- What a path comes to is absolute, for the current directory is. -/
theorem ResolvesTo.isAbsolute (h : p.ResolvesTo currentDir q)
    (hdir : ∀ dir, currentDir = .ok dir → dir.IsAbsolute) : q.IsAbsolute := by
  cases h with
  | itself hp => exact hp
  | below _ hcurrent => exact (hdir _ hcurrent).join p

/-- Seen from a directory that is there, every path is absolute or joined to it. -/
theorem absolute_ok (dir p : Path) : p.absolute (.ok dir) = .ok (dir.join p) := by
  unfold absolute
  split
  · rename_i habsolute
    rw [join_of_isAbsolute habsolute]
  · rfl

end JavacLauncher.Path
