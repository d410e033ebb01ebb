import JavacLauncher.Text.Basic

/-!
# Menus

A menu shows numbered choices in columns that are as wide as the longest choice asks for. Between columns stand
tabs as far as possible, and blanks.
-/

namespace JavacLauncher.Shell.Menu

/-- How wide a line is, and how far the stops of tabs are apart. -/
def lineWidth : Nat := 80
def tabWidth : Nat := 8

/-- How many digits a number has. -/
def digits (n : Nat) : Nat := (Text.ofNat n).length

/-- Tabs and blanks from one column to another one. -/
def indent : Nat → Nat → Nat → Text
  | 0, _, _ => []
  | fuel + 1, start, goal =>
    if start ≥ goal then []
    else if goal / tabWidth > start / tabWidth then '\t' :: indent fuel (start + (tabWidth - start % tabWidth)) goal
    else ' ' :: indent fuel (start + 1) goal

/-- A choice with its number, which takes so many columns. -/
def entry (width : Nat) (number : Nat) (choice : Text) : Text :=
  let n := Text.ofNat number
  List.replicate (width - n.length) ' ' ++ n ++ ") ".toList ++ choice

/-- A line of a menu: choices, each with its number, from a column on. -/
def line (first other width : Nat) (column : Nat) : List (Nat × Text) → Text
  | [] => []
  | [(n, choice)] => entry (if column = 0 then first else other) n choice
  | (n, choice) :: rest =>
    let t := entry (if column = 0 then first else other) n choice
    t ++ indent width (column + t.length) (column + width) ++ line first other width (column + width) rest

/-- A menu. -/
def text (choices : List Text) : Text :=
  let count := choices.length
  let width := (choices.foldl (fun n c => max n c.length) 0) + digits count + 4
  let columns := max 1 (lineWidth / width)
  let rows := (count + columns - 1) / columns
  let rows := if rows ≤ 1 then count else rows
  let numbered := choices.zipIdx.map fun e => (e.2 + 1, e.1)
  (List.range rows).flatMap fun row =>
    let entries := numbered.filter fun e => (e.1 - 1) % rows = row
    line (digits rows) (digits count) width 0 entries ++ ['\n']

end JavacLauncher.Shell.Menu
