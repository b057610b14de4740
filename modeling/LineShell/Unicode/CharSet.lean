import LineShell.Unicode.Ranges
import LineShell.Unicode.Table.Folding
import Std.Data.HashMap

/-!
# Sets of characters

A set is written with ranges of code points, tables of them, and the operations on sets. Folding a
set adds every character that differs from a member in case only.
-/

namespace LineShell.Unicode

open Text

/-- The sets of code points that differ in case only. -/
def foldingSets : List (List Nat) :=
  (foldingTable.flatMap fun line => words line.toList).map fun item =>
    (cutAt (· == '=') item).map Ranges.hexValue

/-- For each code point, all those that differ from it in case only, itself included. -/
def foldings : Std.HashMap Nat (List Nat) :=
  foldingSets.foldl (fun map codes => codes.foldl (fun map code => map.insert code codes) map) ∅

inductive CharSet
  | ranges (table : Ranges)
  | union (a b : CharSet)
  | intersection (a b : CharSet)
  | complement (a : CharSet)
  | folded (unicode : Bool) (a : CharSet)

namespace CharSet

def empty : CharSet := .ranges []

def all : CharSet := .ranges [(0, 0x10FFFF)]

def range (low high : Char) : CharSet := .ranges [(low.toNat, high.toNat)]

def single (c : Char) : CharSet := range c c

def ofTable (table : List String) : CharSet := .ranges (Ranges.ofTable table)

def unionAll (sets : List CharSet) : CharSet := sets.foldr .union empty

def difference (a b : CharSet) : CharSet := .intersection a (.complement b)

def symmetricDifference (a b : CharSet) : CharSet := .union (difference a b) (difference b a)

/-- The code points that differ from one in case only, itself included. -/
def variants (unicode : Bool) (code : Nat) : List Nat :=
  if unicode then foldings.getD code [code]
  else if 0x41 ≤ code && code ≤ 0x5A then [code, code + 0x20]
  else if 0x61 ≤ code && code ≤ 0x7A then [code, code - 0x20]
  else [code]

def contains : CharSet → Nat → Bool
  | .ranges table, code => table.contains code
  | .union a b, code => a.contains code || b.contains code
  | .intersection a b, code => a.contains code && b.contains code
  | .complement a, code => !a.contains code
  | .folded unicode a, code => (variants unicode code).any a.contains

@[simp] theorem contains_union (a b : CharSet) (code : Nat) :
    (union a b).contains code = (a.contains code || b.contains code) := rfl

@[simp] theorem contains_complement (a : CharSet) (code : Nat) :
    (complement a).contains code = !a.contains code := rfl

@[simp] theorem contains_difference (a b : CharSet) (code : Nat) :
    (difference a b).contains code = (a.contains code && !b.contains code) := rfl

@[simp] theorem contains_unionAll (sets : List CharSet) (code : Nat) :
    (unionAll sets).contains code = sets.any (·.contains code) := by
  induction sets with
  | nil => rfl
  | cons set sets ih =>
    rw [unionAll, List.foldr_cons, contains_union, List.any_cons, ← ih, unionAll]

end CharSet

end LineShell.Unicode
