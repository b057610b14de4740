import LineShell.Text.Split

/-!
# Ranges of code points

Tables of characters are texts: hexadecimal numbers and ranges, with blanks between them.
-/

namespace LineShell.Unicode

open Text

/-- Ranges of code points with both ends, in ascending order. -/
abbrev Ranges := List (Nat × Nat)

namespace Ranges

/-- The search ends at the first range that begins later. -/
def contains : Ranges → Nat → Bool
  | [], _ => false
  | (low, high) :: ranges, code => low ≤ code && (code ≤ high || contains ranges code)

def hexValue (digits : List Char) : Nat :=
  digits.foldl (fun value c =>
    value * 16 + (if c.isDigit then c.toNat - '0'.toNat else c.toUpper.toNat - 'A'.toNat + 10)) 0

/-- Read a table of hexadecimal numbers and ranges. -/
def ofTable (table : List String) : Ranges :=
  (table.flatMap fun line => words line.toList).map fun item =>
    match cutAt (· == '-') item with
    | [low, high] => (hexValue low, hexValue high)
    | _ => (hexValue item, hexValue item)

end Ranges

end LineShell.Unicode
