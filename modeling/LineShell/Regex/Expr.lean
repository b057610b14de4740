import LineShell.Unicode.Property

/-!
# Expressions and what they match

An expression relates the positions of a text: it matches from one position to another. A set of
positions is kept as the bits of a number, and an expression takes the set of positions from which
it may begin to the set of those at which it may end. Whether anything matches at all does not
depend on which of several matches would be preferred.
-/

namespace LineShell.Regex

open Unicode

/-- Assertions about what stands before and after a position. -/
inductive Look
  | textStart
  | textEnd
  | lineStart (crlf : Bool)
  | lineEnd (crlf : Bool)
  | boundary (unicode negated : Bool)
  | wordStart (unicode : Bool)
  | wordEnd (unicode : Bool)
  | wordStartHalf (unicode : Bool)
  | wordEndHalf (unicode : Bool)

/-- An expression over what it says of single characters and of positions. -/
inductive Expr (α β : Type)
  | empty
  | one (set : α)
  | look (assertion : β)
  | seq (first second : Expr α β)
  | alt (first second : Expr α β)
  | repeated (least : Nat) (most : Option Nat) (expr : Expr α β)

namespace Look

def isWord (unicode : Bool) (c : Option Char) : Bool :=
  c.any fun c => (word unicode).contains c.toNat

/-- Whether an assertion holds between two characters, which are missing at the ends. -/
def holds (before after : Option Char) : Look → Bool
  | .textStart => before.isNone
  | .textEnd => after.isNone
  | .lineStart false => before.all (· == '\n')
  | .lineStart true => before.all (· == '\n') || (before == some '\r' && after != some '\n')
  | .lineEnd false => after.all (· == '\n')
  | .lineEnd true => after.all (· == '\r') || (after == some '\n' && before != some '\r')
  | .boundary unicode negated => (isWord unicode before != isWord unicode after) != negated
  | .wordStart unicode => !isWord unicode before && isWord unicode after
  | .wordEnd unicode => isWord unicode before && !isWord unicode after
  | .wordStartHalf unicode => !isWord unicode before
  | .wordEndHalf unicode => !isWord unicode after

end Look

/-- The number whose bits are the list, lowest first. -/
def bitSet : List Bool → Nat
  | [] => 0
  | b :: rest => b.toNat + 2 * bitSet rest

/-- For each position of a text, whether a condition on the characters around it holds. -/
def around (holds : Option Char → Option Char → Bool) : Option Char → List Char → List Bool
  | before, [] => [holds before none]
  | before, c :: rest => holds before (some c) :: around holds (some c) rest

/-- So many steps. A step that changes nothing makes the ones after it needless. -/
def iterate (f : Nat → Nat) : Nat → Nat → Nat
  | 0, positions => positions
  | n + 1, positions =>
    let next := f positions
    if next = positions then positions else iterate f n next

/-- The known positions and those reached by at most so many steps from the latest of them. A round
that reaches nothing new is the last one. -/
def reach (f : Nat → Nat) : Nat → Nat → Nat → Nat
  | 0, known, _ => known
  | n + 1, known, latest =>
    let next := known ||| f latest
    if next = known then known else reach f n next (next ^^^ known)

namespace Expr

/-- Replace what an expression says of characters and positions. -/
def map (f : α → γ) (g : β → δ) : Expr α β → Expr γ δ
  | .empty => .empty
  | .one set => .one (f set)
  | .look assertion => .look (g assertion)
  | .seq a b => .seq (a.map f g) (b.map f g)
  | .alt a b => .alt (a.map f g) (b.map f g)
  | .repeated least most a => .repeated least most (a.map f g)

/-- The positions at which a match may end, out of those at which it may begin. A single character
has the set of positions before which it matches, an assertion the set of those where it holds.
More steps than there are positions lead nowhere new, since a step that goes on must go forward. -/
def ends (positions : Nat) : Expr Nat Nat → Nat → Nat
  | .empty, start => start
  | .one set, start => (start &&& set) <<< 1
  | .look set, start => start &&& set
  | .seq a b, start => b.ends positions (a.ends positions start)
  | .alt a b, start => a.ends positions start ||| b.ends positions start
  | .repeated least most a, start =>
    let optional := (most.map (· - least)).getD positions
    let begun := iterate (a.ends positions) (min least positions) start
    reach (a.ends positions) (min optional positions) begun begun

/-- Whether an expression matches somewhere in a text. -/
def matchesIn (expr : Expr CharSet Look) (text : List Char) : Bool :=
  let ofSet (set : CharSet) := bitSet (text.map fun c => set.contains c.toNat)
  let ofLook (assertion : Look) :=
    bitSet (around (fun before after => assertion.holds before after) none text)
  let positions := text.length + 1
  (expr.map ofSet ofLook).ends positions (bitSet (List.replicate positions true)) != 0

end Expr

end LineShell.Regex
