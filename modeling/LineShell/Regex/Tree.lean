import LineShell.Regex.Error

/-!
# The form of an expression

A tree shows how an expression was written, with the stretch of text that each part takes up. What
flags make of it is not decided here.
-/

namespace LineShell.Regex

inductive Flag
  | caseInsensitive
  | multiLine
  | dotMatchesNewLine
  | swapGreed
  | unicode
  | crlf
  | ignoreBlank
  deriving DecidableEq

/-- Flags after the negation are taken back. -/
inductive FlagItem
  | flag (flag : Flag)
  | negation
  deriving DecidableEq

inductive Anchor
  | lineStart
  | lineEnd
  | textStart
  | textEnd
  | boundary
  | notBoundary
  | wordStart
  | wordEnd
  | wordStartHalf
  | wordEndHalf

/-- The character classes of one letter. -/
inductive Shorthand
  | digit
  | space
  | word

/-- A name in braces, or a name and a value. -/
inductive PropertyName
  | alone (name : String)
  | valued (name value : String)

/-- A character as it was written; `isByte` is set for two hexadecimal digits. -/
structure Literal where
  span : Span
  char : Char
  isByte : Bool

inductive SetOperation
  | intersection
  | difference
  | symmetricDifference

/-- What stands between brackets. -/
inductive ClassItem
  | empty (span : Span)
  | literal (literal : Literal)
  | range (span : Span) (low high : Literal)
  | ascii (span : Span) (negated : Bool) (ranges : List (Nat × Nat))
  | property (span : Span) (negated : Bool) (name : PropertyName)
  | shorthand (span : Span) (negated : Bool) (kind : Shorthand)
  | bracketed (span : Span) (negated : Bool) (item : ClassItem)
  | union (span : Span) (items : List ClassItem)
  | operation (span : Span) (kind : SetOperation) (left right : ClassItem)

namespace ClassItem

def span : ClassItem → Span
  | .empty span => span
  | .literal written => written.span
  | .range span _ _ => span
  | .ascii span _ _ => span
  | .property span _ _ => span
  | .shorthand span _ _ => span
  | .bracketed span _ _ => span
  | .union span _ => span
  | .operation span _ _ _ => span

end ClassItem

inductive Tree
  | empty (span : Span)
  | flags (span : Span) (items : List FlagItem)
  | literal (literal : Literal)
  | dot (span : Span)
  | anchor (span : Span) (kind : Anchor)
  | property (span : Span) (negated : Bool) (name : PropertyName)
  | shorthand (span : Span) (negated : Bool) (kind : Shorthand)
  | bracketed (span : Span) (negated : Bool) (item : ClassItem)
  | repetition (span : Span) (least : Nat) (most : Option Nat) (tree : Tree)
  | group (span : Span) (flags : List FlagItem) (tree : Tree)
  | alternation (span : Span) (trees : List Tree)
  | concat (span : Span) (trees : List Tree)

namespace Tree

def span : Tree → Span
  | .empty span => span
  | .flags span _ => span
  | .literal written => written.span
  | .dot span => span
  | .anchor span _ => span
  | .property span _ _ => span
  | .shorthand span _ _ => span
  | .bracketed span _ _ => span
  | .repetition span _ _ _ => span
  | .group span _ _ => span
  | .alternation span _ => span
  | .concat span _ => span

/-- One tree for several in a row. -/
def ofConcat (span : Span) : List Tree → Tree
  | [] => .empty span
  | [tree] => tree
  | trees => .concat span trees

end Tree

/-! ## Depth

Each part that holds others is one level deeper than what it stands in.
-/

/-- The depth inside a part that holds others. -/
def deeper (depth : Nat) (span : Span) : Except Error Nat :=
  if nestLimit < depth + 1 then .error (.of .nestedTooDeep span) else .ok (depth + 1)

mutual

def ClassItem.checkDepth (depth : Nat) : ClassItem → Except Error Unit
  | .bracketed span _ item => do
    let depth ← deeper depth span
    item.checkDepth depth
  | .union span items => do
    let depth ← deeper depth span
    checkItems depth items
  | .operation span _ left right => do
    let depth ← deeper depth span
    left.checkDepth depth
    right.checkDepth depth
  | _ => .ok ()

def checkItems (depth : Nat) : List ClassItem → Except Error Unit
  | [] => .ok ()
  | item :: items => do
    item.checkDepth depth
    checkItems depth items

end

mutual

def Tree.checkDepth (depth : Nat) : Tree → Except Error Unit
  | .bracketed span _ item => do
    let depth ← deeper depth span
    item.checkDepth depth
  | .repetition span _ _ tree => do
    let depth ← deeper depth span
    tree.checkDepth depth
  | .group span _ tree => do
    let depth ← deeper depth span
    tree.checkDepth depth
  | .alternation span trees => do
    let depth ← deeper depth span
    checkTrees depth trees
  | .concat span trees => do
    let depth ← deeper depth span
    checkTrees depth trees
  | _ => .ok ()

def checkTrees (depth : Nat) : List Tree → Except Error Unit
  | [] => .ok ()
  | tree :: trees => do
    tree.checkDepth depth
    checkTrees depth trees

end

end LineShell.Regex
