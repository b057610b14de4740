import LineShell.Environment
import LineShell.FileTree.Access

/-!
# File name patterns

A pattern is a text some of whose characters are wildcards. A wildcard stands for any run of
characters without a slash. Everything up to the last slash of the plain text names a directory;
the names in it, with that text before each, are held against the whole pattern. A pattern that
matches none of them stands for its plain text.
-/

namespace LineShell

inductive Pattern.Piece
  | literal (c : Char)
  | wildcard
  deriving DecidableEq

structure Pattern where
  pieces : Array Pattern.Piece
  quoted : Bool
  deriving DecidableEq

namespace Pattern

/-- The character that a piece is written with. -/
def Piece.char : Piece → Char
  | .literal c => c
  | .wildcard => '*'

def empty : Pattern := ⟨#[], false⟩

def pushChar (p : Pattern) (c : Char) : Pattern :=
  { p with pieces := p.pieces.push (.literal c) }

def pushText (p : Pattern) (text : List Char) : Pattern :=
  text.foldl pushChar p

def pushWildcard (p : Pattern) : Pattern :=
  { p with pieces := p.pieces.push .wildcard }

/-- Record that a part of the pattern was quoted. -/
def markQuoted (p : Pattern) : Pattern :=
  { p with quoted := true }

def plain (p : Pattern) : List Char :=
  p.pieces.toList.map Piece.char

@[simp] theorem plain_pushChar (p : Pattern) (c : Char) :
    (p.pushChar c).plain = p.plain ++ [c] := by
  simp [plain, pushChar, Piece.char]

@[simp] theorem plain_pushWildcard (p : Pattern) : p.pushWildcard.plain = p.plain ++ ['*'] := by
  simp [plain, pushWildcard, Piece.char]

@[simp] theorem plain_pushText (p : Pattern) (text : List Char) :
    (p.pushText text).plain = p.plain ++ text := by
  induction text generalizing p with
  | nil => simp [pushText]
  | cons c text ih =>
    have : p.pushText (c :: text) = (p.pushChar c).pushText text := rfl
    rw [this, ih, plain_pushChar, List.append_assoc, List.singleton_append]

def hasWildcard (p : Pattern) : Bool :=
  p.pieces.toList.contains .wildcard

/-- Quotes make an argument even of nothing. -/
def isSignificant (p : Pattern) : Bool :=
  p.quoted || !p.pieces.isEmpty

/-- For the text from each of its positions on, whether it matches a literal followed by a pattern
for which `later` has the answers. -/
def literalRow (c : Char) : List Char → List Bool → List Bool
  | t :: text, _ :: later => (t == c && later.headD false) :: literalRow c text later
  | _, _ => [false]

/-- The same for a wildcard in place of the literal. -/
def wildcardRow : List Char → List Bool → List Bool
  | t :: text, now :: later =>
    let row := wildcardRow text later
    (now || (t != '/' && row.headD false)) :: row
  | _, later => later

/-- For the text from each of its positions on, whether it matches the pieces. -/
def matchRow (text : List Char) : List Piece → List Bool
  | [] => text.foldr (fun _ row => false :: row) [true]
  | .literal c :: pieces => literalRow c text (matchRow text pieces)
  | .wildcard :: pieces => wildcardRow text (matchRow text pieces)

/-- Whether the whole text matches the pieces. -/
def matchesText (pieces : List Piece) (text : List Char) : Bool :=
  (matchRow text pieces).headD false

/-- The text up to and including the last slash. -/
def directoryPart (text : List Char) : List Char :=
  (text.reverse.dropWhile (· != '/')).reverse

/-- The directory that such a part names. -/
def directoryName (part : List Char) : String :=
  if part = [] then "."
  else if part = ['/'] then "/"
  else String.ofList part.dropLast

def candidates (p : Pattern) (env : Environment) (files : FileTree) : List String :=
  let part := directoryPart p.plain
  match files.list (env.resolve (directoryName part)) with
  | .ok names => names.map (String.ofList part ++ ·)
  | .error _ => []

/-- The arguments that a pattern stands for, in ascending order. -/
def expand (p : Pattern) (env : Environment) (files : FileTree) : List String :=
  let plain := String.ofList p.plain
  if p.hasWildcard then
    let matching := (p.candidates env files).filter (matchesText p.pieces.toList ·.toList)
    if matching.isEmpty then [plain] else matching.mergeSort (· ≤ ·)
  else [plain]

end Pattern

end LineShell
