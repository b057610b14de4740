import LineShell.Regex.Error
import LineShell.Text.Blank

/-!
# Reading an expression character by character

The reader keeps the rest of the expression and the place where it begins. While blanks are to be
ignored it can skip them, together with comments, which go from `#` to the end of the line.
-/

namespace LineShell.Regex

open Text

structure Reader where
  rest : List Char
  position : Position
  ignoreBlank : Bool
  /-- The names of the groups so far. -/
  names : List (String × Span)

abbrev Parse := StateT Reader (Except Error)

namespace Reader

/-- What is left after blanks and comments, and where it begins. -/
def afterBlank (inComment : Bool) : List Char → Position → List Char × Position
  | [], p => ([], p)
  | c :: rest, p =>
    if inComment then afterBlank (c != '\n') rest (p.after c)
    else if isBlank c then afterBlank false rest (p.after c)
    else if c = '#' then afterBlank true rest (p.after c)
    else (c :: rest, p)

def peek : Parse (Option Char) := do
  return (← get).rest.head?

def peekSecond : Parse (Option Char) := do
  return (← get).rest.tail.head?

/-- The character behind the next one, blanks and one sign of a comment left out. -/
def peekBeyondBlank : Parse (Option Char) := do
  let reader ← get
  let next := reader.rest.tail
  if reader.ignoreBlank then
    let solid := next.dropWhile isBlank
    let solid := if solid.head? = some '#' then solid.tail.dropWhile isBlank else solid
    return solid.head?.or next.head?
  else
    return next.head?

def atEnd : Parse Bool := do
  return (← get).rest.isEmpty

def here : Parse Position := do
  return (← get).position

/-- The stretch from a place up to here. -/
def since (first : Position) : Parse Span := do
  return ⟨first, ← here⟩

/-- The stretch of the next character. -/
def charSpan : Parse Span := do
  let reader ← get
  return ⟨reader.position, (reader.rest.head?.map reader.position.after).getD reader.position⟩

def failAt (cause : Cause) (span : Span) : Parse α :=
  throw (.of cause span)

def failHere (cause : Cause) : Parse α := do
  failAt cause (.point (← here))

/-- Go past the next character, and tell whether another follows. -/
def bump : Parse Bool := do
  let reader ← get
  match reader.rest with
  | [] => return false
  | c :: rest =>
    set { reader with rest, position := reader.position.after c }
    return !rest.isEmpty

def bumpBlank : Parse Unit := do
  let reader ← get
  if reader.ignoreBlank then
    let (rest, position) := afterBlank false reader.rest reader.position
    set { reader with rest, position }

/-- Go past the next character and ignored blanks, and tell whether another character follows. -/
def bumpThrough : Parse Bool := do
  if ← bump then
    bumpBlank
    return !(← atEnd)
  else
    return false

/-- Go past a text if it comes next. -/
def bumpIf (text : String) : Parse Bool := do
  let reader ← get
  if text.toList.isPrefixOf reader.rest then
    set { reader with
      rest := reader.rest.drop text.length
      position := text.toList.foldl Position.after reader.position }
    return true
  else
    return false

/-- Go past characters of a class, and past ignored blanks after each of them. -/
def bumpWhileIn (belongs : Char → Bool) : Nat → Parse (List Char)
  | 0 => return []
  | fuel + 1 => do
    match ← peek with
    | some c =>
      if belongs c then
        let _ ← bumpThrough
        let others ← bumpWhileIn belongs fuel
        return c :: others
      else
        return []
    | none => return []

def bumpWhile (belongs : Char → Bool) : Parse (List Char) := do
  bumpWhileIn belongs (← get).rest.length

end Reader

end LineShell.Regex
