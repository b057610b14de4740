import LineShell.Regex.Reader
import LineShell.Regex.Tree
import LineShell.Unicode.Property

/-!
# Reading an expression

The reading of groups and of bracketed classes keeps a stack of what is still open. Every round of
it goes past at least one character, so the length of the expression bounds the rounds.
-/

namespace LineShell.Regex

open Reader Text Unicode

def isMeta (c : Char) : Bool :=
  "\\.+*?()|[]\x7b\x7d^$#&-~".toList.contains c

/-- Characters that a backslash makes literal although they need none. -/
def isEscapable (c : Char) : Bool :=
  c.toNat < 0x80 && !c.isAlphanum && c != '<' && c != '>'

def isHexDigit (c : Char) : Bool :=
  c.isDigit || ('a' ≤ c && c ≤ 'f') || ('A' ≤ c && c ≤ 'F')

/-- The character with a code point in hexadecimal digits. -/
def hexChar? (digits : List Char) : Option Char :=
  let value := Ranges.hexValue digits
  if value.isValidChar then some (Char.ofNat value) else none

/-- The rest of a code point in braces. -/
def parseHexBrace (start : Position) : Parse Literal := do
  let brace ← here
  let first := (← charSpan).last
  let _ ← bumpThrough
  let digits ← bumpWhile isHexDigit
  if ← atEnd then failAt .escapeUnexpectedEnd (← since brace)
  if (← peek) != some '\x7d' then failAt .escapeHexInvalidDigit (← charSpan)
  let last ← here
  let _ ← bumpThrough
  if digits.isEmpty then failAt .escapeHexEmpty (← since brace)
  match hexChar? digits with
  | some char => return ⟨← since start, char, false⟩
  | none => failAt .escapeHexInvalid ⟨first, last⟩

/-- So many hexadecimal digits. -/
def hexDigits : Nat → Parse (List Char)
  | 0 => return []
  | n + 1 => do
    match ← peek with
    | none => failHere .escapeUnexpectedEnd
    | some c =>
      if isHexDigit c then
        let _ ← bumpThrough
        let others ← hexDigits n
        return c :: others
      else
        failAt .escapeHexInvalidDigit (← charSpan)

/-- A code point in hexadecimal digits, after the backslash. -/
def parseHex (start : Position) (kind : Char) : Parse Literal := do
  if !(← bumpThrough) then failHere .escapeUnexpectedEnd
  if (← peek) = some '\x7b' then parseHexBrace start
  else
    let first ← here
    let digits ← hexDigits (if kind = 'x' then 2 else if kind = 'u' then 4 else 8)
    match hexChar? digits with
    | some char => return ⟨← since start, char, kind = 'x'⟩
    | none => failAt .escapeHexInvalid (← since first)

/-- Cut a text at the first place where a mark stands. -/
def splitAtMark (mark : List Char) : List Char → Option (List Char × List Char)
  | [] => none
  | c :: rest =>
    if mark.isPrefixOf (c :: rest) then some ([], (c :: rest).drop mark.length)
    else (splitAtMark mark rest).map fun (before, after) => (c :: before, after)

/-- The name between the braces of a property, and whether it is denied there. -/
def propertyName (text : List Char) : PropertyName × Bool :=
  let valued (parts : List Char × List Char) :=
    PropertyName.valued (String.ofList parts.1) (String.ofList parts.2)
  match splitAtMark ['!', '='] text with
  | some parts => (valued parts, true)
  | none =>
    match (splitAtMark [':'] text).or (splitAtMark ['='] text) with
    | some parts => (valued parts, false)
    | none => (.alone (String.ofList text), false)

/-- A property, after the backslash. -/
def parseProperty (start : Position) (kind : Char) : Parse Tree := do
  let negated := kind == 'P'
  if !(← bumpThrough) then failHere .escapeUnexpectedEnd
  if (← peek) = some '\x7b' then
    let _ ← bumpThrough
    let text ← bumpWhile (· != '\x7d')
    if ← atEnd then failHere .escapeUnexpectedEnd
    let _ ← bump
    let (name, denied) := propertyName text
    return .property (← since start) (negated != denied) name
  else
    match ← peek with
    | none => failHere .escapeUnexpectedEnd
    | some c =>
      if c = '\\' then failAt .unicodeClassInvalid (← charSpan)
      let _ ← bumpThrough
      return .property (← since start) negated (.alone (String.ofList [c]))

/-- The kind of boundary in braces after `\b`. Braces around anything but a word belong to a
repetition. -/
def parseBoundary (start : Position) : Parse Anchor := do
  let before ← get
  if (← peek) != some '\x7b' then return .boundary
  let isWordChar (c : Char) : Bool := c.isAlpha || c == '-'
  if !(← bumpThrough) then failAt .specialBoundaryUnexpectedEnd (← since start)
  let first ← here
  if !(← peek).any isWordChar then
    set before
    return .boundary
  let word ← bumpWhile isWordChar
  if (← peek) != some '\x7d' then failAt .specialBoundaryUnclosed (← since before.position)
  let last ← here
  let _ ← bump
  match String.ofList word with
  | "start" => return .wordStart
  | "end" => return .wordEnd
  | "start-half" => return .wordStartHalf
  | "end-half" => return .wordEndHalf
  | _ => failAt .specialBoundaryUnrecognized ⟨first, last⟩

/-- What a backslash and the characters after it mean. -/
def parseEscape : Parse Tree := do
  let start ← here
  if !(← bump) then failAt .escapeUnexpectedEnd (← since start)
  let c := (← peek).getD '\\'
  if c.isDigit then failAt .backreference ⟨start, (← charSpan).last⟩
  if c = 'x' ∨ c = 'u' ∨ c = 'U' then return .literal (← parseHex start c)
  if c = 'p' ∨ c = 'P' then return ← parseProperty start c
  let _ ← bump
  let span ← since start
  let literal (c : Char) : Tree := .literal ⟨span, c, false⟩
  if isMeta c || isEscapable c then return literal c
  match c with
  | 'd' => return .shorthand span false .digit
  | 's' => return .shorthand span false .space
  | 'w' => return .shorthand span false .word
  | 'D' => return .shorthand span true .digit
  | 'S' => return .shorthand span true .space
  | 'W' => return .shorthand span true .word
  | 'a' => return literal '\x07'
  | 'f' => return literal '\x0c'
  | 't' => return literal '\t'
  | 'n' => return literal '\n'
  | 'r' => return literal '\r'
  | 'v' => return literal '\x0b'
  | 'A' => return .anchor span .textStart
  | 'z' => return .anchor span .textEnd
  | 'b' =>
    let kind ← parseBoundary start
    return .anchor (← since start) kind
  | 'B' => return .anchor span .notBoundary
  | '<' => return .anchor span .wordStart
  | '>' => return .anchor span .wordEnd
  | _ => failAt .escapeUnrecognized span

/-! ## Bracketed classes -/

/-- The items between brackets so far, latest first. -/
structure Union where
  span : Span
  items : List ClassItem

namespace Union

def start (p : Position) : Union := ⟨.point p, []⟩

def push (union : Union) (item : ClassItem) : Union where
  span := ⟨if union.items.isEmpty then item.span.first else union.span.first, item.span.last⟩
  items := item :: union.items

def toItem (union : Union) : ClassItem :=
  match union.items with
  | [] => .empty union.span
  | [item] => item
  | items => .union union.span items.reverse

end Union

/-- What is open while a class is read: a bracket, with the items that stood before it, or an
operator with its left side. -/
inductive ClassFrame
  | bracket (before : Union) (span : Span) (negated : Bool)
  | operator (kind : SetOperation) (left : ClassItem)

/-- The error for a class that does not end, at its innermost open bracket. -/
def unclosedClass : List ClassFrame → Parse α
  | .bracket _ span _ :: _ => failAt .classUnclosed span
  | .operator _ _ :: frames => unclosedClass frames
  | [] => failHere .classUnclosed

/-- The classes with a name between colons. -/
def asciiRanges? : String → Option (List (Nat × Nat))
  | "alnum" => some [(0x30, 0x39), (0x41, 0x5A), (0x61, 0x7A)]
  | "alpha" => some [(0x41, 0x5A), (0x61, 0x7A)]
  | "ascii" => some [(0x00, 0x7F)]
  | "blank" => some [(0x09, 0x09), (0x20, 0x20)]
  | "cntrl" => some [(0x00, 0x1F), (0x7F, 0x7F)]
  | "digit" => some [(0x30, 0x39)]
  | "graph" => some [(0x21, 0x7E)]
  | "lower" => some [(0x61, 0x7A)]
  | "print" => some [(0x20, 0x7E)]
  | "punct" => some [(0x21, 0x2F), (0x3A, 0x40), (0x5B, 0x60), (0x7B, 0x7E)]
  | "space" => some [(0x09, 0x0D), (0x20, 0x20)]
  | "upper" => some [(0x41, 0x5A)]
  | "word" => some [(0x30, 0x39), (0x41, 0x5A), (0x5F, 0x5F), (0x61, 0x7A)]
  | "xdigit" => some [(0x30, 0x39), (0x41, 0x46), (0x61, 0x66)]
  | _ => none

/-- A class with a name between colons, if one comes next. -/
def parseAsciiClass? : Parse (Option ClassItem) := do
  let before ← get
  if ← bumpIf "[:" then
    let negated ← bumpIf "^"
    let name := (← get).rest.takeWhile (· != ':')
    let _ ← bumpIf (String.ofList name)
    if ← bumpIf ":]" then
      if let some ranges := asciiRanges? (String.ofList name) then
        return some (.ascii (← since before.position) negated ranges)
  set before
  return none

/-- Hyphens at the beginning of a class, which stand for themselves. -/
def leadingHyphens (start : Position) : Nat → Union → Parse Union
  | 0, union => return union
  | fuel + 1, union => do
    if (← peek) = some '-' then
      let union := union.push (.literal ⟨← charSpan, '-', false⟩)
      if !(← bumpThrough) then failAt .classUnclosed (.point start)
      leadingHyphens start fuel union
    else
      return union

/-- An opening bracket with what has a meaning only right behind it. -/
def openClass (before : Union) : Parse (ClassFrame × Union) := do
  let start ← here
  if !(← bumpThrough) then failAt .classUnclosed (← since start)
  let negated := (← peek) == some '^'
  if negated then
    if !(← bumpThrough) then failAt .classUnclosed (← since start)
  let union ← leadingHyphens start (← get).rest.length (.start (← here))
  if union.items.isEmpty && (← peek) == some ']' then
    let union := union.push (.literal ⟨← charSpan, ']', false⟩)
    if !(← bumpThrough) then failAt .classUnclosed (← since start)
    return (.bracket before (← since start) negated, union)
  else
    return (.bracket before (← since start) negated, union)

/-- One character of a class, or an escape in it. -/
def parseClassPart : Parse Tree := do
  if (← peek) = some '\\' then parseEscape
  else
    let span ← charSpan
    let c := (← peek).getD '\\'
    let _ ← bump
    return .literal ⟨span, c, false⟩

/-- Assertions have no place between brackets. -/
def classItem : Tree → Parse ClassItem
  | .literal literal => return .literal literal
  | .property span negated name => return .property span negated name
  | .shorthand span negated kind => return .shorthand span negated kind
  | tree => failAt .classEscapeInvalid tree.span

def classLiteral : Tree → Parse Literal
  | .literal literal => return literal
  | tree => failAt .classRangeLiteral tree.span

/-- An item or a range. A hyphen before a bracket or another hyphen makes no range. -/
def parseClassRange (frames : List ClassFrame) : Parse ClassItem := do
  let first ← parseClassPart
  bumpBlank
  if ← atEnd then unclosedClass frames
  let beyond ← peekBeyondBlank
  if (← peek) != some '-' || beyond == some ']' || beyond == some '-' then classItem first
  else
    if !(← bumpThrough) then unclosedClass frames
    let second ← parseClassPart
    let low ← classLiteral first
    let high ← classLiteral second
    let span : Span := ⟨first.span.first, second.span.last⟩
    if high.char < low.char then failAt .classRangeInvalid span
    return .range span low high

/-- Put an item to the right of the operator that waits for it. -/
def closeOperator (frames : List ClassFrame) (right : ClassItem) : List ClassFrame × ClassItem :=
  match frames with
  | .operator kind left :: frames =>
    (frames, .operation ⟨left.span.first, right.span.last⟩ kind left right)
  | frames => (frames, right)

/-- The rest of a class. -/
def parseClassFrom : Nat → List ClassFrame → Union → Parse Tree
  | 0, frames, _ => unclosedClass frames
  | fuel + 1, frames, union => do
    bumpBlank
    let operator (text : String) (kind : SetOperation) : Parse Tree := do
      let _ ← bumpIf text
      let (frames, left) := closeOperator frames union.toItem
      parseClassFrom fuel (.operator kind left :: frames) (.start (← here))
    match ← peek, ← peekSecond with
    | none, _ => unclosedClass frames
    | some '[', _ =>
      match ← parseAsciiClass? with
      | some item => parseClassFrom fuel frames (union.push item)
      | none =>
        let (frame, inner) ← openClass union
        parseClassFrom fuel (frame :: frames) inner
    | some ']', _ =>
      match closeOperator frames union.toItem with
      | (.bracket outer span negated :: frames, item) =>
        let _ ← bump
        let span := ⟨span.first, ← here⟩
        if frames.isEmpty then return .bracketed span negated item
        else parseClassFrom fuel frames (outer.push (.bracketed span negated item))
      | (frames, _) => unclosedClass frames
    | some '&', some '&' => operator "&&" .intersection
    | some '-', some '-' => operator "--" .difference
    | some '~', some '~' => operator "~~" .symmetricDifference
    | _, _ =>
      let item ← parseClassRange frames
      parseClassFrom fuel frames (union.push item)

/-- A class from its opening bracket on. -/
def parseClass : Parse Tree := do
  let length := (← get).rest.length
  let (frame, union) ← openClass (.start (← here))
  parseClassFrom (length + 1) [frame] union

/-! ## Groups and flags -/

def flag? : Char → Option Flag
  | 'i' => some .caseInsensitive
  | 'm' => some .multiLine
  | 's' => some .dotMatchesNewLine
  | 'U' => some .swapGreed
  | 'u' => some .unicode
  | 'R' => some .crlf
  | 'x' => some .ignoreBlank
  | _ => none

/-- Flags up to a colon or a closing parenthesis, each at most once. -/
def parseFlagsFrom : Nat → List (FlagItem × Span) → Parse (List (FlagItem × Span))
  | 0, items => return items
  | fuel + 1, items => do
    let c := (← peek).getD ')'
    if c = ':' ∨ c = ')' then return items
    let span ← charSpan
    let item ←
      if c = '-' then pure FlagItem.negation
      else match flag? c with
        | some flag => pure (.flag flag)
        | none => failAt .flagUnrecognized span
    if let some (_, other) := items.find? (·.1 == item) then
      throw ⟨if c = '-' then .flagRepeatedNegation else .flagDuplicate, span, some other⟩
    if !(← bump) then failHere .flagUnexpectedEnd
    parseFlagsFrom fuel (items ++ [(item, span)])

def parseFlags : Parse (List FlagItem) := do
  let items ← parseFlagsFrom (← get).rest.length []
  if let some (.negation, span) := items.getLast? then failAt .flagDanglingNegation span
  return items.map Prod.fst

/-- What flags make of a setting; it stays as it is if they do not mention it. -/
def applied (flag : Flag) (setting : Bool) (items : List FlagItem) : Bool :=
  match items.span (· != .negation) with
  | (on, off) =>
    if off.contains (.flag flag) then false else if on.contains (.flag flag) then true else setting

def isNameStart (c : Char) : Bool :=
  c == '_' || alphabetic.contains c.toNat

def isNamePart (c : Char) : Bool :=
  isNameStart c || c == '.' || c == '[' || c == ']' || (ofCategories "n").contains c.toNat

/-- The characters of a group name. -/
def nameChars : Nat → List Char → Parse (List Char)
  | 0, name => return name
  | fuel + 1, name => do
    match ← peek with
    | none | some '>' => return name
    | some c =>
      let allowed := if name.isEmpty then isNameStart c else isNamePart c
      if !allowed then failAt .groupNameInvalid (← charSpan)
      let _ ← bump
      nameChars fuel (name ++ [c])

/-- A group name up to its closing bracket, which no other group may have. -/
def parseGroupName : Parse Unit := do
  if ← atEnd then failHere .groupNameUnexpectedEnd
  let start ← here
  let name ← nameChars (← get).rest.length []
  let span ← since start
  if ← atEnd then failHere .groupNameUnexpectedEnd
  let _ ← bump
  if name.isEmpty then failAt .groupNameEmpty (.point start)
  let name := String.ofList name
  if let some other := (← get).names.lookup name then
    throw ⟨.groupNameDuplicate, span, some other⟩
  modify fun reader => { reader with names := reader.names ++ [(name, span)] }

/-- What an opening parenthesis begins. -/
inductive Opening
  | group (span : Span) (flags : List FlagItem)
  | flags (span : Span) (items : List FlagItem)

def parseOpening : Parse Opening := do
  let span ← charSpan
  let _ ← bump
  bumpBlank
  for look in ["?=", "?!", "?<=", "?<!"] do
    if ← bumpIf look then failAt .lookAround (← since span.first)
  let inner ← here
  if (← bumpIf "?P<") || (← bumpIf "?<") then
    parseGroupName
    return .group span []
  else if ← bumpIf "?" then
    if ← atEnd then failAt .groupUnclosed span
    let items ← parseFlags
    let last ← peek
    let _ ← bump
    if last = some ')' then
      if items.isEmpty then failAt .repetitionMissing (.point inner)
      return .flags (← since span.first) items
    else
      return .group span items
  else
    return .group span []

/-! ## Repetitions -/

/-- The trees in a row so far, latest first. -/
structure Row where
  start : Position
  trees : List Tree

def Row.push (row : Row) (tree : Tree) : Row := { row with trees := tree :: row.trees }

/-- What a repetition operator applies to, and the row before it. -/
def repeated (row : Row) : Parse (Tree × Row) := do
  match row.trees with
  | .empty _ :: _ | .flags _ _ :: _ | [] => failHere .repetitionMissing
  | tree :: trees => return (tree, { row with trees })

/-- Which match is preferred makes no difference here, so a mark of preference is skipped. -/
def skipPreference (more : Bool) : Parse Unit := do
  if more && (← peek) == some '?' then
    let _ ← bump

def parseRepetition (row : Row) (least : Nat) (most : Option Nat) : Parse Row := do
  let (tree, row) ← repeated row
  skipPreference (← bump)
  return row.push (.repetition (← since tree.span.first) least most tree)

/-- The largest count of a repetition. -/
def largestCount : Nat := 4294967295

/-- A decimal number and blanks around it. What is wrong with it is not yet an error. -/
def parseDecimal : Parse (Except Error Nat) := do
  let _ ← bumpWhile isBlank
  let start ← here
  let digits ← bumpWhile Char.isDigit
  let span ← since start
  let _ ← bumpWhile isBlank
  let value := digits.foldl (fun value c => value * 10 + (c.toNat - '0'.toNat)) 0
  if digits.isEmpty then return .error (.of .repetitionCountDecimalEmpty span)
  if largestCount < value then return .error (.of .decimalInvalid span)
  return .ok value

def parseCounted (row : Row) : Parse Row := do
  let start ← here
  let (tree, row) ← repeated row
  let unclosed : Parse Unit := do failAt .repetitionCountUnclosed (← since start)
  if !(← bumpThrough) then unclosed
  let least ← parseDecimal
  if ← atEnd then unclosed
  let (least, most) ←
    if (← peek) = some ',' then do
      if !(← bumpThrough) then unclosed
      if (← peek) = some '\x7d' then pure (← liftM least, none)
      else do
        let least ← liftM least
        let most ← parseDecimal
        pure (least, some (← liftM most))
    else do
      let least ← liftM least
      pure (least, some least)
  if (← peek) != some '\x7d' then unclosed
  skipPreference (← bumpThrough)
  let span ← since start
  if most.any (· < least) then failAt .repetitionCountInvalid span
  return row.push (.repetition ⟨tree.span.first, span.last⟩ least most tree)

/-! ## The whole expression -/

/-- What is open while an expression is read: a group with the row before it, and alternatives to
the row that is being read, latest first. -/
inductive Frame
  | group (before : Row) (span : Span) (flags : List FlagItem) (ignoreBlank : Bool)
  | alternatives (start : Position) (trees : List Tree)

def Row.toTree (row : Row) (last : Position) : Tree :=
  .ofConcat ⟨row.start, last⟩ row.trees.reverse

/-- The tree of a row and of the alternatives before it. -/
def closeAlternatives (frames : List Frame) (row : Row) (last : Position) : List Frame × Tree :=
  match frames with
  | .alternatives start trees :: frames =>
    (frames, .alternation ⟨start, last⟩ (row.toTree last :: trees).reverse)
  | frames => (frames, row.toTree last)

def parseOpen (frames : List Frame) (row : Row) : Parse (List Frame × Row) := do
  match ← parseOpening with
  | .flags span items =>
    modify fun reader =>
      { reader with ignoreBlank := applied .ignoreBlank reader.ignoreBlank items }
    return (frames, row.push (.flags span items))
  | .group span items =>
    let outer := (← get).ignoreBlank
    modify fun reader => { reader with ignoreBlank := applied .ignoreBlank outer items }
    return (.group row span items outer :: frames, ⟨← here, []⟩)

def parseClose (frames : List Frame) (row : Row) : Parse (List Frame × Row) := do
  match closeAlternatives frames row (← here) with
  | (.group before span items ignoreBlank :: frames, tree) =>
    modify fun reader => { reader with ignoreBlank }
    let _ ← bump
    return (frames, before.push (.group (← since span.first) items tree))
  | _ => failAt .groupUnopened (← charSpan)

def parseAlternative (frames : List Frame) (row : Row) : Parse (List Frame × Row) := do
  let last ← here
  let frames :=
    match frames with
    | .alternatives start trees :: frames =>
      .alternatives start (row.toTree last :: trees) :: frames
    | frames => .alternatives row.start [row.toTree last] :: frames
  let _ ← bump
  return (frames, ⟨← here, []⟩)

def parseEnd (frames : List Frame) (row : Row) : Parse Tree := do
  match closeAlternatives frames row (← here) with
  | (.group _ span _ _ :: _, _) => failAt .groupUnclosed span
  | (_, tree) => return tree

def parseFrom : Nat → List Frame → Row → Parse Tree
  | 0, frames, row => parseEnd frames row
  | fuel + 1, frames, row => do
    bumpBlank
    let span ← charSpan
    let single (tree : Tree) : Parse Tree := do
      let _ ← bump
      parseFrom fuel frames (row.push tree)
    match ← peek with
    | none => parseEnd frames row
    | some '(' =>
      let (frames, row) ← parseOpen frames row
      parseFrom fuel frames row
    | some ')' =>
      let (frames, row) ← parseClose frames row
      parseFrom fuel frames row
    | some '|' =>
      let (frames, row) ← parseAlternative frames row
      parseFrom fuel frames row
    | some '[' =>
      let tree ← parseClass
      parseFrom fuel frames (row.push tree)
    | some '?' =>
      let row ← parseRepetition row 0 (some 1)
      parseFrom fuel frames row
    | some '*' =>
      let row ← parseRepetition row 0 none
      parseFrom fuel frames row
    | some '+' =>
      let row ← parseRepetition row 1 none
      parseFrom fuel frames row
    | some '\x7b' =>
      let row ← parseCounted row
      parseFrom fuel frames row
    | some '\\' =>
      let tree ← parseEscape
      parseFrom fuel frames (row.push tree)
    | some '.' => single (.dot span)
    | some '^' => single (.anchor span .lineStart)
    | some '$' => single (.anchor span .lineEnd)
    | some c => single (.literal ⟨span, c, false⟩)

/-- The tree of an expression. -/
def Tree.parse (expression : String) : Except Error Tree := do
  let text := expression.toList
  let reader : Reader := ⟨text, .start, false, []⟩
  let (tree, _) ← (parseFrom (text.length + 1) [] ⟨.start, []⟩).run reader
  tree.checkDepth 0
  return tree

end LineShell.Regex
