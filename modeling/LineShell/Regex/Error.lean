import LineShell.Text.Split

/-!
# Errors in expressions

An error has a cause and a stretch of the expression, and for some causes a second stretch that
shows what it conflicts with. The report shows the expression with marks under the stretches. If the
expression has several lines, they are numbered, and a stretch over several of them is given in
words.
-/

namespace LineShell.Regex

open Text

/-- A place in an expression; lines and columns count from one. -/
structure Position where
  line : Nat
  column : Nat
  deriving DecidableEq

namespace Position

def start : Position := ⟨1, 1⟩

def after (p : Position) (c : Char) : Position :=
  if c = '\n' then ⟨p.line + 1, 1⟩ else ⟨p.line, p.column + 1⟩

def before (p q : Position) : Bool :=
  p.line < q.line || (p.line == q.line && p.column < q.column)

end Position

/-- A stretch of an expression, up to the place just behind it. -/
structure Span where
  first : Position
  last : Position
  deriving DecidableEq

namespace Span

def point (p : Position) : Span := ⟨p, p⟩

def isOneLine (span : Span) : Bool := span.first.line == span.last.line

def before (a b : Span) : Bool :=
  a.first.before b.first || (a.first == b.first && a.last.before b.last)

end Span

/-- What can be wrong with an expression. -/
inductive Cause
  | classEscapeInvalid
  | classRangeInvalid
  | classRangeLiteral
  | classUnclosed
  | decimalEmpty
  | decimalInvalid
  | escapeHexEmpty
  | escapeHexInvalid
  | escapeHexInvalidDigit
  | escapeUnexpectedEnd
  | escapeUnrecognized
  | flagDanglingNegation
  | flagDuplicate
  | flagRepeatedNegation
  | flagUnexpectedEnd
  | flagUnrecognized
  | groupNameDuplicate
  | groupNameEmpty
  | groupNameInvalid
  | groupNameUnexpectedEnd
  | groupUnclosed
  | groupUnopened
  | nestedTooDeep
  | repetitionCountInvalid
  | repetitionCountDecimalEmpty
  | repetitionCountUnclosed
  | repetitionMissing
  | specialBoundaryUnclosed
  | specialBoundaryUnrecognized
  | specialBoundaryUnexpectedEnd
  | unicodeClassInvalid
  | backreference
  | lookAround
  | unicodeNotAllowed
  | invalidUtf8
  | propertyNotFound
  | propertyValueNotFound
  deriving DecidableEq

/-- How deeply the parts of an expression may nest. -/
def nestLimit : Nat := 250

def Cause.message : Cause → String
  | .classEscapeInvalid => "invalid escape sequence found in character class"
  | .classRangeInvalid => "invalid character class range, the start must be <= the end"
  | .classRangeLiteral => "invalid range boundary, must be a literal"
  | .classUnclosed => "unclosed character class"
  | .decimalEmpty => "decimal literal empty"
  | .decimalInvalid => "decimal literal invalid"
  | .escapeHexEmpty => "hexadecimal literal empty"
  | .escapeHexInvalid => "hexadecimal literal is not a Unicode scalar value"
  | .escapeHexInvalidDigit => "invalid hexadecimal digit"
  | .escapeUnexpectedEnd => "incomplete escape sequence, reached end of pattern prematurely"
  | .escapeUnrecognized => "unrecognized escape sequence"
  | .flagDanglingNegation => "dangling flag negation operator"
  | .flagDuplicate => "duplicate flag"
  | .flagRepeatedNegation => "flag negation operator repeated"
  | .flagUnexpectedEnd => "expected flag but got end of regex"
  | .flagUnrecognized => "unrecognized flag"
  | .groupNameDuplicate => "duplicate capture group name"
  | .groupNameEmpty => "empty capture group name"
  | .groupNameInvalid => "invalid capture group character"
  | .groupNameUnexpectedEnd => "unclosed capture group name"
  | .groupUnclosed => "unclosed group"
  | .groupUnopened => "unopened group"
  | .nestedTooDeep =>
    "exceed the maximum number of nested parentheses/brackets (" ++ toString nestLimit ++ ")"
  | .repetitionCountInvalid => "invalid repetition count range, the start must be <= the end"
  | .repetitionCountDecimalEmpty => "repetition quantifier expects a valid decimal"
  | .repetitionCountUnclosed => "unclosed counted repetition"
  | .repetitionMissing => "repetition operator missing expression"
  | .specialBoundaryUnclosed =>
    "special word boundary assertion is either unclosed or contains an invalid character"
  | .specialBoundaryUnrecognized =>
    "unrecognized special word boundary assertion, valid choices are: start, end, start-half " ++
      "or end-half"
  | .specialBoundaryUnexpectedEnd =>
    "found either the beginning of a special word boundary or a bounded repetition on a \\b " ++
      "with an opening brace, but no closing brace"
  | .unicodeClassInvalid => "invalid Unicode character class"
  | .backreference => "backreferences are not supported"
  | .lookAround => "look-around, including look-ahead and look-behind, is not supported"
  | .unicodeNotAllowed => "Unicode not allowed here"
  | .invalidUtf8 => "pattern can match invalid UTF-8"
  | .propertyNotFound => "Unicode property not found"
  | .propertyValueNotFound => "Unicode property value not found"

structure Error where
  cause : Cause
  span : Span
  /-- What the error conflicts with. -/
  other : Option Span
  deriving DecidableEq

namespace Error

def of (cause : Cause) (span : Span) : Error := ⟨cause, span, none⟩

/-- The stretches in the order of the expression. -/
def spans (error : Error) : List Span :=
  match error.other with
  | none => [error.span]
  | some other => if other.before error.span then [other, error.span] else [error.span, other]

/-- Marks under the stretches from a column on; an empty stretch still gets one. -/
def marksFrom : Nat → List Span → String
  | _, [] => ""
  | column, span :: spans =>
    let width := max 1 (span.last.column - span.first.column)
    let gap := span.first.column - column
    String.ofList (List.replicate gap ' ') ++ String.ofList (List.replicate width '^') ++
      marksFrom (column + gap + width) spans

/-- The lines of an expression from a number on, each with its marks below it. -/
def notate (width : Nat) (spans : List Span) : Nat → List String → String
  | _, [] => ""
  | number, line :: lines =>
    let label := toString number
    let margin :=
      if width = 0 then "    "
      else String.ofList (List.replicate (width - label.length) ' ') ++ label ++ ": "
    let here := spans.filter fun span => span.isOneLine && span.first.line == number
    let marks :=
      if here.isEmpty then ""
      else String.ofList (List.replicate margin.length ' ') ++ marksFrom 1 here ++ "\n"
    margin ++ line ++ "\n" ++ marks ++ notate width spans (number + 1) lines

/-- The stretch in words. The place behind it is one column further than what is named. -/
def inWords (span : Span) : String :=
  "on line " ++ toString span.first.line ++ " (column " ++ toString span.first.column ++
    ") through line " ++ toString span.last.line ++ " (column " ++
    toString (span.last.column - 1) ++ ")"

/-- The report on an error in an expression. -/
def report (error : Error) (expression : String) : String :=
  let text := expression.toList
  let lines := (lines text).map String.ofList
  let broken := text.contains '\n'
  let count := lines.length + if text.getLast? = some '\n' then 1 else 0
  let width := if count ≤ 1 then 0 else (toString count).length
  let notated := notate width error.spans 1 lines
  let divider := String.ofList (List.replicate 79 '~') ++ "\n"
  let long := error.spans.filter (!·.isOneLine)
  let words := if long.isEmpty then "" else "\n".intercalate (long.map inWords) ++ "\n"
  let body := if broken then divider ++ notated ++ divider ++ words else notated
  "regex parse error:\n" ++ body ++ "error: " ++ error.cause.message

end Error

end LineShell.Regex
