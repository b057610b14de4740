import LineShell.Eval
import LineShell.Pattern
import LineShell.Quote

/-!
# From tokens to arguments

A token is scanned once, from the left. Quotes are taken off, the text in back-quotes is handed over
for substitution, and an unquoted star is a wildcard. The output of an outermost substitution
outside quotes is split into words, which cuts the token into segments; each segment then stands
for one argument or for the file names that match it.
-/

namespace LineShell

open Text

/-- Evaluates a line for substitution, and gives what it wrote. -/
abbrev Substituter := String → Eval Shell Bytes

namespace Argument

/-- A scan in the middle of a token, with one body for each open back-quote, innermost first. -/
structure Scan where
  quotes : QuoteStack
  current : Pattern
  segments : Array Pattern
  bodies : List String

namespace Scan

def start : Scan := ⟨[], .empty, #[], []⟩

/-- Take a character as it is, into the innermost body if there is one. -/
def push (scan : Scan) (c : Char) : Scan :=
  match scan.bodies with
  | body :: outer => { scan with bodies := body.push c :: outer }
  | [] => { scan with current := scan.current.pushChar c }

/-- End the current segment. One with nothing in it is dropped. -/
def endSegment (scan : Scan) : Scan :=
  if scan.current.isSignificant then
    { scan with current := .empty, segments := scan.segments.push scan.current }
  else { scan with current := .empty }

def pushText (scan : Scan) (text : List Char) : Scan :=
  { scan with current := scan.current.pushText text }

/-- Words go one to a segment, the first into the current one. -/
def pushWords (scan : Scan) : List (List Char) → Scan
  | [] => scan
  | word :: words =>
    words.foldl (fun scan word => scan.endSegment.pushText word) (scan.pushText word)

end Scan

/-- Two line breaks that make one, and any other, become a space. -/
def joinLines : List Char → List Char
  | [] => []
  | '\r' :: '\n' :: rest => ' ' :: joinLines rest
  | c :: rest => (if isLineBreak c then ' ' else c) :: joinLines rest

def dropFinalBreaks (text : List Char) : List Char :=
  (text.reverse.dropWhile isLineBreak).reverse

/-- What an output is pasted as: one line, without the line breaks at its end. -/
def flatten (output : Bytes) : List Char :=
  joinLines (dropFinalBreaks (Utf8.decodeLossy output))

/-- Hand a line over, and flatten what it wrote. -/
def runSubstitution (substitute : Substituter) (line : String) : Eval Shell (List Char) := do
  Eval.modify fun shell => { shell with history := .substituted line :: shell.history }
  let output ← substitute line
  return flatten output

namespace Scan

/-- Paste an output where its substitution closed: into the body around it, as it is between double
quotes, and as words outside quotes. -/
def paste (scan : Scan) (output : List Char) : Scan :=
  match scan.bodies with
  | body :: outer => { scan with bodies := (body ++ String.ofList output) :: outer }
  | [] =>
    if scan.quotes.head? = some .double then scan.pushText output
    else scan.pushWords (words output)

/-- Close the innermost back-quote. -/
def closeSubstitution (substitute : Substituter) (scan : Scan) : Eval Shell Scan := do
  let output ← runSubstitution substitute (scan.bodies.headD "")
  let scan := { scan with quotes := scan.quotes.tail, bodies := scan.bodies.tail }
  return scan.paste output

/-- The scan after one more character. Between back-quotes, quotes are kept, for the line that is
handed over to be read with them. -/
def feed (substitute : Substituter) (scan : Scan) (c : Char) : Eval Shell Scan :=
  match Quote.ofChar? c, scan.quotes with
  | some .back, .single :: _ => pure (scan.push c)
  | some .back, .back :: _ => scan.closeSubstitution substitute
  | some .back, quotes => pure { scan with quotes := .back :: quotes, bodies := "" :: scan.bodies }
  | some q, [] => pure { scan with quotes := [q], current := scan.current.markQuoted }
  | some q, innermost :: outer =>
    if q = innermost then
      let scan := { scan with quotes := outer }
      pure (if scan.bodies.isEmpty then scan else scan.push c)
    else if innermost = .back then pure ({ scan with quotes := q :: .back :: outer }.push c)
    else pure (scan.push c)
  | none, [] =>
    if c = '*' then pure { scan with current := scan.current.pushWildcard } else pure (scan.push c)
  | none, _ => pure (scan.push c)

/-- The segments of a token that ends here. -/
def finish (scan : Scan) : Except SyntaxFault (List Pattern) := do
  scan.quotes.checkClosed
  return scan.endSegment.segments.toList

end Scan

/-- The scan of a text from its beginning. -/
def scan (substitute : Substituter) (text : List Char) : Eval Shell Scan :=
  text.foldlM (Scan.feed substitute) Scan.start

/-- The arguments that one token stands for. -/
def resolve (substitute : Substituter) (token : String) : Eval Shell (List String) := do
  let scan ← scan substitute token.toList
  let segments ← Eval.ofSyntax scan.finish
  let shell ← Eval.get
  return segments.flatMap (·.expand shell.world.environment shell.world.files)

/-- The arguments of all tokens, in order. -/
def resolveAll (substitute : Substituter) : List String → Eval Shell (List String)
  | [] => pure []
  | token :: tokens => do
    let first ← resolve substitute token
    let others ← resolveAll substitute tokens
    return first ++ others

end Argument

end LineShell
