import LineShell.Command
import LineShell.Quote
import LineShell.Text.Blank

/-!
# Reading a line

A line is cut at unquoted semicolons, each part at unquoted bars, and each stage into tokens at
unquoted blanks and around unquoted redirection operators. Each of the three passes keeps account
of the open quotes on its own.
-/

namespace LineShell

open Text

/-- The pieces between the unquoted separators; nothing else is dropped. -/
def splitUnquoted (separates : Char → Bool) :
    QuoteStack → List Char → Except SyntaxFault (List (List Char))
  | quotes, [] => do
    quotes.checkClosed
    return [[]]
  | quotes, c :: rest =>
    if !quotes.isEmpty && isLineBreak c then .error .quotedLineBreak
    else do
      let pieces ← splitUnquoted separates (quotes.feed c) rest
      if quotes.exposes c && separates c then
        return [] :: pieces
      else
        return pieces.modifyHead (c :: ·)

/-- The token that a word in progress makes, if there is anything in it. -/
def wordToken (word : String) : List String :=
  if word.isEmpty then [] else [word]

/-- The tokens of a stage from the middle of a word on. An unquoted `<`, `>` or `>>` is a token of
its own, wherever it stands. -/
def tokensFrom : QuoteStack → String → List Char → Except SyntaxFault (List String)
  | quotes, word, [] => do
    quotes.checkClosed
    return wordToken word
  | quotes, word, c :: rest =>
    if !quotes.isEmpty && isLineBreak c then .error .quotedLineBreak
    else if !quotes.exposes c then tokensFrom (quotes.feed c) (word.push c) rest
    else if isBlank c then do
      let tokens ← tokensFrom quotes "" rest
      return wordToken word ++ tokens
    else if c = '<' then do
      let tokens ← tokensFrom quotes "" rest
      return wordToken word ++ "<" :: tokens
    else if c = '>' then
      match rest with
      | '>' :: rest => do
        let tokens ← tokensFrom quotes "" rest
        return wordToken word ++ ">>" :: tokens
      | rest => do
        let tokens ← tokensFrom quotes "" rest
        return wordToken word ++ ">" :: tokens
    else tokensFrom quotes (word.push c) rest

/-- The tokens of one stage, quotes kept. -/
def tokenize (stage : String) : Except SyntaxFault (List String) :=
  tokensFrom [] "" stage.toList

namespace Call

/-- A call needs at least one token. -/
def parse (stage : List Char) : Except SyntaxFault Call := do
  let tokens ← tokenize (String.ofList stage)
  if tokens.isEmpty then .error .emptyCommand else .ok ⟨tokens⟩

end Call

namespace Command

/-- A part with a single stage is a plain call. -/
def parsePart (part : List Char) : Except SyntaxFault Command := do
  let stages ← splitUnquoted (· == '|') [] part
  let calls ← stages.mapM Call.parse
  match calls with
  | [single] => return .call single
  | several => return .pipe several

/-- A line with a single part is that part. -/
def parse (line : String) : Except SyntaxFault Command := do
  let parts ← splitUnquoted (· == ';') [] line.toList
  let commands ← parts.mapM parsePart
  match commands with
  | [single] => return single
  | several => return .sequence several

end Command

end LineShell
