import LineShell.Builtin.Basic
import LineShell.Regex

/-!
# Searching

`grep` prints the lines in which an expression matches, each followed by so many lines of context.
A separator stands between printed lines that are not neighbours, provided that there is context.
The indices of lines have no bound here: a context that leads beyond 64 bits, with all the lines up
to the matching one before it, is left aside.
-/

namespace LineShell

open Text

namespace Grep

/-- What is printed for one source. -/
inductive Printed
  | line (text : List Char)
  | separator

/-- The output for the lines from an index on. Lines before `shownUntil` are context, and
`lastPrinted` is the index of the line printed last. -/
def select (isMatch : List Char → Bool) (context : Nat) :
    Nat → Nat → Option Nat → List (List Char) → List Printed
  | _, _, _, [] => []
  | index, shownUntil, lastPrinted, line :: lines =>
    let shownUntil := if isMatch line then index + context + 1 else shownUntil
    if shownUntil ≤ index then select isMatch context (index + 1) shownUntil lastPrinted lines
    else
      let apart := 0 < context && lastPrinted.any (· + 1 < index)
      let printed :=
        .line line :: select isMatch context (index + 1) shownUntil (some index) lines
      if apart then .separator :: printed else printed

def render (label : Option String) : Printed → List Char
  | .separator => ['-', '-', '\n']
  | .line text => (label.map fun name => name.toList ++ [':']).getD [] ++ text ++ ['\n']

/-- The output for all lines of a source. -/
def output (isMatch : List Char → Bool) (context : Nat) (label : Option String)
    (lines : List (List Char)) : List Char :=
  (select isMatch context 0 0 none lines).flatMap (render label)

def failed (fault : IoFault) : ShellError :=
  .application "grep" ("read error: " ++ fault.text)

/-- The lines of a file. -/
def fileLines (file : String) : Action ShellError (List (List Char)) := do
  let bytes ← readFile "grep" file
  match (Source.ofBytes bytes).readLines.1 with
  | .ok lines => return lines
  | .error fault => throw (failed fault)

def searchFiles (isMatch : List Char → Bool) (context : Nat) (labelled : Bool) :
    List String → Action ShellError Unit
  | [] => return ()
  | file :: files => do
    let lines ← fileLines file
    emit "grep" (output isMatch context (if labelled then some file else none) lines)
    searchFiles isMatch context labelled files

def searchInput (isMatch : List Char → Bool) (context : Nat) : Action ShellError Unit := do
  let lines ← Job.readLines.adaptExcept failed
  emit "grep" (output isMatch context none lines)

/-- The expression that is searched for. -/
def expression (wholeWords : Bool) (pattern : String) : String :=
  if wholeWords then "\\b(" ++ pattern ++ ")\\b" else pattern

/-- Several files are told apart by labels. -/
def search (wholeWords ignoreCase : Bool) (context : Nat) (pattern : String)
    (files : List String) : Action ShellError Unit := do
  let expression := expression wholeWords pattern
  match Regex.compile ignoreCase expression with
  | .error e => complain "grep" ("invalid pattern: " ++ pattern ++ ": " ++ e.report expression)
  | .ok regex =>
    if files.isEmpty then searchInput regex.isMatch context
    else searchFiles regex.isMatch context (1 < files.length) files

end Grep

def grepUsage : Usage where
  name := "grep"
  purpose := "print lines matching a pattern."
  options := [⟨"--word-regexp", some "-w", none, "match only whole words."⟩,
    ⟨"--ignore-case", some "-i", none, "ignore case distinctions."⟩,
    ⟨"--after-context", some "-A", some .count,
      "print NUM lines of trailing context after matching lines."⟩]
  operands := [⟨"pattern", .text, true, false,
      "the pattern to search for (a regular expression)."⟩,
    ⟨"files", .text, false, true, ""⟩]

def grep : Application :=
  grepUsage.application fun arguments =>
    match arguments.operands with
    | [] => return ()
    | pattern :: files =>
      Grep.search (arguments.has "--word-regexp") (arguments.has "--ignore-case")
        (arguments.count "--after-context" 0) pattern files

end LineShell
