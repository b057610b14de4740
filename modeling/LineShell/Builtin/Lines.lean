import LineShell.Builtin.Basic

/-!
# Choosing and ordering lines

`head` prints the first lines of a text, `tail` the last ones, and `sort` all of them in the order
of their code points. Every line is printed with one line feed, however it ended.
-/

namespace LineShell

open Text

/-- Print what a function makes of the lines of a text. -/
def printLines (name : String) (choose : List (List Char) → List (List Char))
    (file : Option String) : Action ShellError Unit := do
  let text ← readText name file
  emit name (unlines (choose (lines text)))

def lastLines (count : Nat) (lines : List (List Char)) : List (List Char) :=
  lines.drop (lines.length - count)

def sortedLines (reverse : Bool) (lines : List (List Char)) : List (List Char) :=
  let sorted := ((lines.map String.ofList).mergeSort (· ≤ ·)).map String.toList
  if reverse then sorted.reverse else sorted

def lineOperand (purpose : String) : List OperandSpec :=
  [⟨"file", .text, false, false, "file to " ++ purpose ++ "; standard input when omitted."⟩]

def lineCount : OptionSpec := ⟨"--lines", some "-n", some .count, "number of lines to print."⟩

/-- The number of lines when none is given. -/
def defaultCount : Nat := 10

def headUsage : Usage where
  name := "head"
  purpose := "print the first lines of a file (or standard input)."
  options := [lineCount]
  operands := lineOperand "read"

def head : Application :=
  headUsage.application fun arguments =>
    printLines "head" (·.take (arguments.count "--lines" defaultCount)) arguments.operand?

def tailUsage : Usage where
  name := "tail"
  purpose := "print the last lines of a file (or standard input)."
  options := [lineCount]
  operands := lineOperand "read"

def tail : Application :=
  tailUsage.application fun arguments =>
    printLines "tail" (lastLines (arguments.count "--lines" defaultCount)) arguments.operand?

def sortUsage : Usage where
  name := "sort"
  purpose := "sort lines of a file (or standard input)."
  options := [⟨"--reverse", some "-r", none, "reverse the order."⟩]
  operands := lineOperand "sort"

def sort : Application :=
  sortUsage.application fun arguments =>
    printLines "sort" (sortedLines (arguments.has "--reverse")) arguments.operand?

end LineShell
