import LineShell.Builtin.Basic

/-!
# Counting

`wc` counts the lines, words and bytes of each text and prints one line for each. Without an option
it prints all three counts.
-/

namespace LineShell

open Text

structure Counts where
  lines : Nat
  words : Nat
  bytes : Nat

def Counts.of (text : List Char) : Counts :=
  ⟨(Text.lines text).length, (Text.words text).length, (Utf8.encode text).length⟩

/-- Which counts are asked for. -/
structure CountSelection where
  lines : Bool
  words : Bool
  bytes : Bool

namespace CountSelection

/-- No selection selects everything. -/
def orAll (selection : CountSelection) : CountSelection :=
  if selection.lines || selection.words || selection.bytes then selection else ⟨true, true, true⟩

/-- The line printed for one text. -/
def report (selection : CountSelection) (label : Option String) (counts : Counts) : String :=
  let selection := selection.orAll
  let field (selected : Bool) (count : Nat) := if selected then [toString count] else []
  " ".intercalate (field selection.lines counts.lines ++ field selection.words counts.words ++
    field selection.bytes counts.bytes ++ label.toList)

end CountSelection

def printCounts (selection : CountSelection) (label : Option String) (text : List Char) :
    Action ShellError Unit :=
  emit "wc" ((selection.report label (.of text)).toList ++ ['\n'])

def countFiles (selection : CountSelection) : List String → Action ShellError Unit
  | [] => return ()
  | file :: files => do
    let text ← readTextFile "wc" file
    printCounts selection (some file) text
    countFiles selection files

def countInput (selection : CountSelection) : Action ShellError Unit := do
  let text ← readTextInput "wc"
  printCounts selection none text

def wcUsage : Usage where
  name := "wc"
  purpose := "count lines, words and bytes."
  options := [⟨"--lines", some "-l", none, "print only the line count."⟩,
    ⟨"--words", some "-w", none, "print only the word count."⟩,
    ⟨"--bytes", some "-c", none, "print only the byte count."⟩]
  operands := [⟨"files", .text, false, true, ""⟩]

def wc : Application :=
  wcUsage.application fun arguments =>
    let selection :=
      ⟨arguments.has "--lines", arguments.has "--words", arguments.has "--bytes"⟩
    if arguments.operands.isEmpty then countInput selection
    else countFiles selection arguments.operands

end LineShell
