import LineShell.Builtin.Basic

/-!
# Copying arguments and files

`echo` writes its arguments, `cat` the bytes of files or of the input, whatever they encode.

To copy a file onto its own end, as `cat f >> f` or `cat < f >> f` does, would never come to an end
unless the file is empty, since what has been copied is there to be copied again. This is left
aside: all bytes of a file are read here before the first one is written.
-/

namespace LineShell

def echoArguments (newline : Bool) (args : List String) : Action ShellError Unit :=
  emit "echo" ((" ".intercalate args).toList ++ if newline then ['\n'] else [])

def echo : Application :=
  let usage : Usage := {
    name := "echo"
    purpose := "write the arguments to standard output, separated by spaces. by default, a " ++
      "trailing newline is printed."
    options := [⟨"--no-newline", some "-n", none, "do not output the trailing newline."⟩]
    operands := [⟨"args", .text, false, true, ""⟩] }
  usage.application fun arguments =>
    echoArguments (!arguments.has "--no-newline") arguments.operands

/-- The bytes before a failure of the input are copied first. -/
def copyInput : Action ShellError Unit := do
  let input := (← get).streams.input
  modify fun job => { job with streams.input := input.drained }
  emitBytes "cat" input.unread
  match input.failure with
  | some fault => complain "cat" fault.text
  | none => return ()

def copyFiles : List String → Action ShellError Unit
  | [] => return ()
  | file :: files => do
    let bytes ← readFile "cat" file
    emitBytes "cat" bytes
    copyFiles files

def catUsage : Usage where
  name := "cat"
  purpose := "concatenate files (or standard input) to standard output."
  options := []
  operands := [⟨"files", .text, false, true, ""⟩]

def cat : Application :=
  catUsage.application fun arguments =>
    if arguments.operands.isEmpty then copyInput else copyFiles arguments.operands

end LineShell
