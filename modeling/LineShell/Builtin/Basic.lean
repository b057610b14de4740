import LineShell.Application
import LineShell.Usage

/-!
# What built-in applications share

A built-in application sorts its arguments out by its usage before it does anything. Whatever goes
wrong in it is an error of that application; only the help text is written under the shell's own
name.
-/

namespace LineShell

open Text

/-- An error of the application itself. -/
def complain (name message : String) : Action ShellError α :=
  throw (.application name message)

/-- Write bytes to the output. -/
def emitBytes (name : String) (bytes : Bytes) : Action ShellError Unit :=
  (Job.write bytes).adaptExcept fun fault => .application name fault.text

/-- Write characters to the output. -/
def emit (name : String) (text : List Char) : Action ShellError Unit :=
  emitBytes name (Utf8.encode text)

/-- The content of a file, which is named relative to the current directory. -/
def readFile (name file : String) : Action ShellError Bytes := do
  let path := (← Job.environment).resolve file
  match (← Job.files).read path with
  | .ok bytes => return bytes
  | .error fault => complain name (file ++ ": " ++ fault.describe)

/-- The text of a file. -/
def readTextFile (name file : String) : Action ShellError (List Char) := do
  let bytes ← readFile name file
  match Utf8.decode? bytes with
  | some text => return text
  | none => complain name (file ++ ": cannot read: " ++ IoFault.notUtf8.text)

/-- The text of the input. -/
def readTextInput (name : String) : Action ShellError (List Char) := do
  let failed (fault : IoFault) : ShellError :=
    .application name ("cannot read standard input: " ++ fault.text)
  let bytes ← Job.readAll.adaptExcept failed
  match Utf8.decode? bytes with
  | some text => return text
  | none => throw (failed .notUtf8)

/-- The text of a file, or of the input where no file is given. -/
def readText (name : String) : Option String → Action ShellError (List Char)
  | some file => readTextFile name file
  | none => readTextInput name

def trimEnd (text : String) : String :=
  String.ofList (text.toList.reverse.dropWhile isBlank).reverse

/-- An application that sorts its arguments out first. -/
def Usage.application (usage : Usage) (run : Arguments → Action ShellError Unit) : Application :=
  fun args =>
    match usage.scan args with
    | .ok (some arguments) => run arguments
    | .ok none => (Job.write (Utf8.encode usage.help.toList)).adaptExcept .io
    | .error fault => complain usage.name (trimEnd fault.message)

end LineShell
