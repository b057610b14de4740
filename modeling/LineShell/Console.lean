import LineShell.Evaluation
import LineShell.Text.Grapheme

/-!
# Reading lines and evaluating them

A console reads command lines and hands what follows a line to the applications that the line runs,
so that every byte belongs either to a line or to an application. Outputs and error messages are
collected apart. Blank lines are passed over, and an exit request ends the reading.
-/

namespace LineShell

open Text

structure Console where
  world : World
  unread : Bytes
  output : Bytes
  errors : Bytes

namespace Console

def report (console : Console) (message : String) : Console :=
  { console with errors := console.errors ++ Utf8.encode message.toList }

/-- Evaluate one line. An exit request is given back, any other error is reported. -/
def evaluate (console : Console) (shell : Interpreter) (line : String) :
    Option (Console × Except ShellError Unit) :=
  let run : Run := ⟨⟨console.world, ⟨.ofBytes console.unread, .unlimited⟩⟩, []⟩
  let after (run : Run) : Console :=
    { console with
      world := run.job.world
      unread := run.job.streams.input.unread
      output := console.output ++ run.job.streams.output.collected }
  match shell.evaluate line run with
  | none => none
  | some (.ok () run) => some (after run, .ok ())
  | some (.error e run) =>
    some (if e.isExit then after run else (after run).report (e.message ++ "\n"), .error e)

/-- What is left of a line after each backspace has taken back the character before it, as a reader
sees it. -/
def applyBackspaces (line : List Char) : List Char :=
  if line.contains '\x08' then
    let kept := (clusters line).foldl
      (fun kept cluster => if cluster = ['\x08'] then kept.tail else cluster :: kept) []
    kept.reverse.flatten
  else line

/-- The bytes up to the next line feed, without it, and those behind it. Nothing is left to read at
the end. -/
def nextLine? (bytes : Bytes) : Option (Bytes × Bytes) :=
  if bytes.isEmpty then none
  else
    let (line, rest) := bytes.span (· != 0x0A)
    if rest.isEmpty then some (line, [])
    else some (if line.getLast? = some 0x0D then line.dropLast else line, rest.tail)

/-- How reading ends on bytes that are not UTF-8. -/
def unreadable : String :=
  let text := IoFault.notUtf8.text
  "Error: " ++ text ++ "\n\nCaused by:\n    " ++ text ++ "\n"

/-- Read and evaluate at most so many lines, and give the status at the end. -/
def readLines (shell : Interpreter) : Nat → Console → Option (Console × Int)
  | 0, console => some (console, 0)
  | fuel + 1, console =>
    match nextLine? console.unread with
    | none => some (console, 0)
    | some (bytes, rest) =>
      let console := { console with unread := rest }
      match Utf8.decode? bytes with
      | none => some (console.report unreadable, 1)
      | some text =>
        let line := applyBackspaces text
        if line.all isBlank then readLines shell fuel console
        else
          match console.evaluate shell (String.ofList line) with
          | none => none
          | some (console, .error (.exit code)) => some (console, code)
          | some (console, _) => readLines shell fuel console

/-- Every line takes at least one byte, so there are no more lines than bytes. -/
def interact (shell : Interpreter) (console : Console) : Option (Console × Int) :=
  readLines shell (console.unread.length + 1) console

/-- Evaluate a single line, whose failure is the failure of the program. -/
def once (shell : Interpreter) (line : String) (console : Console) : Option (Console × Int) :=
  match console.evaluate shell line with
  | none => none
  | some (console, .ok ()) => some (console, 0)
  | some (console, .error (.exit code)) => some (console, code)
  | some (console, .error _) => some (console, 1)

end Console

end LineShell
