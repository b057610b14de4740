import LineShell.Builtin
import LineShell.Console

/-!
# The command line

The program evaluates the line that it is given, or else the lines that it reads. It ends with the
low byte of the status.

How deep substitutions may nest is given, and there is no answer where they nest deeper: the program
does what it does from some depth on. Its log is left out, and with it the warnings that stand among
the errors by default: of a pattern whose directory cannot be listed, and of lines that cannot be
read.
-/

namespace LineShell

namespace CommandLine

def usage : Usage where
  name := "jsh"
  purpose := "a small line-oriented shell."
  options := [⟨"--command", some "-c", some .text,
      "evaluate this line and exit instead of starting the interactive loop."⟩,
    ⟨"--log-level", none, some .level,
      "diagnostics verbosity on stderr: off, error, warn, info, debug or trace."⟩]
  operands := []

/-- What the program leaves behind. -/
structure Outcome where
  output : Bytes
  errors : Bytes
  status : Nat
  files : FileTree

/-- The applications of the program, with substitutions that nest so deep. -/
def shell (depth : Nat) : Interpreter := ⟨builtins, depth⟩

/-- The whole program on its arguments and its input. -/
def run (depth : Nat) (args : List String) (input : Bytes) (world : World) : Option Outcome :=
  match usage.scan args with
  | .ok none => some ⟨Utf8.encode (usage.help ++ "\n").toList, [], 0, world.files⟩
  | .error fault =>
    let advice := "\nRun " ++ usage.name ++ " --help for more information.\n"
    some ⟨[], Utf8.encode (fault.message ++ advice).toList, 1, world.files⟩
  | .ok (some arguments) =>
    let console : Console := ⟨world, input, [], []⟩
    let ended :=
      match arguments.value? "--command" with
      | some line => console.once (shell depth) line
      | none => console.interact (shell depth)
    ended.map fun (console, status) =>
      ⟨console.output, console.errors, (status % 256).toNat, console.world.files⟩

end CommandLine

end LineShell
