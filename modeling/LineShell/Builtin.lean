import LineShell.Builtin.Copy
import LineShell.Builtin.Count
import LineShell.Builtin.Directory
import LineShell.Builtin.Grep
import LineShell.Builtin.Lines

/-!
# The built-in applications
-/

namespace LineShell

/-- The status of `exit`, which is zero where none is given. -/
def exitStatus (code : Option String) : Int :=
  match code.map Numeral.readStatus with
  | some (.ok status) => status
  | _ => 0

def exit : Application :=
  let usage : Usage := {
    name := "exit"
    purpose := "ask the shell to terminate."
    options := []
    operands := [⟨"code", .status, false, false, "exit status, 0 when omitted."⟩] }
  usage.application fun arguments => throw (.exit (exitStatus arguments.operand?))

/-- Every built-in application by its name. -/
def builtins : Registry :=
  [("pwd", pwd), ("cd", cd), ("ls", ls), ("echo", echo), ("cat", cat), ("head", head),
    ("tail", tail), ("wc", wc), ("grep", grep), ("sort", sort), ("exit", exit)]

end LineShell
