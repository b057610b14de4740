import LineShell.Argument

/-!
# Redirections

An operator takes the token after it as its target. All operators of a call are checked before
anything is opened; then the targets are resolved and opened from left to right. Of several
redirections in one direction the last one counts, although all of them are opened.
-/

namespace LineShell

namespace Redirection

open FileTree (Opening)

inductive Direction
  | input
  | output (opening : Opening)
  deriving DecidableEq

/-- Quoted operators never look like these, for a token keeps its quotes. -/
def operator? : String → Option Direction
  | "<" => some .input
  | ">" => some (.output .truncate)
  | ">>" => some (.output .append)
  | _ => none

/-- The redirections of a call with their targets, and its other tokens. -/
structure Division where
  targets : List (Direction × String)
  tokens : List String

/-- Every operator needs a target, and an operator is none. -/
def divide : List String → Except SyntaxFault Division
  | [] => .ok ⟨[], []⟩
  | token :: rest =>
    match operator? token with
    | none => do
      let division ← divide rest
      return { division with tokens := token :: division.tokens }
    | some direction =>
      match rest with
      | [] => .error .invalid
      | target :: rest =>
        if (operator? target).isSome then .error .invalid
        else do
          let division ← divide rest
          return { division with targets := (direction, target) :: division.targets }

/-- The open files of a call; the ones it does not redirect are missing. -/
structure Files where
  input : Option Location
  output : Option Sink

def Files.unopened : Files := ⟨none, none⟩

/-- A target has to stand for exactly one name. -/
def resolveTarget (substitute : Substituter) (target : String) : Eval Shell String := do
  let names ← Argument.resolve substitute target
  match names with
  | [name] => return name
  | _ => Eval.fail (.malformed .ambiguousRedirect)

/-- A value, or a redirection error about a file. -/
def ofFile (name : String) : Except IoFault α → Eval Shell α
  | .ok a => pure a
  | .error fault => Eval.fail (.redirect name fault.describe)

def openInput (name : String) : Eval Shell Location := do
  let shell ← Eval.get
  ofFile name (shell.world.files.fileAt (shell.world.environment.resolve name))

def openOutput (opening : Opening) (name : String) : Eval Shell Sink := do
  let shell ← Eval.get
  let path := shell.world.environment.resolve name
  let (location, files) ← ofFile name (shell.world.files.openOutput opening path)
  Eval.modify fun shell => { shell with world.files := files }
  match opening with
  | .truncate => return .file location (some 0)
  | .append => return .file location none

/-- Open one redirection after those already open. -/
def openNext (substitute : Substituter) (opened : Files) (redirection : Direction × String) :
    Eval Shell Files := do
  let name ← resolveTarget substitute redirection.2
  match redirection.1 with
  | .input => return { opened with input := some (← openInput name) }
  | .output opening => return { opened with output := some (← openOutput opening name) }

/-- Take the redirections out of the tokens of a call and open their files. -/
def extract (substitute : Substituter) (tokens : List String) :
    Eval Shell (Files × List String) := do
  let division ← Eval.ofSyntax (divide tokens)
  let opened ← division.targets.foldlM (openNext substitute) Files.unopened
  return (opened, division.tokens)

end Redirection

end LineShell
