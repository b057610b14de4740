import LineShell.Command.Parser
import LineShell.Redirection

/-!
# Evaluating commands

A call opens its redirections, resolves its arguments and runs the application that they name. A
pipe runs its calls one after the other, each on what the one before wrote, and ends at the first
failure. A sequence runs all its commands: a command that succeeds contributes its output, one that
fails its error message, and an exit request waits until all have run.

Substitutions evaluate whole lines, which may hold substitutions again. How deep they nest is
bounded by a depth; evaluation without an answer has needed more.
-/

namespace LineShell

namespace Registry

/-- Run the first application of the name. -/
def run (registry : Registry) (name : String) (args : List String) : Eval Run Unit :=
  match registry.lookup name with
  | none => Eval.fail (.unknownApplication name)
  | some application => fun run =>
    match application args run.job with
    | .ok () job => some (.ok () ⟨job, .ran name none :: run.history⟩)
    | .error e job => some (.error e ⟨job, .ran name (some e) :: run.history⟩)

end Registry

/-- What evaluation needs to know: the applications, and how a line is substituted. -/
structure Context where
  registry : Registry
  substitute : Substituter

/-- Run a step with the streams that a call has redirected in place of its own. A file opened for
input is read as it is when the step begins. -/
def Redirection.Files.redirect (opened : Redirection.Files) (m : Eval Run α) : Eval Run α :=
  fun run =>
    let own := run.job.streams
    let source (location : Location) := Source.ofBytes (run.job.world.files.contentAt location)
    let streams := ⟨(opened.input.map source).getD own.input, opened.output.getD own.output⟩
    let leave (after : Streams) : Streams :=
      ⟨if opened.input.isSome then own.input else after.input,
        if opened.output.isSome then own.output else after.output⟩
    m.through streams leave run

/-- A call that comes down to no word runs nothing, but its redirections have been opened. -/
def Call.evaluate (context : Context) (call : Call) : Eval Run Unit := do
  if call.tokens.isEmpty then Eval.fail (.malformed .emptyCommand)
  else
    let (opened, tokens) ← Eval.onShell (Redirection.extract context.substitute call.tokens)
    let words ← Eval.onShell (Argument.resolveAll context.substitute tokens)
    match words with
    | [] => return ()
    | name :: args => opened.redirect (context.registry.run name args)

/-- Run a step into a fresh buffer in place of its output. A step that fails gives its error and
nothing of what it wrote. -/
def Eval.capture (m : Eval Run Unit) : Eval Run (Except ShellError Bytes) := fun run =>
  let own := run.job.streams
  let collect : Eval Run (Except ShellError Bytes) := do
    let ended ← m.attempt
    let after ← Eval.get
    return ended.map fun () => after.job.streams.output.collected
  collect.through ⟨own.input, .unlimited⟩ (fun after => ⟨after.input, own.output⟩) run

/-- Run a step on bytes in place of its input. -/
def Eval.reading (bytes : Bytes) (m : Eval Run α) : Eval Run α := fun run =>
  let own := run.job.streams
  m.through ⟨.ofBytes bytes, own.output⟩ (fun after => ⟨own.input, after.output⟩) run

namespace Command

/-- The calls of a pipe, each but the last into a buffer that the next one reads. -/
def evaluatePipe (context : Context) : List Call → Eval Run Unit
  | [] => Eval.fail (.malformed .emptyCommand)
  | [last] => last.evaluate context
  | stage :: stages => do
    match ← (stage.evaluate context).capture with
    | .ok bytes => (evaluatePipe context stages).reading bytes
    | .error e => Eval.fail e

/-- What a command of a sequence contributes to the output. -/
def contribution : Except ShellError Bytes → Bytes
  | .ok bytes => bytes
  | .error e => if e.isExit then [] else Utf8.encode (e.message.toList ++ ['\n'])

/-- The exit request that a sequence holds back after one more command. -/
def heldBack (exit : Option ShellError) : Except ShellError Bytes → Option ShellError
  | .ok _ => exit
  | .error e => if e.isExit then exit.or (some e) else exit

mutual

def evaluate (context : Context) : Command → Eval Run Unit
  | .call single => single.evaluate context
  | .pipe stages => evaluatePipe context stages
  | .sequence commands => do
    match ← evaluateEach context none commands with
    | some exit => Eval.fail exit
    | none => return ()

/-- Run commands in order, and give the exit request held back at the end. -/
def evaluateEach (context : Context) (exit : Option ShellError) :
    List Command → Eval Run (Option ShellError)
  | [] => pure exit
  | command :: commands => do
    let ended ← (command.evaluate context).capture
    Eval.write (contribution ended)
    evaluateEach context (heldBack exit ended) commands

end

end Command

/-- Read a line and evaluate it. -/
def evaluateLine (context : Context) (line : String) : Eval Run Unit := do
  let command ← Eval.ofSyntax (Command.parse line)
  command.evaluate context

/-- Evaluate a line without input, and give what it wrote. -/
def capturedLine (context : Context) (line : String) : Eval Shell Bytes := fun shell =>
  let run : Run := ⟨⟨shell.world, .empty, .unlimited⟩, shell.history⟩
  match evaluateLine context line run with
  | none => none
  | some (.ok () after) => some (.ok after.job.streams.output.collected after.shell)
  | some (.error e after) => some (.error e after.shell)

/-- Substitution by evaluation, with at most so many substitutions inside one another. -/
def substituter (registry : Registry) : Nat → Substituter
  | 0, _ => fun _ => none
  | depth + 1, line => capturedLine ⟨registry, substituter registry depth⟩ line

/-- A shell that knows some applications and lets substitutions nest so deep. -/
structure Interpreter where
  registry : Registry
  depth : Nat

namespace Interpreter

def context (shell : Interpreter) : Context :=
  ⟨shell.registry, substituter shell.registry shell.depth⟩

def evaluate (shell : Interpreter) (line : String) : Eval Run Unit :=
  evaluateLine shell.context line

end Interpreter

end LineShell
