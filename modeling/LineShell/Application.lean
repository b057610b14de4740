import LineShell.Environment
import LineShell.Stream

/-!
# Applications

An application runs on a job: the environment and the files, which all commands share, and the two
streams that it was given. It ends normally or with an error, and what it did before an error stays
done. A registry lists applications by name, and the first entry of a name is the one that runs.
-/

namespace LineShell

/-- What commands can change beside their streams. -/
structure World where
  environment : Environment
  files : FileTree

structure Streams where
  input : Source
  output : Sink

structure Job where
  world : World
  streams : Streams

/-- A computation on a job that may fail and leaves the job as it stands then. -/
abbrev Action (ε : Type) := EStateM ε Job

namespace Job

/-- Write as many of the bytes as the output takes, and fail if some are left. -/
def write (bytes : Bytes) : Action IoFault Unit := fun job =>
  let streams := job.streams
  let room := streams.output.room bytes.length
  let (output, files) := streams.output.accept job.world.files (bytes.take room)
  let job := { job with world.files := files, streams.output := output }
  if room < bytes.length then .error .streamFull job else .ok () job

/-- Read the input up to its end. -/
def readAll : Action IoFault Bytes := fun job =>
  let after := { job with streams.input := job.streams.input.drained }
  match job.streams.input.contents with
  | .ok bytes => .ok bytes after
  | .error fault => .error fault after

/-- Read the input line by line up to its end. -/
def readLines : Action IoFault (List (List Char)) := fun job =>
  let (lines, source) := job.streams.input.readLines
  let after := { job with streams.input := source }
  match lines with
  | .ok lines => .ok lines after
  | .error fault => .error fault after

def environment : Action ε Environment := fun job => .ok job.world.environment job

def files : Action ε FileTree := fun job => .ok job.world.files job

end Job

/-- What an application does with its arguments. -/
abbrev Application := List String → Action ShellError Unit

abbrev Registry := List (String × Application)

end LineShell
