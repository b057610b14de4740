import LineShell.Builtin.Basic

/-!
# Directories

`pwd` prints the current directory, `cd` replaces it by a path without links, and `ls` lists the
names in a directory in ascending order.
-/

namespace LineShell

def printDirectory : Action ShellError Unit := do
  let env ← Job.environment
  emit "pwd" (env.directory.toList ++ ['\n'])

def pwd : Application :=
  let usage : Usage := ⟨"pwd", "print the current working directory.", [], []⟩
  usage.application fun _ => printDirectory

/-- An empty target counts as none. -/
def directoryTarget (env : Environment) (target : Option String) : Option String :=
  (target.filter (!·.isEmpty)).or (env.get? "HOME")

def changeDirectory (target : Option String) : Action ShellError Unit := do
  let env ← Job.environment
  let files ← Job.files
  match directoryTarget env target with
  | none => complain "cd" "no target and HOME not set"
  | some target =>
    let path := env.resolve target
    if !files.isDirectory path then complain "cd" (target ++ ": No such directory")
    match files.canonicalPath path with
    | .ok directory =>
      modify fun job => { job with world.environment.directory := directory }
    | .error fault => complain "cd" ("can't canonicalize " ++ target ++ ": " ++ fault.text)

def cd : Application :=
  let usage : Usage := {
    name := "cd"
    purpose := "change the current working directory. if no target is provided, changes to the " ++
      "directory specified by the HOME environment variable."
    options := []
    operands := [⟨"target", .text, false, false,
      "directory to switch to; absolute or relative to the current directory."⟩] }
  usage.application fun arguments => changeDirectory arguments.operand?

/-- The names that a listing shows. -/
def shownNames (all : Bool) (names : List String) : List String :=
  (names.filter fun name => all || name.toList.head? != some '.').mergeSort (· ≤ ·)

def listDirectory (all : Bool) (directory : Option String) : Action ShellError Unit := do
  let shown := directory.getD "."
  let path := (← Job.environment).resolve shown
  match (← Job.files).list path with
  | .ok names => emit "ls" (Text.unlines ((shownNames all names).map String.toList))
  | .error fault => complain "ls" (shown ++ ": " ++ fault.describe)

def lsUsage : Usage where
  name := "ls"
  purpose := "list the entries of a directory, one per line, sorted by name."
  options := [⟨"--all", some "-a", none, "include entries whose name starts with a dot."⟩]
  operands := [⟨"dir", .text, false, false,
    "directory to list; defaults to the current directory."⟩]

def ls : Application :=
  lsUsage.application fun arguments => listDirectory (arguments.has "--all") arguments.operand?

end LineShell
