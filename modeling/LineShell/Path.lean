import LineShell.Text.Split

/-!
# Path texts

A path is a text in which slashes separate parts. Joining a name to a directory only puts texts
together: nothing is normalised, and an absolute name replaces the directory.
-/

namespace LineShell.Path

open Text

def isAbsolute (path : String) : Bool :=
  path.toList.head? == some '/'

/-- The parts between slashes, empty ones included. -/
def parts (path : String) : List String :=
  (cutAt (· == '/') path.toList).map String.ofList

/-- Joining the empty name adds a slash to a directory that does not end in one. -/
def join (directory name : String) : String :=
  if isAbsolute name then name
  else if directory.isEmpty || directory.toList.getLast? == some '/' then directory ++ name
  else directory ++ "/" ++ name

end LineShell.Path
