import LineShell.FileTree.Walk

/-!
# Reading, listing and writing

Files are found by path and written by location: a file that is open stays the same file whatever
becomes of the current directory.
-/

namespace LineShell

namespace FileTree

def isDirectory (tree : FileTree) (path : String) : Bool :=
  match tree.locate false path with
  | .ok location => tree.get? location == some .directory
  | .error _ => false

/-- The location of the regular file at a path. -/
def fileAt (tree : FileTree) (path : String) : Except IoFault Location := do
  let location ← tree.locate false path
  match tree.get? location with
  | some (.file _) => return location
  | some .directory => throw .isADirectory
  | _ => throw .notFound

/-- The content of the regular file at a path. -/
def read (tree : FileTree) (path : String) : Except IoFault Bytes := do
  let location ← tree.fileAt path
  return tree.contentAt location

/-- The names in the directory at a path. -/
def list (tree : FileTree) (path : String) : Except IoFault (List String) := do
  let location ← tree.locate false path
  match tree.get? location with
  | some .directory => return tree.namesIn location
  | _ => throw .notADirectory

/-- The path without links, `.` and `..` that leads to the same place. -/
def canonicalPath (tree : FileTree) (path : String) : Except IoFault String := do
  let location ← tree.locate false path
  return pathOf location

/-- What opening a file for output does with the content it had. -/
inductive Opening
  | truncate
  | append
  deriving DecidableEq

/-- The tree and the location after a file has been opened for output. A missing file is created
empty. -/
def openOutput (tree : FileTree) (opening : Opening) (path : String) :
    Except IoFault (Location × FileTree) := do
  let location ← tree.locate true path
  match tree.get? location, opening with
  | some .directory, _ => throw .isADirectory
  | some _, .append => return (location, tree)
  | _, _ => return (location, tree.insert location (.file []))

/-- The content with bytes written over it from an offset on. A gap between its end and the offset
is filled with zeros, unless there is nothing to write. -/
def overlay (content : Bytes) (offset : Nat) (bytes : Bytes) : Bytes :=
  if bytes.isEmpty then content
  else
    content.take offset ++ List.replicate (offset - content.length) 0 ++ bytes ++
      content.drop (offset + bytes.length)

@[simp] theorem overlay_nil (content : Bytes) (offset : Nat) :
    overlay content offset [] = content := rfl

/-- Writing at the end goes on from there. -/
@[simp] theorem overlay_length (content bytes : Bytes) :
    overlay content content.length bytes = content ++ bytes := by
  cases bytes <;> simp [overlay]

theorem overlay_of_ne_nil {bytes : Bytes} (h : bytes ≠ []) (content : Bytes) (offset : Nat) :
    overlay content offset bytes =
      content.take offset ++ List.replicate (offset - content.length) 0 ++ bytes ++
        content.drop (offset + bytes.length) := by
  simp [overlay, h]

/-- Writing on behind what has been written is writing both at once. -/
theorem overlay_overlay (content : Bytes) (offset : Nat) (first second : Bytes) :
    overlay (overlay content offset first) (offset + first.length) second =
      overlay content offset (first ++ second) := by
  by_cases hfirst : first = []
  · simp [hfirst]
  by_cases hsecond : second = []
  · simp [hsecond]
  have hlength : (content.take offset ++ List.replicate (offset - content.length) 0 ++
      first).length = offset + first.length := by
    simp only [List.length_append, List.length_take, List.length_replicate]
    omega
  have hgap : offset + first.length - (overlay content offset first).length = 0 := by
    rw [overlay_of_ne_nil hfirst, List.length_append, hlength]
    omega
  have hbefore : (overlay content offset first).take (offset + first.length) =
      content.take offset ++ List.replicate (offset - content.length) 0 ++ first := by
    rw [overlay_of_ne_nil hfirst, ← hlength, List.take_left]
  have hbehind : (overlay content offset first).drop (offset + first.length + second.length) =
      content.drop (offset + (first.length + second.length)) := by
    rw [overlay_of_ne_nil hfirst, ← hlength, List.drop_length_add_append, List.drop_drop, hlength,
      Nat.add_assoc]
  have hboth : first ++ second ≠ [] := List.append_ne_nil_of_left_ne_nil hfirst second
  rw [overlay_of_ne_nil hsecond, overlay_of_ne_nil hboth, hbefore, hgap, hbehind]
  simp

def writeAt (tree : FileTree) (location : Location) (offset : Nat) (bytes : Bytes) : FileTree :=
  tree.insert location (.file (overlay (tree.contentAt location) offset bytes))

def appendTo (tree : FileTree) (location : Location) (bytes : Bytes) : FileTree :=
  tree.insert location (.file (tree.contentAt location ++ bytes))

end FileTree

end LineShell
