import LineShell.Association
import LineShell.Error
import LineShell.Path
import LineShell.Text.Utf8

/-!
# File trees

A file tree holds regular files, directories and symbolic links, each at its location, which is the
list of names that leads to it from the root. The root is a directory that is always there. At most
one entry stands at a location.
-/

namespace LineShell

abbrev Location := List String

inductive Node
  | file (content : Bytes)
  | directory
  | link (target : String)
  deriving DecidableEq

structure FileTree where
  entries : List (Location × Node)
  distinct : (entries.map Prod.fst).Nodup

namespace FileTree

def empty : FileTree := ⟨[], List.nodup_nil⟩

def get? (tree : FileTree) (location : Location) : Option Node :=
  if location = [] then some .directory else tree.entries.lookup location

/-- The tree with a node at a location, in place of one that stands there. -/
def insert (tree : FileTree) (location : Location) (node : Node) : FileTree where
  entries := Association.assign tree.entries location node
  distinct := Association.nodup_assign tree.distinct location node

@[simp] theorem get?_insert_self (tree : FileTree) {location : Location} (node : Node)
    (h : location ≠ []) : (tree.insert location node).get? location = some node := by
  simp [get?, insert, h]

@[simp] theorem get?_insert_of_ne (tree : FileTree) {location other : Location} (node : Node)
    (h : other ≠ location) : (tree.insert location node).get? other = tree.get? other := by
  simp [get?, insert, h]

/-- A node that stands there already makes no difference. -/
theorem insert_of_get? {tree : FileTree} {location : Location} {node : Node}
    (h : tree.get? location = some node) (hne : location ≠ []) :
    tree.insert location node = tree := by
  rw [get?, if_neg hne] at h
  simp only [insert, Association.assign_of_lookup h]

@[simp] theorem insert_insert (tree : FileTree) (location : Location) (node other : Node) :
    (tree.insert location node).insert location other = tree.insert location other := by
  simp only [insert, Association.assign_assign]

/-- What a regular file holds; nothing where there is none. -/
def contentAt (tree : FileTree) (location : Location) : Bytes :=
  match tree.get? location with
  | some (.file content) => content
  | _ => []

@[simp] theorem contentAt_insert_self (tree : FileTree) {location : Location} (content : Bytes)
    (h : location ≠ []) : (tree.insert location (.file content)).contentAt location = content := by
  simp [contentAt, h]

/-- The names in a directory, in no particular order. -/
def namesIn (tree : FileTree) (directory : Location) : List String :=
  tree.entries.filterMap fun entry =>
    if entry.1.dropLast = directory then entry.1.getLast? else none

/-- The path of a location that has no links in it. -/
def pathOf (location : Location) : String :=
  "/" ++ "/".intercalate location

/-- The location that an absolute path of plain names leads to where no link is on the way. -/
def locationOf (path : String) : Location :=
  (Path.parts path).filter (!·.isEmpty)

/-- The tree with directories at a location and above it, wherever nothing stands yet. -/
def insertDirectories (tree : FileTree) (location : Location) : FileTree :=
  go tree [] location
where
  go (tree : FileTree) (above : Location) : List String → FileTree
    | [] => tree
    | name :: names =>
      let here := above ++ [name]
      let tree := if (tree.get? here).isSome then tree else tree.insert here .directory
      go tree here names

end FileTree

end LineShell
