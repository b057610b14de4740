import LineShell.FileTree

/-!
# From paths to locations

A walk goes through the parts of a path from the root, stays at empty parts and at `.`, goes up at
`..`, and follows links, the last one included. Every part has to be looked up in a directory. A
walk that may create its last part accepts a last name that is not there, and refuses one with a
slash after it.
-/

namespace LineShell.FileTree

/-- The longest name of an entry, in bytes. -/
def longestName : Nat := 255

/-- The shortest path that is too long, in bytes. -/
def pathLimit : Nat := 4096

/-- The number of links that one walk may follow. -/
def linkLimit : Nat := 40

/-- Whether only slashes follow, and at least one. -/
def endsInSlash (rest : List String) : Bool :=
  !rest.isEmpty && rest.all (·.isEmpty)

/-- A walk from a location; `follow` takes over where a link has to be followed. -/
def walkFrom (tree : FileTree) (creating : Bool)
    (follow : Location → List String → Except IoFault Location) :
    Location → List String → Except IoFault Location
  | location, [] => .ok location
  | location, part :: rest =>
    match tree.get? location with
    | some .directory =>
      if part = "" ∨ part = "." then walkFrom tree creating follow location rest
      else if part = ".." then walkFrom tree creating follow location.dropLast rest
      else if creating && endsInSlash rest then .error .isADirectory
      else if longestName < part.utf8ByteSize then .error .nameTooLong
      else
        match tree.get? (location ++ [part]) with
        | some (.link target) =>
          follow (if Path.isAbsolute target then [] else location) (Path.parts target ++ rest)
        | some _ => walkFrom tree creating follow (location ++ [part]) rest
        | none => if creating && rest.isEmpty then .ok (location ++ [part]) else .error .notFound
    | some _ => .error .notADirectory
    | none => .error .notFound

/-- A walk that may follow so many links. -/
def walk (tree : FileTree) (creating : Bool) :
    Nat → Location → List String → Except IoFault Location
  | 0 => walkFrom tree creating fun _ _ => .error .tooManyLinks
  | links + 1 => walkFrom tree creating (walk tree creating links)

/-- The location that an absolute path leads to. -/
def locate (tree : FileTree) (creating : Bool) (path : String) : Except IoFault Location :=
  if path.toList.contains '\x00' then .error .nulInName
  else if pathLimit ≤ path.utf8ByteSize then .error .nameTooLong
  else walk tree creating linkLimit [] (Path.parts path)

end LineShell.FileTree
