import LineShell.CommandLine

/-!
# The program

The files below the working directory are read in first, together with the whole input. What the run
has changed is written back at the end. As substitutions may nest as deep as they like, the run is
tried with more and more depth until it has an answer.
-/

namespace LineShell

/-- Read in a directory and everything below it; entries that cannot be read are left out. -/
partial def loadDirectory (path : String) (location : Location) (tree : FileTree) :
    IO FileTree := do
  let entries ← (IO.FS.DirEntry.mk path "").root.readDir
  let mut tree := tree
  for entry in entries do
    let here := location ++ [entry.fileName]
    let metadata ← entry.path.symlinkMetadata
    match metadata.type with
    | .dir => tree ← loadDirectory entry.path.toString here (tree.insert here .directory)
    | .symlink =>
      if let .ok target ← (IO.FS.realPath entry.path).toBaseIO then
        tree := tree.insert here (.link target.toString)
    | _ =>
      if let .ok content ← (IO.FS.readBinFile entry.path).toBaseIO then
        tree := tree.insert here (.file content.toList)
  return tree

/-- Write the files that have become different. -/
def storeChanges (before after : FileTree) : IO Unit := do
  for (location, node) in after.entries do
    if before.get? location != some node then
      if let .file content := node then
        IO.FS.writeBinFile (FileTree.pathOf location) (ByteArray.mk content.toArray)

/-- The first answer there is at this depth, twice this depth, and so on. -/
partial def firstAnswer (answer? : Nat → Option CommandLine.Outcome) (depth : Nat) :
    IO CommandLine.Outcome :=
  match answer? depth with
  | some outcome => return outcome
  | none => firstAnswer answer? (2 * depth)

end LineShell

open LineShell

def main (args : List String) : IO UInt32 := do
  let directory := (← IO.currentDir).toString
  let home ← IO.getEnv "HOME"
  let known := (directory :: home.toList).foldl
    (fun tree path => tree.insertDirectories (FileTree.locationOf path)) .empty
  let files ← loadDirectory directory (FileTree.locationOf directory) known
  let input ← (← IO.getStdin).readBinToEnd
  let world : World := ⟨⟨(home.map fun path => ("HOME", path)).toList, directory⟩, files⟩
  let outcome ← firstAnswer (CommandLine.run · args input.toList world) 64
  storeChanges files outcome.files
  (← IO.getStdout).write (ByteArray.mk outcome.output.toArray)
  (← IO.getStderr).write (ByteArray.mk outcome.errors.toArray)
  return outcome.status.toUInt32
