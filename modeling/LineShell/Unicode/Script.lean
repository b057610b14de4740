import LineShell.Unicode.Property
import LineShell.Unicode.Table.Age
import LineShell.Unicode.Table.Script
import LineShell.Unicode.Table.ScriptExtension

/-!
# Scripts and versions

A character belongs to one script, but may be used with several. It has been there since some
version of the standard.
-/

namespace LineShell.Unicode

open CharSet

def script? (name : String) : Option CharSet :=
  (named? scriptTables name).map ofTable

/-- The characters that are used with a script. -/
def scriptExtension? (name : String) : Option CharSet := do
  let entry ← scriptTables.find? (·.1.contains name)
  let listed := unionAll (scriptExtensionTables.map fun group => ofTable group.2)
  let shared := scriptExtensionTables.filter fun group => group.1.any entry.1.contains
  return .union (difference (ofTable entry.2) listed)
    (unionAll (shared.map fun group => ofTable group.2))

/-- The characters there are in a version. -/
def age? (name : String) : Option CharSet :=
  let older := ageTables.takeWhile fun version => !version.1.contains name
  match ageTables.drop older.length with
  | [] => none
  | version :: _ => some (unionAll ((older ++ [version]).map fun version => ofTable version.2))

end LineShell.Unicode
