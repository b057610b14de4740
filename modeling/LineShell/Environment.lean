import LineShell.Association
import LineShell.Path

/-!
# The environment

Variables and the current directory. The current directory is a path text that only `cd` replaces;
names are resolved against it without looking at any file.
-/

namespace LineShell

structure Environment where
  bindings : List (String × String)
  directory : String

namespace Environment

/-- An environment without variables. -/
def withDirectory (directory : String) : Environment := ⟨[], directory⟩

def get? (env : Environment) (key : String) : Option String :=
  env.bindings.lookup key

def set (env : Environment) (key value : String) : Environment :=
  { env with bindings := Association.assign env.bindings key value }

@[simp] theorem get?_set_self (env : Environment) (key value : String) :
    (env.set key value).get? key = some value := by
  simp [get?, set]

@[simp] theorem get?_set_of_ne (env : Environment) {key other : String} (value : String)
    (h : other ≠ key) : (env.set key value).get? other = env.get? other := by
  simp [get?, set, h]

def resolve (env : Environment) (name : String) : String :=
  Path.join env.directory name

end Environment

end LineShell
