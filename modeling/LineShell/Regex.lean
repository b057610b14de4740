import LineShell.Regex.Meaning

/-!
# Regular expressions

An expression is compiled once and then tells of any text whether it matches somewhere in it.
-/

namespace LineShell

structure Regex where
  expr : Regex.Expr Unicode.CharSet Regex.Look

namespace Regex

def compile (ignoreCase : Bool) (expression : String) : Except Error Regex := do
  let tree ← Tree.parse expression
  let (expr, _) ← tree.meaning (.initial ignoreCase)
  return ⟨expr⟩

def isMatch (regex : Regex) (text : List Char) : Bool :=
  regex.expr.matchesIn text

end Regex

end LineShell
