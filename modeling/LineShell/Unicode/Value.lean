import LineShell.Unicode.Break

/-!
# Properties with values
-/

namespace LineShell.Unicode

/-- For the name of a property, the sets of its values by their names. A property of which no sets
are kept has none. -/
def valueSets? (name : String) : Option (String → Option CharSet) :=
  match name with
  | "generalcategory" | "gc" => some category?
  | "script" | "sc" => some script?
  | "scriptextensions" | "scx" => some scriptExtension?
  | "age" => some age?
  | "graphemeclusterbreak" | "gcb" => some (named? graphemeBreaks)
  | "wordbreak" | "wb" => some (named? wordBreaks)
  | "sentencebreak" | "sb" => some (named? sentenceBreaks)
  | _ =>
    if (property? name).isSome || otherPropertyNames.contains name then some fun _ => none
    else none

end LineShell.Unicode
