import LineShell.Regex.Expr
import LineShell.Regex.Parser
import LineShell.Unicode.Value

/-!
# What the parts of an expression mean

Flags hold from where they stand to the end of the group around them, alternatives included. Without
the Unicode flag only sets of ASCII characters have a meaning, since anything wider would take apart
the encoding of a character.
-/

namespace LineShell.Regex

open Unicode

structure Flags where
  caseInsensitive : Bool
  multiLine : Bool
  dotMatchesNewLine : Bool
  unicode : Bool
  crlf : Bool

namespace Flags

def initial (caseInsensitive : Bool) : Flags :=
  ⟨caseInsensitive, false, false, true, false⟩

def apply (flags : Flags) (items : List FlagItem) : Flags where
  caseInsensitive := applied .caseInsensitive flags.caseInsensitive items
  multiLine := applied .multiLine flags.multiLine items
  dotMatchesNewLine := applied .dotMatchesNewLine flags.dotMatchesNewLine items
  unicode := applied .unicode flags.unicode items
  crlf := applied .crlf flags.crlf items

/-- A set with the characters that differ in case only, if case makes no difference. -/
def fold (flags : Flags) (set : CharSet) : CharSet :=
  if flags.caseInsensitive then .folded flags.unicode set else set

/-- A set or its complement, which is too wide without the Unicode flag. -/
def negate (flags : Flags) (span : Span) (negated : Bool) (set : CharSet) : Except Error CharSet :=
  if !negated then .ok set
  else if flags.unicode then .ok (.complement set)
  else .error (.of .invalidUtf8 span)

end Flags

def SetOperation.apply (a b : CharSet) : SetOperation → CharSet
  | .intersection => .intersection a b
  | .difference => .difference a b
  | .symmetricDifference => .symmetricDifference a b

namespace Shorthand

def set (unicode : Bool) : Shorthand → CharSet
  | .digit => Unicode.digit unicode
  | .space => Unicode.space unicode
  | .word => Unicode.word unicode

def meaning (flags : Flags) (span : Span) (negated : Bool) (kind : Shorthand) :
    Except Error CharSet :=
  flags.negate span negated (kind.set flags.unicode)

end Shorthand

namespace PropertyName

/-- A name in lower case without blanks, hyphens, underscores and a leading `is`. -/
def plainName (name : String) : String :=
  let drop (cs : List Char) : String := String.ofList <|
    (cs.filter fun c => c.toNat < 0x80 && c != ' ' && c != '_' && c != '-').map Char.toLower
  match name.toList with
  | i :: s :: rest =>
    if i.toLower = 'i' ∧ s.toLower = 's' then
      let short := drop rest
      if short = "c" then "isc" else short
    else drop name.toList
  | cs => drop cs

/-- Short names that stand for a category, although a property has the name too. -/
def categoryFirst : List String := ["cf", "sc", "lc"]

/-- Names of categories and scripts that have no characters. -/
def emptyNames : List String := "cs" :: "surrogate" :: emptyScripts

/-- A name alone is a property, a category or a script, in this order. -/
def set : PropertyName → Except Cause CharSet
  | .alone name =>
    let name := plainName name
    let property := if categoryFirst.contains name then none else property? name
    match (property.or (category? name)).or (script? name) with
    | some set => .ok set
    | none =>
      .error (if emptyNames.contains name then .propertyValueNotFound else .propertyNotFound)
  | .valued name value =>
    match valueSets? (plainName name) with
    | none => .error .propertyNotFound
    | some sets =>
      match sets (plainName value) with
      | some set => .ok set
      | none => .error .propertyValueNotFound

def meaning (flags : Flags) (span : Span) (negated : Bool) (name : PropertyName) :
    Except Error CharSet :=
  if !flags.unicode then .error (.of .unicodeNotAllowed span)
  else
    match name.set with
    | .ok set => flags.negate span negated (flags.fold set)
    | .error cause => .error (.of cause span)

end PropertyName

namespace Literal

/-- Two hexadecimal digits beyond ASCII are a byte without the Unicode flag. -/
def check (flags : Flags) (literal : Literal) : Except Error Char :=
  if !flags.unicode && literal.isByte && 0x7F < literal.char.toNat then
    .error (.of .invalidUtf8 literal.span)
  else .ok literal.char

/-- Between brackets the character itself must be ASCII without the Unicode flag. -/
def checkInClass (flags : Flags) (literal : Literal) : Except Error Char := do
  let c ← literal.check flags
  if !flags.unicode && 0x7F < c.toNat then .error (.of .unicodeNotAllowed literal.span) else .ok c

end Literal

mutual

def ClassItem.meaning (flags : Flags) : ClassItem → Except Error CharSet
  | .empty _ => .ok .empty
  | .literal written => do
    let c ← written.checkInClass flags
    return .single c
  | .range _ low high => do
    let low ← low.checkInClass flags
    let high ← high.checkInClass flags
    return .range low high
  | .ascii span negated ranges => flags.negate span negated (flags.fold (.ranges ranges))
  | .property span negated name => name.meaning flags span negated
  | .shorthand span negated kind => kind.meaning flags span negated
  | .bracketed span negated item => do
    let set ← item.meaning flags
    flags.negate span negated (flags.fold set)
  | .union _ items => unionMeaning flags items
  | .operation _ kind left right => do
    let left ← left.meaning flags
    let right ← right.meaning flags
    return kind.apply (flags.fold left) (flags.fold right)

def unionMeaning (flags : Flags) : List ClassItem → Except Error CharSet
  | [] => .ok .empty
  | item :: items => do
    let set ← item.meaning flags
    let sets ← unionMeaning flags items
    return .union set sets

end

namespace Anchor

def meaning (flags : Flags) : Anchor → Look
  | .lineStart => if flags.multiLine then .lineStart flags.crlf else .textStart
  | .lineEnd => if flags.multiLine then .lineEnd flags.crlf else .textEnd
  | .textStart => .textStart
  | .textEnd => .textEnd
  | .boundary => .boundary flags.unicode false
  | .notBoundary => .boundary flags.unicode true
  | .wordStart => .wordStart flags.unicode
  | .wordEnd => .wordEnd flags.unicode
  | .wordStartHalf => .wordStartHalf flags.unicode
  | .wordEndHalf => .wordEndHalf flags.unicode

end Anchor

/-- What a dot matches. -/
def dotSet (flags : Flags) : CharSet :=
  if flags.dotMatchesNewLine then .all
  else if flags.crlf then .complement (.union (.single '\n') (.single '\r'))
  else .complement (.single '\n')

mutual

/-- The expression that a tree stands for, and the flags that hold behind it. -/
def Tree.meaning (flags : Flags) : Tree → Except Error (Expr CharSet Look × Flags)
  | .empty _ => .ok (.empty, flags)
  | .flags _ items => .ok (.empty, flags.apply items)
  | .literal written => do
    let c ← written.check flags
    return (.one (flags.fold (.single c)), flags)
  | .dot span =>
    if flags.unicode then .ok (.one (dotSet flags), flags) else .error (.of .invalidUtf8 span)
  | .anchor _ kind => .ok (.look (kind.meaning flags), flags)
  | .property span negated name => do
    let set ← name.meaning flags span negated
    return (.one set, flags)
  | .shorthand span negated kind => do
    let set ← kind.meaning flags span negated
    return (.one set, flags)
  | .bracketed span negated item => do
    let set ← item.meaning flags
    let set ← flags.negate span negated (flags.fold set)
    return (.one set, flags)
  | .repetition _ least most tree => do
    let (expr, flags) ← tree.meaning flags
    return (.repeated least most expr, flags)
  | .group _ items tree => do
    let (expr, _) ← tree.meaning (flags.apply items)
    return (expr, flags)
  | .alternation _ trees => alternationMeaning flags trees
  | .concat _ trees => concatMeaning flags trees

def alternationMeaning (flags : Flags) : List Tree → Except Error (Expr CharSet Look × Flags)
  | [] => .ok (.empty, flags)
  | [tree] => tree.meaning flags
  | tree :: trees => do
    let (expr, flags) ← tree.meaning flags
    let (others, flags) ← alternationMeaning flags trees
    return (.alt expr others, flags)

def concatMeaning (flags : Flags) : List Tree → Except Error (Expr CharSet Look × Flags)
  | [] => .ok (.empty, flags)
  | tree :: trees => do
    let (expr, flags) ← tree.meaning flags
    let (others, flags) ← concatMeaning flags trees
    return (.seq expr others, flags)

end

end LineShell.Regex
