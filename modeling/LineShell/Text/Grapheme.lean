import LineShell.Unicode.Break

/-!
# Characters as a reader sees them

A letter with its marks, a syllable, a flag or a joined picture is one character to a reader,
although it is written with several. A text is divided into such clusters from the left; whether a
character goes on with the cluster before it depends on that cluster alone.
-/

namespace LineShell.Text

open Unicode

namespace Cluster

/-- Characters that always stand alone, but for a carriage return before a line feed. -/
def separates (c : Char) : Bool :=
  c == '\r' || c == '\n' || Grapheme.control.contains c.toNat

/-- A Hangul syllable goes on with what may follow in it. -/
def continuesSyllable (last c : Char) : Bool :=
  let isLast (set : CharSet) : Bool := set.contains last.toNat
  let isNext (set : CharSet) : Bool := set.contains c.toNat
  (isLast Grapheme.leadingJamo && (isNext Grapheme.leadingJamo || isNext Grapheme.vowelJamo ||
      isNext Grapheme.openSyllable || isNext Grapheme.closedSyllable)) ||
    ((isLast Grapheme.openSyllable || isLast Grapheme.vowelJamo) &&
      (isNext Grapheme.vowelJamo || isNext Grapheme.trailingJamo)) ||
    ((isLast Grapheme.closedSyllable || isLast Grapheme.trailingJamo) &&
      isNext Grapheme.trailingJamo)

/-- Signs that go with what is before them. -/
def isExtension (c : Char) : Bool :=
  Grapheme.extension.contains c.toNat || joiner.contains c.toNat ||
    Grapheme.spacingMark.contains c.toNat

def isConsonant (c : Char) : Bool := (CharSet.ofTable linkedConsonants).contains c.toNat

def isLinker (c : Char) : Bool := (CharSet.ofTable consonantLinkers).contains c.toNat

/-- A consonant goes on after another one and a sign that links them. -/
def continuesConjunct (cluster : List Char) (c : Char) : Bool :=
  let between := cluster.takeWhile fun c =>
    c != '\u200C' && (Grapheme.extension.contains c.toNat || joiner.contains c.toNat)
  isConsonant c && between.any isLinker && (cluster.drop between.length).head?.any isConsonant

def isPicture (c : Char) : Bool := extendedPictographic.contains c.toNat

/-- A picture goes on after another one and a joiner. -/
def continuesPicture (cluster : List Char) (c : Char) : Bool :=
  match cluster with
  | [] => false
  | last :: before =>
    isPicture c && joiner.contains last.toNat &&
      (before.dropWhile fun c => Grapheme.extension.contains c.toNat).head?.any isPicture

/-- The second letter of a flag goes on with the first. -/
def continuesFlag (cluster : List Char) (c : Char) : Bool :=
  let isLetter (c : Char) : Bool := regionalIndicator.contains c.toNat
  isLetter c && (cluster.takeWhile isLetter).length % 2 == 1

/-- Whether a character goes on with a cluster, of which the latest character comes first. -/
def continues (cluster : List Char) (c : Char) : Bool :=
  match cluster with
  | [] => false
  | last :: _ =>
    if last = '\r' ∧ c = '\n' then true
    else if separates last || separates c then false
    else
      continuesSyllable last c || isExtension c || Grapheme.prepended.contains last.toNat ||
        continuesConjunct cluster c || continuesPicture cluster c || continuesFlag cluster c

/-- The clusters so far, latest first, each with its latest character first. -/
def extend (clusters : List (List Char)) (c : Char) : List (List Char) :=
  match clusters with
  | [] => [[c]]
  | cluster :: done => if continues cluster c then (c :: cluster) :: done else [c] :: clusters

/-- The text that the clusters so far make up. -/
def joined (clusters : List (List Char)) : List Char :=
  (clusters.map List.reverse).reverse.flatten

theorem joined_extend (clusters : List (List Char)) (c : Char) :
    joined (extend clusters c) = joined clusters ++ [c] := by
  cases clusters with
  | nil => rfl
  | cons cluster done =>
    rw [extend]
    split <;> simp [joined]

theorem joined_foldl_extend (clusters : List (List Char)) (text : List Char) :
    joined (text.foldl extend clusters) = joined clusters ++ text := by
  induction text generalizing clusters with
  | nil => simp
  | cons c text ih =>
    rw [List.foldl_cons, ih, joined_extend, List.append_assoc, List.singleton_append]

end Cluster

/-- The characters of a text as a reader sees them. -/
def clusters (text : List Char) : List (List Char) :=
  ((text.foldl Cluster.extend []).map List.reverse).reverse

theorem flatten_clusters (text : List Char) : (clusters text).flatten = text :=
  Cluster.joined_foldl_extend [] text

end LineShell.Text
