import LineShell.Text.Blank

/-!
# Cutting text into pieces

A text is cut at every character of a class. Its words are the non-empty pieces between blanks. Its
lines end at each line feed, and a carriage return just before that line feed belongs to the end of
the line. A last piece without a line feed is a line only if it holds something, and keeps its
carriage return.
-/

namespace LineShell.Text

/-- The pieces between the members of a class, empty ones included. -/
def cutAt (separates : α → Bool) (text : List α) : List (List α) :=
  text.foldr (fun c pieces =>
    if separates c then [] :: pieces else pieces.modifyHead (c :: ·)) [[]]

@[simp] theorem cutAt_nil (separates : α → Bool) : cutAt separates [] = [[]] := rfl

theorem cutAt_cons (separates : α → Bool) (c : α) (text : List α) :
    cutAt separates (c :: text) =
      if separates c then [] :: cutAt separates text
      else (cutAt separates text).modifyHead (c :: ·) := rfl

theorem cutAt_ne_nil (separates : α → Bool) (text : List α) : cutAt separates text ≠ [] := by
  induction text with
  | nil => simp
  | cons c text ih =>
    rw [cutAt_cons]
    split
    · simp
    · simpa [List.modifyHead_eq_nil_iff] using ih

/-- A text is cut independently on both sides of a separator. -/
theorem cutAt_append_cons {separates : α → Bool} {c : α} (h : separates c = true)
    (before after : List α) :
    cutAt separates (before ++ c :: after) = cutAt separates before ++ cutAt separates after := by
  induction before with
  | nil => simp [cutAt_cons, h]
  | cons d before ih =>
    rw [List.cons_append, cutAt_cons, cutAt_cons, ih]
    split
    · rfl
    · obtain ⟨piece, pieces, hpieces⟩ := List.exists_cons_of_ne_nil (cutAt_ne_nil separates before)
      rw [hpieces]
      rfl

theorem cutAt_of_not_separates {separates : α → Bool} {text : List α}
    (h : ∀ c ∈ text, separates c = false) : cutAt separates text = [text] := by
  induction text with
  | nil => rfl
  | cons c text ih =>
    obtain ⟨hc, htext⟩ := List.forall_mem_cons.mp h
    rw [cutAt_cons, hc, ih htext]
    rfl

/-- The longest runs of characters that are not blank. -/
def words (text : List Char) : List (List Char) :=
  (cutAt isBlank text).filter (!·.isEmpty)

theorem words_append_cons {c : Char} (h : isBlank c = true) (before after : List Char) :
    words (before ++ c :: after) = words before ++ words after := by
  rw [words, cutAt_append_cons h, List.filter_append, words, words]

/-- A line without the one carriage return that may end it. -/
def dropReturn (line : List Char) : List Char :=
  if line.getLast? = some '\r' then line.dropLast else line

def lines (text : List Char) : List (List Char) :=
  let pieces := cutAt (· == '\n') text
  pieces.dropLast.map dropReturn ++ (pieces.getLast?.filter (!·.isEmpty)).toList

/-- The text in which every line is ended by one line feed. -/
def unlines (lines : List (List Char)) : List Char :=
  lines.flatMap (· ++ ['\n'])

end LineShell.Text
