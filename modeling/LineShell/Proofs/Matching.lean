import Mathlib
import LineShell.Pattern

/-!
# What a pattern matches

A pattern is matched by filling a row of answers, one for each place of the text, from the last
piece of the pattern to the first. The answers are those of a relation: a literal stands for itself
and a wildcard for a run of characters without a slash. No text without a slash tells this wildcard
from one that stands for any characters.

A text fits a pattern by its last component alone, once the two agree up to the last slash. No
wildcard reaches over a slash, so the slashes of the text are those of the pattern one by one, and
the last one is where both are cut.
-/

namespace LineShell.Pattern

/-- The text is what the pieces stand for, one after another, each wildcard for a run of characters
that are allowed. -/
inductive Fits (allowed : Char → Prop) : List Piece → List Char → Prop
  | nil : Fits allowed [] []
  | literal (c : Char) {pieces : List Piece} {text : List Char}
      (others : Fits allowed pieces text) : Fits allowed (.literal c :: pieces) (c :: text)
  | wildcard {run text : List Char} {pieces : List Piece} (inside : ∀ c ∈ run, allowed c)
      (others : Fits allowed pieces text) : Fits allowed (.wildcard :: pieces) (run ++ text)

/-! ### The rows of answers -/

/-- The answer for a literal, from those for the pieces behind it. -/
def literalThen (c : Char) (later : List Char → Bool) : List Char → Bool
  | [] => false
  | t :: text => t == c && later text

/-- The answer for a wildcard, from those for the pieces behind it. -/
def wildcardThen (later : List Char → Bool) : List Char → Bool
  | [] => later []
  | t :: text => later (t :: text) || (t != '/' && wildcardThen later text)

/-- The answer for one text alone. -/
def accepts : List Piece → List Char → Bool
  | [] => List.isEmpty
  | .literal c :: pieces => literalThen c (accepts pieces)
  | .wildcard :: pieces => wildcardThen (accepts pieces)

/-- The answer for the whole text stands first. -/
theorem headD_map_tails (later : List Char → Bool) (text : List Char) :
    (text.tails.map later).headD false = later text := by
  cases text <;> rfl

theorem literalRow_tails (c : Char) (later : List Char → Bool) (text : List Char) :
    literalRow c text (text.tails.map later) = text.tails.map (literalThen c later) := by
  induction text with
  | nil => rfl
  | cons t text ih =>
    rw [List.tails_cons, List.map_cons, literalRow, ih, headD_map_tails]
    rfl

theorem wildcardRow_tails (later : List Char → Bool) (text : List Char) :
    wildcardRow text (text.tails.map later) = text.tails.map (wildcardThen later) := by
  induction text with
  | nil => rfl
  | cons t text ih =>
    rw [List.tails_cons, List.map_cons, wildcardRow, ih, headD_map_tails]
    rfl

theorem matchRow_eq (text : List Char) (pieces : List Piece) :
    matchRow text pieces = text.tails.map (accepts pieces) := by
  induction pieces with
  | nil =>
    induction text with
    | nil => rfl
    | cons t text ih =>
      rw [matchRow] at ih
      rw [matchRow, List.foldr_cons, ih]
      rfl
  | cons piece pieces ih =>
    cases piece with
    | literal c => rw [matchRow, ih, literalRow_tails, accepts]
    | wildcard => rw [matchRow, ih, wildcardRow_tails, accepts]

theorem wildcardThen_iff {later : List Char → Bool} {text : List Char} :
    wildcardThen later text = true ↔
      ∃ run rest, text = run ++ rest ∧ (∀ c ∈ run, c ≠ '/') ∧ later rest = true := by
  induction text with
  | nil => simp [wildcardThen]
  | cons t text ih =>
    rw [wildcardThen, Bool.or_eq_true, Bool.and_eq_true, bne_iff_ne, ih]
    constructor
    · rintro (hlater | ⟨ht, run, rest, rfl, hrun, hrest⟩)
      · exact ⟨[], t :: text, rfl, nofun, hlater⟩
      · exact ⟨t :: run, rest, rfl, List.forall_mem_cons.mpr ⟨ht, hrun⟩, hrest⟩
    · rintro ⟨run, rest, htext, hrun, hrest⟩
      cases run with
      | nil => exact .inl (htext ▸ hrest)
      | cons c run =>
        obtain ⟨rfl, rfl⟩ := List.cons.inj htext
        obtain ⟨hc, hrun⟩ := List.forall_mem_cons.mp hrun
        exact .inr ⟨hc, run, rest, rfl, hrun, hrest⟩

theorem accepts_iff {pieces : List Piece} {text : List Char} :
    accepts pieces text = true ↔ Fits (· ≠ '/') pieces text := by
  induction pieces generalizing text with
  | nil =>
    rw [accepts, List.isEmpty_iff]
    constructor
    · rintro rfl
      exact .nil
    · rintro ⟨⟩
      rfl
  | cons piece pieces ih =>
    cases piece with
    | literal c =>
      cases text with
      | nil => exact ⟨nofun, nofun⟩
      | cons t text =>
        rw [accepts, literalThen, Bool.and_eq_true, beq_iff_eq, ih]
        constructor
        · rintro ⟨rfl, hothers⟩
          exact .literal t hothers
        · rintro ⟨⟩
          exact ⟨rfl, ‹_›⟩
    | wildcard =>
      rw [accepts, wildcardThen_iff]
      constructor
      · rintro ⟨run, rest, rfl, hrun, hrest⟩
        exact .wildcard hrun (ih.mp hrest)
      · rintro ⟨⟩
        exact ⟨_, _, rfl, ‹_›, ih.mpr ‹_›⟩

theorem matchesText_iff {pieces : List Piece} {text : List Char} :
    matchesText pieces text = true ↔ Fits (· ≠ '/') pieces text := by
  rw [matchesText, matchRow_eq, headD_map_tails, accepts_iff]

namespace Fits

variable {allowed : Char → Prop} {pieces more : List Piece} {text rest : List Char}

theorem append (h : Fits allowed pieces text) (hmore : Fits allowed more rest) :
    Fits allowed (pieces ++ more) (text ++ rest) := by
  induction h with
  | nil => exact hmore
  | literal c others ih => exact .literal c ih
  | wildcard inside others ih =>
    rw [List.append_assoc]
    exact .wildcard inside ih

theorem split (h : Fits allowed (pieces ++ more) text) :
    ∃ first second, text = first ++ second ∧ Fits allowed pieces first ∧
      Fits allowed more second := by
  generalize hwhole : pieces ++ more = whole at h
  induction h generalizing pieces with
  | nil =>
    obtain ⟨rfl, rfl⟩ := List.append_eq_nil_iff.mp hwhole
    exact ⟨[], [], rfl, .nil, .nil⟩
  | @literal c whole text others ih =>
    cases pieces with
    | nil =>
      obtain rfl : more = .literal c :: whole := hwhole
      exact ⟨[], c :: text, rfl, .nil, .literal c others⟩
    | cons piece pieces =>
      obtain ⟨rfl, htail⟩ := List.cons.inj hwhole
      obtain ⟨first, second, rfl, hfirst, hsecond⟩ := ih htail
      exact ⟨c :: first, second, rfl, .literal c hfirst, hsecond⟩
  | @wildcard run text whole inside others ih =>
    cases pieces with
    | nil =>
      obtain rfl : more = .wildcard :: whole := hwhole
      exact ⟨[], run ++ text, rfl, .nil, .wildcard inside others⟩
    | cons piece pieces =>
      obtain ⟨rfl, htail⟩ := List.cons.inj hwhole
      obtain ⟨first, second, rfl, hfirst, hsecond⟩ := ih htail
      exact ⟨run ++ first, second, (List.append_assoc _ _ _).symm, .wildcard inside hfirst,
        hsecond⟩

theorem imp {other : Char → Prop} (h : Fits allowed pieces text)
    (himp : ∀ c ∈ text, allowed c → other c) : Fits other pieces text := by
  induction h with
  | nil => exact .nil
  | literal c others ih => exact .literal c (ih (List.forall_mem_cons.mp himp).2)
  | wildcard inside others ih =>
    obtain ⟨hrun, htext⟩ := List.forall_mem_append.mp himp
    exact .wildcard (fun c hc => hrun c hc (inside c hc)) (ih htext)

/-- A pattern matches its own plain text. -/
theorem plain (hstar : allowed '*') (pieces : List Piece) :
    Fits allowed pieces (pieces.map Piece.char) := by
  induction pieces with
  | nil => exact .nil
  | cons piece pieces ih =>
    cases piece with
    | literal c => exact .literal c ih
    | wildcard => exact @wildcard _ ['*'] _ _ (by simpa using hstar) ih

/-- Slashes come from literals. -/
theorem slash_notMem (h : Fits (· ≠ '/') pieces text) (hpieces : .literal '/' ∉ pieces) :
    '/' ∉ text := by
  induction h with
  | nil => exact List.not_mem_nil
  | literal c others ih =>
    obtain ⟨hc, hothers⟩ := not_or.mp (mt List.mem_cons.mpr hpieces)
    refine mt List.mem_cons.mp (not_or.mpr ⟨fun hslash => hc ?_, ih hothers⟩)
    rw [hslash]
  | wildcard inside others ih =>
    have hothers := (not_or.mp (mt List.mem_cons.mpr hpieces)).2
    exact mt List.mem_append.mp (not_or.mpr ⟨fun hslash => inside '/' hslash rfl, ih hothers⟩)

end Fits

/-! ### Up to the last slash -/

/-- The list is nothing, or it ends in a slash. -/
def Slashed {α : Type} (slash : α) (front : List α) : Prop :=
  front = [] ∨ front.getLast? = some slash

section Slashed

variable {α : Type} {slash : α} {front back : List α}

/-- Where a list is cut behind its last slash is settled. -/
theorem Slashed.append_inj {other others : List α} (hfront : Slashed slash front)
    (hother : Slashed slash other) (hback : slash ∉ back) (hothers : slash ∉ others)
    (h : front ++ back = other ++ others) : front = other ∧ back = others := by
  have hnil {before part behind : List α} (hslashed : Slashed slash (before ++ part))
      (hbehind : slash ∉ part ++ behind) : part = [] := by
    by_contra hne
    rcases hslashed with hempty | hlast
    · exact hne (List.append_eq_nil_iff.mp hempty).2
    · rw [List.getLast?_append_of_ne_nil before hne] at hlast
      exact hbehind (List.mem_append_left _ (List.mem_of_getLast? hlast))
  rcases List.append_eq_append_iff.mp h with ⟨part, rfl, rfl⟩ | ⟨part, rfl, rfl⟩
  · obtain rfl := hnil hother hback
    simp
  · obtain rfl := hnil hfront hothers
    simp

theorem exists_slashed (slash : α) (whole : List α) :
    ∃ front back, whole = front ++ back ∧ Slashed slash front ∧ slash ∉ back := by
  induction whole using List.reverseRecOn with
  | nil => exact ⟨[], [], rfl, .inl rfl, List.not_mem_nil⟩
  | append_singleton whole last ih =>
    by_cases hlast : last = slash
    · exact ⟨whole ++ [last], [], by simp, .inr (by simp [hlast]), List.not_mem_nil⟩
    · obtain ⟨front, back, rfl, hfront, hback⟩ := ih
      refine ⟨front, back ++ [last], List.append_assoc _ _ _, hfront, ?_⟩
      simpa [hback] using Ne.symm hlast

end Slashed

/-- What fits pieces that end in a slash ends in one itself. -/
theorem Slashed.fits {front : List Piece} {text : List Char}
    (h : Slashed (Piece.literal '/') front) (hfits : Fits (· ≠ '/') front text) :
    Slashed '/' text := by
  rcases h with rfl | hlast
  · cases hfits
    exact .inl rfl
  · obtain ⟨before, rfl⟩ := List.getLast?_eq_some_iff.mp hlast
    obtain ⟨first, second, rfl, -, hsecond⟩ := hfits.split
    cases hsecond with
    | literal c others =>
      cases others
      exact .inr (by simp)

theorem Slashed.plain {front : List Piece} (h : Slashed (Piece.literal '/') front) :
    Slashed '/' (front.map Piece.char) :=
  h.fits (.plain (by decide) front)

/-- Behind the directory in front of it, a name matches the whole pattern just when it matches the
last component: the wildcards of the directory can only stand for themselves. -/
theorem matchesText_append_iff {front last : List Piece} {name : List Char}
    (hfront : Slashed (.literal '/') front) (hlast : .literal '/' ∉ last) (hname : '/' ∉ name) :
    matchesText (front ++ last) (front.map Piece.char ++ name) = true ↔
      Fits (fun _ => True) last name := by
  rw [matchesText_iff]
  constructor
  · intro h
    obtain ⟨first, second, hwhole, hfirst, hsecond⟩ := h.split
    obtain ⟨-, rfl⟩ := hfront.plain.append_inj (hfront.fits hfirst) hname
      (hsecond.slash_notMem hlast) hwhole
    exact hsecond.imp fun _ _ _ => trivial
  · intro h
    refine Fits.append (.plain (by decide) front) (h.imp fun c hc _ hslash => hname ?_)
    rwa [← hslash]

end LineShell.Pattern
