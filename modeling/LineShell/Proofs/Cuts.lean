import LineShell.Command.Parser
import LineShell.Proofs.Quotes

/-!
# Cutting at unquoted separators

A pass over a text stops at the first fault of its quotes, and a text without one is cut at every
unquoted separator. A separator counts only where no quote is open, so each piece is complete by
itself when the whole text is: a later pass that begins afresh on the piece finds the quotes as the
first pass did, and has no fault of its own to report.
-/

namespace LineShell

open Text QuoteStack

/-- The pieces between the unquoted separators, whatever becomes of the quotes. -/
def cutUnquoted (separates : Char → Bool) : QuoteStack → List Char → List (List Char)
  | _, [] => [[]]
  | quotes, c :: rest =>
    if quotes.exposes c && separates c then [] :: cutUnquoted separates (quotes.feed c) rest
    else (cutUnquoted separates (quotes.feed c) rest).modifyHead (c :: ·)

theorem splitUnquoted_eq (separates : Char → Bool) (quotes : QuoteStack) (text : List Char) :
    splitUnquoted separates quotes text =
      (quotes.verdict text).map fun _ => cutUnquoted separates quotes text := by
  induction text generalizing quotes with
  | nil =>
    simp only [splitUnquoted, verdict, not_meets_nil, if_false, after_nil]
    cases quotes.checkClosed <;> rfl
  | cons c text ih =>
    by_cases hbreak : quotes ≠ [] ∧ isLineBreak c = true
    · have hinside : quotes.BreaksInside (c :: text) := meets_cons.mpr (.inl hbreak)
      simp [splitUnquoted, verdict, hinside, hbreak, Except.map]
    · have hverdict : quotes.verdict (c :: text) = (quotes.feed c).verdict text := by
        simp only [verdict, meets_cons, hbreak, false_or, after_cons]
      have hguard : (!quotes.isEmpty && isLineBreak c) = false := by
        simpa [List.isEmpty_iff] using hbreak
      rw [splitUnquoted, hguard, ih, hverdict, cutUnquoted]
      cases (quotes.feed c).verdict text with
      | error fault => rfl
      | ok =>
        simp only [Except.map, bind, Except.bind, pure, Except.pure, Bool.false_eq_true, if_false]
        split <;> rfl

theorem splitUnquoted_eq_ok_iff {separates : Char → Bool} {quotes : QuoteStack} {text : List Char}
    {pieces : List (List Char)} :
    splitUnquoted separates quotes text = .ok pieces ↔
      quotes.Completes text ∧ cutUnquoted separates quotes text = pieces := by
  rw [splitUnquoted_eq, ← verdict_eq_ok_iff]
  cases quotes.verdict text <;> simp [Except.map]

section Cut

variable {separates : Char → Bool} {quotes : QuoteStack} {text rest : List Char} {c : Char}

theorem cutUnquoted_ne_nil : cutUnquoted separates quotes text ≠ [] := by
  induction text generalizing quotes with
  | nil => simp [cutUnquoted]
  | cons c text ih =>
    rw [cutUnquoted]
    split
    · simp
    · simpa [List.modifyHead_eq_nil_iff] using ih

theorem cutUnquoted_of_not_shows (h : ¬ quotes.Shows separates text) :
    cutUnquoted separates quotes text = [text] := by
  induction text generalizing quotes with
  | nil => rfl
  | cons c text ih =>
    obtain ⟨hc, htext⟩ := not_or.mp (mt meets_cons.mpr h)
    have hguard : (quotes.exposes c && separates c) = false := by
      simpa using hc
    rw [cutUnquoted, hguard, ih htext]
    rfl

theorem cutUnquoted_append_cons (htext : ¬ quotes.Shows separates text)
    (hc : (quotes.after text).exposes c = true) (hsep : separates c = true) :
    cutUnquoted separates quotes (text ++ c :: rest) =
      text :: cutUnquoted separates [] rest := by
  induction text generalizing quotes with
  | nil =>
    have hquotes : quotes = [] := (exposes_iff.mp hc).1
    have hfeed : quotes.feed c = [] := (feed_of_exposes hc).trans hquotes
    rw [after_nil] at hc
    rw [List.nil_append, cutUnquoted, hc, hsep, hfeed]
    rfl
  | cons d text ih =>
    obtain ⟨hd, htext⟩ := not_or.mp (mt meets_cons.mpr htext)
    have hguard : (quotes.exposes d && separates d) = false := by
      simpa using hd
    rw [List.cons_append, cutUnquoted, hguard, ih htext hc]
    rfl

/-- With the separators between them again, the pieces are the text. -/
theorem intercalate_cutUnquoted (sep : Char) (quotes : QuoteStack) (text : List Char) :
    [sep].intercalate (cutUnquoted (· == sep) quotes text) = text := by
  induction text generalizing quotes with
  | nil => rfl
  | cons c text ih =>
    have hne := @cutUnquoted_ne_nil (· == sep) (quotes.feed c) text
    obtain ⟨piece, pieces, hcut⟩ := List.exists_cons_of_ne_nil hne
    have htext := ih (quotes.feed c)
    rw [hcut] at htext
    rw [cutUnquoted, hcut]
    split
    · next h =>
      have hc : c = sep := beq_iff_eq.mp (Bool.and_eq_true_iff.mp h).2
      rw [List.intercalate_cons_cons, htext, hc]
      rfl
    · cases pieces with
      | nil =>
        rw [List.intercalate_singleton] at htext
        rw [List.modifyHead_cons, List.intercalate_singleton, htext]
      | cons second others =>
        rw [List.intercalate_cons_cons] at htext
        rw [List.modifyHead_cons, List.intercalate_cons_cons, List.cons_append, List.cons_append,
          htext]

end Cut

/-- How a text is cut, said of the text from left to right. -/
inductive Cut (separates : Char → Bool) : List Char → List (List Char) → Prop
  | last {text : List Char} (hidden : ¬ Shows [] separates text) : Cut separates text [text]
  | next {text rest : List Char} {c : Char} {pieces : List (List Char)}
      (hidden : ¬ Shows [] separates text) (exposed : (after [] text).exposes c = true)
      (separator : separates c = true) (others : Cut separates rest pieces) :
      Cut separates (text ++ c :: rest) (text :: pieces)

theorem shows_or_first {separates : Char → Bool} {quotes : QuoteStack} {text : List Char} :
    ¬ quotes.Shows separates text ∨
      ∃ before c rest, text = before ++ c :: rest ∧ ¬ quotes.Shows separates before ∧
        (quotes.after before).exposes c = true ∧ separates c = true := by
  induction text generalizing quotes with
  | nil => exact .inl not_meets_nil
  | cons c text ih =>
    by_cases hc : quotes.exposes c = true ∧ separates c = true
    · exact .inr ⟨[], c, text, rfl, not_meets_nil, hc⟩
    · rcases @ih (quotes.feed c) with htext | ⟨before, d, rest, rfl, hbefore, hd⟩
      · exact .inl fun h => (meets_cons.mp h).elim hc htext
      · exact .inr ⟨c :: before, d, rest, rfl, fun h => (meets_cons.mp h).elim hc hbefore, hd⟩

theorem cut_cutUnquoted (separates : Char → Bool) (text : List Char) :
    Cut separates text (cutUnquoted separates [] text) := by
  -- Only what is behind the first separator is cut again, and that is shorter.
  induction hlength : text.length using Nat.strongRecOn generalizing text with
  | ind n ih =>
    rcases @shows_or_first separates [] text with h | ⟨before, c, rest, rfl, hbefore, hc, hsep⟩
    · rw [cutUnquoted_of_not_shows h]
      exact .last h
    · rw [cutUnquoted_append_cons hbefore hc hsep]
      have hshorter : rest.length < n := by
        rw [← hlength, List.length_append, List.length_cons]
        omega
      exact .next hbefore hc hsep (ih _ hshorter rest rfl)

namespace Cut

variable {separates : Char → Bool} {text piece : List Char} {pieces : List (List Char)}

/-- What stands in a piece stands in the text, with the same quotes open. -/
theorem meets_of_mem {holds : QuoteStack → Char → Prop} (h : Cut separates text pieces)
    (hpiece : piece ∈ pieces) (hmeets : Meets [] holds piece) : Meets [] holds text := by
  induction h with
  | last hidden =>
    rw [List.mem_singleton] at hpiece
    rwa [← hpiece]
  | next hidden exposed separator others ih =>
    rw [meets_append, meets_cons, feed_of_exposes exposed, (exposes_iff.mp exposed).1]
    rcases List.mem_cons.mp hpiece with rfl | hpiece
    · exact .inl hmeets
    · exact .inr (.inr (ih hpiece))

theorem hidden_of_mem (h : Cut separates text pieces) (hpiece : piece ∈ pieces) :
    ¬ Shows [] separates piece := by
  induction h with
  | last hidden =>
    rw [List.mem_singleton] at hpiece
    rwa [hpiece]
  | next hidden exposed separator others ih =>
    rcases List.mem_cons.mp hpiece with rfl | hpiece
    · exact hidden
    · exact ih hpiece

theorem completes_of_mem (h : Cut separates text pieces) (htext : Completes [] text)
    (hpiece : piece ∈ pieces) : Completes [] piece := by
  refine ⟨fun hbreak => htext.unbroken (h.meets_of_mem hpiece hbreak), ?_⟩
  replace htext := htext.closed
  induction h with
  | last hidden =>
    rw [List.mem_singleton] at hpiece
    rwa [hpiece]
  | next hidden exposed separator others ih =>
    have hopen := (exposes_iff.mp exposed).1
    rw [after_append, after_cons, feed_of_exposes exposed, hopen] at htext
    rcases List.mem_cons.mp hpiece with rfl | hpiece
    · exact hopen
    · exact ih hpiece htext

end Cut

end LineShell
