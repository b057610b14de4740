import LineShell.Quote
import LineShell.Text.Blank

/-!
# Places in a quoted text

What the account of open quotes says about the places of a text: where a character stands inside
quotes, where it stands in the open, and when a text is complete by itself. The passes over a line
differ in what they do at a place, and agree on these.
-/

namespace LineShell

open Text

namespace QuoteStack

theorem exposes_iff {quotes : QuoteStack} {c : Char} :
    quotes.exposes c = true ↔ quotes = [] ∧ Quote.ofChar? c = none := by
  simp [exposes]

theorem feed_of_not_quote {c : Char} (h : Quote.ofChar? c = none) (quotes : QuoteStack) :
    quotes.feed c = quotes := by
  simp [feed, h]

theorem feed_of_exposes {quotes : QuoteStack} {c : Char} (h : quotes.exposes c = true) :
    quotes.feed c = quotes :=
  feed_of_not_quote (exposes_iff.mp h).2 quotes

theorem checkClosed_eq_ok_iff {quotes : QuoteStack} :
    quotes.checkClosed = .ok () ↔ quotes = [] := by
  cases quotes with
  | nil => simp [checkClosed]
  | cons q outer =>
    simp only [checkClosed, List.isEmpty_cons, reduceCtorEq, iff_false]
    split <;> simp

/-- At some place of the text, a character and the quotes open there are as asked. -/
def Meets (quotes : QuoteStack) (holds : QuoteStack → Char → Prop) (text : List Char) : Prop :=
  ∃ before c rest, text = before ++ c :: rest ∧ holds (quotes.after before) c

section Meets

variable {quotes : QuoteStack} {holds : QuoteStack → Char → Prop}

@[simp] theorem not_meets_nil : ¬ quotes.Meets holds [] := by
  rintro ⟨before, c, rest, h, -⟩
  simp at h

@[simp] theorem meets_cons {c : Char} {text : List Char} :
    quotes.Meets holds (c :: text) ↔ holds quotes c ∨ (quotes.feed c).Meets holds text := by
  constructor
  · rintro ⟨before, d, rest, h, hd⟩
    cases before with
    | nil =>
      obtain ⟨rfl, -⟩ := List.cons.inj h
      exact .inl hd
    | cons e before =>
      obtain ⟨rfl, rfl⟩ := List.cons.inj h
      exact .inr ⟨before, d, rest, rfl, hd⟩
  · rintro (hc | ⟨before, d, rest, rfl, hd⟩)
    · exact ⟨[], c, text, rfl, hc⟩
    · exact ⟨c :: before, d, rest, rfl, hd⟩

@[simp] theorem meets_append {text more : List Char} :
    quotes.Meets holds (text ++ more) ↔
      quotes.Meets holds text ∨ (quotes.after text).Meets holds more := by
  induction text generalizing quotes with
  | nil => simp
  | cons c text ih => simp [ih, or_assoc]

theorem Meets.imp {other : QuoteStack → Char → Prop} {text : List Char}
    (h : quotes.Meets holds text) (himp : ∀ stack c, holds stack c → other stack c) :
    quotes.Meets other text := by
  obtain ⟨before, c, rest, rfl, hc⟩ := h
  exact ⟨before, c, rest, rfl, himp _ _ hc⟩

def decideMeets [∀ stack c, Decidable (holds stack c)] :
    (quotes : QuoteStack) → (text : List Char) → Decidable (quotes.Meets holds text)
  | _, [] => isFalse not_meets_nil
  | quotes, c :: text =>
    have := decideMeets (quotes.feed c) text
    decidable_of_iff _ meets_cons.symm

instance [∀ stack c, Decidable (holds stack c)] (text : List Char) :
    Decidable (quotes.Meets holds text) :=
  decideMeets quotes text

end Meets

/-- The character is a back-quote that opens or closes a substitution. -/
abbrev Live (quotes : QuoteStack) (c : Char) : Prop :=
  c = Quote.back.char ∧ quotes.head? ≠ some .single

/-- A line break stands where a quote is open. -/
abbrev BreaksInside (quotes : QuoteStack) (text : List Char) : Prop :=
  quotes.Meets (fun stack c => stack ≠ [] ∧ isLineBreak c = true) text

/-- A character of the class stands outside every quote. -/
abbrev Shows (quotes : QuoteStack) (class? : Char → Bool) (text : List Char) : Prop :=
  quotes.Meets (fun stack c => stack.exposes c = true ∧ class? c = true) text

/-- The text closes every open quote, its own and those before it, on one line. -/
structure Completes (quotes : QuoteStack) (text : List Char) : Prop where
  unbroken : ¬ quotes.BreaksInside text
  closed : quotes.after text = []

theorem completes_nil {quotes : QuoteStack} : quotes.Completes [] ↔ quotes = [] :=
  ⟨fun h => h.closed, fun h => ⟨not_meets_nil, h⟩⟩

theorem completes_cons {quotes : QuoteStack} {c : Char} {text : List Char} :
    quotes.Completes (c :: text) ↔
      ¬ (quotes ≠ [] ∧ isLineBreak c = true) ∧ (quotes.feed c).Completes text := by
  constructor
  · rintro ⟨hunbroken, hclosed⟩
    obtain ⟨hc, htext⟩ := not_or.mp (mt meets_cons.mpr hunbroken)
    exact ⟨hc, htext, hclosed⟩
  · rintro ⟨hc, htext, hclosed⟩
    exact ⟨fun h => (meets_cons.mp h).elim hc htext, hclosed⟩

theorem completes_cons_of_exposes {quotes : QuoteStack} {c : Char} {text : List Char}
    (h : quotes.exposes c = true) : quotes.Completes (c :: text) ↔ quotes.Completes text := by
  rw [completes_cons, feed_of_exposes h]
  exact and_iff_right fun hbreak => hbreak.1 (exposes_iff.mp h).1

theorem completes_append {quotes : QuoteStack} {text more : List Char} :
    quotes.Completes (text ++ more) ↔
      ¬ quotes.BreaksInside text ∧ (quotes.after text).Completes more := by
  constructor
  · rintro ⟨hunbroken, hclosed⟩
    obtain ⟨htext, hmore⟩ := not_or.mp (mt meets_append.mpr hunbroken)
    exact ⟨htext, hmore, by rwa [after_append] at hclosed⟩
  · rintro ⟨htext, hmore, hclosed⟩
    exact ⟨fun h => (meets_append.mp h).elim htext hmore, by rwa [after_append]⟩

/-- What a scan of the text reports about its quotes. -/
def verdict (quotes : QuoteStack) (text : List Char) : Except SyntaxFault Unit :=
  if quotes.BreaksInside text then .error .quotedLineBreak
  else (quotes.after text).checkClosed

theorem verdict_eq_ok_iff {quotes : QuoteStack} {text : List Char} :
    quotes.verdict text = .ok () ↔ quotes.Completes text := by
  rw [verdict]
  split
  · next hbreak => exact ⟨nofun, fun h => absurd hbreak h.unbroken⟩
  · next hunbroken =>
    rw [checkClosed_eq_ok_iff]
    exact ⟨fun h => ⟨hunbroken, h⟩, fun h => h.closed⟩

end QuoteStack

end LineShell
