import LineShell.Command.Parser
import LineShell.Proofs.Faults
import LineShell.Proofs.Quotes

/-!
# The tokens of a stage

Which tokens a text has is said here without a scan: blanks are passed over, operators stand for
themselves, and a word is a stretch that is complete by itself, has neither blank nor operator in
the open, and reaches as far as it can. The scan of a stage finds exactly these tokens. Its
invariant is that the word in progress has the quotes open that the scan has.
-/

namespace LineShell

open Text QuoteStack

/-- Where it stands outside quotes, the character is no part of a word. -/
def endsWord (c : Char) : Bool := isBlank c || c == '<' || c == '>'

/-- A part of a word, up to some place. -/
structure WordPart (quotes : QuoteStack) (part : List Char) : Prop where
  unbroken : ¬ BreaksInside [] part
  hidden : ¬ Shows [] endsWord part
  after_eq : after [] part = quotes

structure IsWord (word : List Char) : Prop extends WordPart [] word where
  ne_nil : word ≠ []

/-- The text has these tokens. -/
inductive Tokens : List Char → List String → Prop
  | nil : Tokens [] []
  | blank {c : Char} {rest : List Char} {tokens : List String} (h : isBlank c = true)
      (others : Tokens rest tokens) : Tokens (c :: rest) tokens
  | input {rest : List Char} {tokens : List String} (others : Tokens rest tokens) :
      Tokens ('<' :: rest) ("<" :: tokens)
  | append {rest : List Char} {tokens : List String} (others : Tokens rest tokens) :
      Tokens ('>' :: '>' :: rest) (">>" :: tokens)
  | truncate {rest : List Char} {tokens : List String} (h : rest.head? ≠ some '>')
      (others : Tokens rest tokens) : Tokens ('>' :: rest) (">" :: tokens)
  | word {word rest : List Char} {tokens : List String} (h : IsWord word)
      (ends : ∀ c ∈ rest.head?, endsWord c = true) (others : Tokens rest tokens) :
      Tokens (word ++ rest) (String.ofList word :: tokens)

theorem not_quote_of_endsWord {c : Char} (h : endsWord c = true) : Quote.ofChar? c = none := by
  cases hquote : Quote.ofChar? c with
  | none => rfl
  | some q =>
    obtain rfl := Quote.ofChar?_eq_some_iff.mp hquote
    cases q <;> revert h <;> decide

theorem endsWord_of_isBlank {c : Char} (h : isBlank c = true) : endsWord c = true := by
  simp [endsWord, h]

namespace WordPart

theorem nil : WordPart [] [] := ⟨not_meets_nil, not_meets_nil, rfl⟩

theorem push {quotes : QuoteStack} {part : List Char} {c : Char} (h : WordPart quotes part)
    (hbreak : ¬ (quotes ≠ [] ∧ isLineBreak c = true))
    (hend : ¬ (quotes.exposes c = true ∧ endsWord c = true)) :
    WordPart (quotes.feed c) (part ++ [c]) := by
  obtain ⟨hunbroken, hhidden, rfl⟩ := h
  refine ⟨?_, ?_, by simp⟩
  · rw [BreaksInside, meets_append, meets_cons]
    rintro (h | h | h)
    · exact hunbroken h
    · exact hbreak h
    · exact not_meets_nil h
  · rw [Shows, meets_append, meets_cons]
    rintro (h | h | h)
    · exact hhidden h
    · exact hend h
    · exact not_meets_nil h

end WordPart

/-! ### The scan, one character at a time -/

section Step

variable {quotes : QuoteStack} {word : String} {c : Char} {rest : List Char}

theorem tokensFrom_push (hbreak : ¬ (quotes ≠ [] ∧ isLineBreak c = true))
    (hend : ¬ (quotes.exposes c = true ∧ endsWord c = true)) :
    tokensFrom quotes word (c :: rest) = tokensFrom (quotes.feed c) (word.push c) rest := by
  have hguard : (!quotes.isEmpty && isLineBreak c) = false := by
    simpa [List.isEmpty_iff] using hbreak
  rw [tokensFrom.eq_def]
  by_cases hexposed : quotes.exposes c = true
  · have hinside : ¬ endsWord c = true := fun h => hend ⟨hexposed, h⟩
    simp only [endsWord, Bool.or_eq_true, beq_iff_eq, not_or] at hinside
    obtain ⟨⟨hblank, hinput⟩, houtput⟩ := hinside
    simp [hguard, hexposed, hblank, hinput, houtput, feed_of_exposes hexposed]
  · simp [hguard, hexposed]

theorem tokensFrom_blank (h : isBlank c = true) :
    tokensFrom [] word (c :: rest) = (wordToken word ++ ·) <$> tokensFrom [] "" rest := by
  have hquote := not_quote_of_endsWord (endsWord_of_isBlank h)
  rw [tokensFrom.eq_def]
  simp [exposes, hquote, h]

theorem tokensFrom_input :
    tokensFrom [] word ('<' :: rest) =
      (fun tokens => wordToken word ++ "<" :: tokens) <$> tokensFrom [] "" rest := by
  have hblank : isBlank '<' = false := by decide
  rw [tokensFrom.eq_def]
  simp [exposes, Quote.ofChar?, hblank]

theorem tokensFrom_append :
    tokensFrom [] word ('>' :: '>' :: rest) =
      (fun tokens => wordToken word ++ ">>" :: tokens) <$> tokensFrom [] "" rest := by
  have hblank : isBlank '>' = false := by decide
  rw [tokensFrom.eq_def]
  simp [exposes, Quote.ofChar?, hblank]

theorem tokensFrom_truncate (h : rest.head? ≠ some '>') :
    tokensFrom [] word ('>' :: rest) =
      (fun tokens => wordToken word ++ ">" :: tokens) <$> tokensFrom [] "" rest := by
  have hblank : isBlank '>' = false := by decide
  rw [tokensFrom.eq_def]
  cases rest with
  | nil => simp [exposes, Quote.ofChar?, hblank]
  | cons d rest =>
    have hd : d ≠ '>' := by simpa using h
    simp [exposes, Quote.ofChar?, hblank, hd]

/-- A word ends where the scan meets a character that is no part of one. -/
theorem tokensFrom_flush (hrest : ∀ c ∈ rest.head?, endsWord c = true) :
    tokensFrom [] word rest = (wordToken word ++ ·) <$> tokensFrom [] "" rest := by
  have hempty : wordToken "" = [] := rfl
  cases rest with
  | nil => simp [tokensFrom, checkClosed, hempty]
  | cons c rest =>
    have hc : endsWord c = true := hrest c rfl
    simp only [endsWord, Bool.or_eq_true, beq_iff_eq] at hc
    rcases hc with (hblank | rfl) | rfl
    · simp [tokensFrom_blank hblank, hempty]
    · simp [tokensFrom_input, hempty]
    · by_cases hsecond : rest.head? = some '>'
      · obtain ⟨rest, rfl⟩ := List.head?_eq_some_iff.mp hsecond
        simp [tokensFrom_append, hempty]
      · simp [tokensFrom_truncate hsecond, hempty]

end Step

theorem tokensFrom_part {quotes : QuoteStack} {word : String} {part rest : List Char}
    (hunbroken : ¬ quotes.BreaksInside part) (hhidden : ¬ quotes.Shows endsWord part) :
    tokensFrom quotes word (part ++ rest) =
      tokensFrom (quotes.after part) (word ++ String.ofList part) rest := by
  induction part generalizing quotes word with
  | nil => simp
  | cons c part ih =>
    obtain ⟨hbreak, hunbroken⟩ := not_or.mp (mt meets_cons.mpr hunbroken)
    obtain ⟨hend, hhidden⟩ := not_or.mp (mt meets_cons.mpr hhidden)
    have hpush : word.push c ++ String.ofList part = word ++ String.ofList (c :: part) := by
      apply String.toList_injective
      simp
    rw [List.cons_append, tokensFrom_push hbreak hend, ih hunbroken hhidden, hpush, after_cons]

/-! ### The scan finds the tokens -/

theorem Tokens.tokensFrom_eq {text : List Char} {tokens : List String} (h : Tokens text tokens) :
    tokensFrom [] "" text = .ok tokens := by
  have hempty : wordToken "" = [] := rfl
  induction h with
  | nil => rfl
  | blank h others ih => rw [tokensFrom_blank h, ih]; rfl
  | input others ih => rw [tokensFrom_input, ih]; rfl
  | append others ih => rw [tokensFrom_append, ih]; rfl
  | truncate h others ih => rw [tokensFrom_truncate h, ih]; rfl
  | @word word rest tokens h ends others ih =>
    have hword : wordToken (String.ofList word) = [String.ofList word] := by
      simp [wordToken, String.isEmpty_iff, h.ne_nil]
    rw [tokensFrom_part h.unbroken h.hidden, h.after_eq, String.empty_append,
      tokensFrom_flush ends, ih, hword]
    rfl

theorem WordPart.tokens {word : String} {rest : List Char} {tokens : List String}
    (h : WordPart [] word.toList) (ends : ∀ c ∈ rest.head?, endsWord c = true)
    (others : Tokens rest tokens) : Tokens (word.toList ++ rest) (wordToken word ++ tokens) := by
  by_cases hempty : word = ""
  · subst hempty
    exact others
  · have hword : wordToken word = [String.ofList word.toList] := by
      simp [wordToken, String.isEmpty_iff, hempty]
    rw [hword]
    exact .word ⟨h, mt String.toList_eq_nil_iff.mp hempty⟩ ends others

/-- The word in progress goes on in the text that is still to be scanned. -/
theorem tokens_of_tokensFrom {quotes : QuoteStack} {word : String} {text : List Char}
    {tokens : List String} (hword : WordPart quotes word.toList)
    (h : tokensFrom quotes word text = .ok tokens) :
    quotes.Completes text ∧ Tokens (word.toList ++ text) tokens := by
  have hfresh : WordPart [] "".toList := WordPart.nil
  fun_induction tokensFrom quotes word text generalizing tokens with
  | case1 quotes word =>
    obtain ⟨⟨⟩, hclosed, h⟩ := bind_eq_ok.mp h
    obtain rfl := Except.ok.inj h
    obtain rfl := checkClosed_eq_ok_iff.mp hclosed
    exact ⟨completes_nil.mpr rfl, by simpa using hword.tokens (by simp) .nil⟩
  | case2 quotes word c rest hbreak => cases h
  | case3 quotes word c rest hbreak hinside ih =>
    have hguard : ¬ (quotes ≠ [] ∧ isLineBreak c = true) := by
      simpa [List.isEmpty_iff] using hbreak
    have hend : ¬ (quotes.exposes c = true ∧ endsWord c = true) := by simp_all
    obtain ⟨hrest, htokens⟩ := ih (by simpa using hword.push hguard hend) h
    exact ⟨completes_cons.mpr ⟨hguard, hrest⟩, by simpa using htokens⟩
  | case4 quotes word c rest hbreak hexposed hblank ih =>
    have hexposed : quotes.exposes c = true := by simpa using hexposed
    obtain rfl := (exposes_iff.mp hexposed).1
    obtain ⟨others, hothers, h⟩ := bind_eq_ok.mp h
    obtain rfl := Except.ok.inj h
    obtain ⟨hrest, htokens⟩ := ih hfresh hothers
    exact ⟨(completes_cons_of_exposes hexposed).mpr hrest,
      hword.tokens (by simp [endsWord, hblank]) (.blank hblank htokens)⟩
  | case5 quotes word rest hbreak hexposed hblank ih =>
    have hexposed : quotes.exposes '<' = true := by simpa using hexposed
    obtain rfl := (exposes_iff.mp hexposed).1
    obtain ⟨others, hothers, h⟩ := bind_eq_ok.mp h
    obtain rfl := Except.ok.inj h
    obtain ⟨hrest, htokens⟩ := ih hfresh hothers
    exact ⟨(completes_cons_of_exposes hexposed).mpr hrest,
      hword.tokens (by simp [endsWord]) (.input htokens)⟩
  | case6 quotes word rest hbreak hexposed hblank hinput ih =>
    have hexposed : quotes.exposes '>' = true := by simpa using hexposed
    obtain rfl := (exposes_iff.mp hexposed).1
    obtain ⟨others, hothers, h⟩ := bind_eq_ok.mp h
    obtain rfl := Except.ok.inj h
    obtain ⟨hrest, htokens⟩ := ih hfresh hothers
    have hsecond := (completes_cons_of_exposes hexposed).mpr hrest
    exact ⟨(completes_cons_of_exposes hexposed).mpr hsecond,
      hword.tokens (by simp [endsWord]) (.append htokens)⟩
  | case7 quotes word rest hfirst hbreak hexposed hblank hinput ih =>
    have hexposed : quotes.exposes '>' = true := by simpa using hexposed
    obtain rfl := (exposes_iff.mp hexposed).1
    obtain ⟨others, hothers, h⟩ := bind_eq_ok.mp h
    obtain rfl := Except.ok.inj h
    obtain ⟨hrest, htokens⟩ := ih hfresh hothers
    have hhead : rest.head? ≠ some '>' := by
      intro h
      obtain ⟨later, rfl⟩ := List.head?_eq_some_iff.mp h
      exact hfirst later rfl
    exact ⟨(completes_cons_of_exposes hexposed).mpr hrest,
      hword.tokens (by simp [endsWord]) (.truncate hhead htokens)⟩
  | case8 quotes word c rest hbreak hexposed hblank hinput houtput ih =>
    have hguard : ¬ (quotes ≠ [] ∧ isLineBreak c = true) := by
      simpa [List.isEmpty_iff] using hbreak
    have hexposed : quotes.exposes c = true := by simpa using hexposed
    have hend : ¬ (quotes.exposes c = true ∧ endsWord c = true) := by
      simp [endsWord, hblank, hinput, houtput]
    have hpart := hword.push hguard hend
    rw [feed_of_exposes hexposed] at hpart
    obtain ⟨hrest, htokens⟩ := ih (by simpa using hpart) h
    exact ⟨(completes_cons_of_exposes hexposed).mpr hrest, by simpa using htokens⟩

theorem tokenize_eq_ok_iff {stage : String} {tokens : List String} :
    tokenize stage = .ok tokens ↔ Tokens stage.toList tokens := by
  constructor
  · intro h
    exact (@tokens_of_tokensFrom [] "" _ _ WordPart.nil h).2
  · exact Tokens.tokensFrom_eq

/-- A stage without a fault in its quotes has tokens. -/
theorem exists_tokensFrom {quotes : QuoteStack} {word : String} {text : List Char}
    (h : quotes.Completes text) : ∃ tokens, tokensFrom quotes word text = .ok tokens := by
  fun_induction tokensFrom quotes word text with
  | case1 quotes word =>
    obtain rfl := completes_nil.mp h
    exact ⟨wordToken word, rfl⟩
  | case2 quotes word c rest hbreak =>
    have hinside : quotes ≠ [] ∧ isLineBreak c = true := by
      simpa [List.isEmpty_iff] using hbreak
    exact absurd hinside (completes_cons.mp h).1
  | case3 quotes word c rest hbreak hinside ih => exact ih (completes_cons.mp h).2
  | case4 quotes word c rest hbreak hexposed hblank ih =>
    have hexposed : quotes.exposes c = true := by simpa using hexposed
    obtain ⟨others, hothers⟩ := ih ((completes_cons_of_exposes hexposed).mp h)
    exact ⟨_, bind_eq_ok.mpr ⟨others, hothers, rfl⟩⟩
  | case5 quotes word rest hbreak hexposed hblank ih =>
    have hexposed : quotes.exposes '<' = true := by simpa using hexposed
    obtain ⟨others, hothers⟩ := ih ((completes_cons_of_exposes hexposed).mp h)
    exact ⟨_, bind_eq_ok.mpr ⟨others, hothers, rfl⟩⟩
  | case6 quotes word rest hbreak hexposed hblank hinput ih =>
    have hexposed : quotes.exposes '>' = true := by simpa using hexposed
    have hsecond := (completes_cons_of_exposes hexposed).mp h
    obtain ⟨others, hothers⟩ := ih ((completes_cons_of_exposes hexposed).mp hsecond)
    exact ⟨_, bind_eq_ok.mpr ⟨others, hothers, rfl⟩⟩
  | case7 quotes word rest hfirst hbreak hexposed hblank hinput ih =>
    have hexposed : quotes.exposes '>' = true := by simpa using hexposed
    obtain ⟨others, hothers⟩ := ih ((completes_cons_of_exposes hexposed).mp h)
    exact ⟨_, bind_eq_ok.mpr ⟨others, hothers, rfl⟩⟩
  | case8 quotes word c rest hbreak hexposed hblank hinput houtput ih =>
    have hexposed : quotes.exposes c = true := by simpa using hexposed
    exact ih ((completes_cons_of_exposes hexposed).mp h)

namespace Tokens

theorem eq_nil_iff {text : List Char} {tokens : List String} (h : Tokens text tokens) :
    tokens = [] ↔ ∀ c ∈ text, isBlank c = true := by
  have hword {word : List Char} (hw : IsWord word) : ¬ ∀ c ∈ word, isBlank c = true := by
    intro hblank
    obtain ⟨c, rest, rfl⟩ := List.exists_cons_of_ne_nil hw.ne_nil
    have hend := endsWord_of_isBlank (hblank c List.mem_cons_self)
    have hexposed := exposes_iff.mpr ⟨rfl, not_quote_of_endsWord hend⟩
    exact hw.hidden (meets_cons.mpr (.inl ⟨hexposed, hend⟩))
  induction h with
  | nil => simp
  | blank h others ih => simp [h, ih]
  | input others ih => simp [show isBlank '<' = false by decide]
  | append others ih => simp [show isBlank '>' = false by decide]
  | truncate h others ih => simp [show isBlank '>' = false by decide]
  | word hw ends others ih =>
    simp only [reduceCtorEq, List.mem_append, false_iff]
    exact fun hblank => hword hw fun c hc => hblank c (.inl hc)

end Tokens

end LineShell
