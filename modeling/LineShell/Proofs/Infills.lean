import LineShell.Proofs.Quiet

/-!
# Texts with outputs filled in

An output that holds no quote and no line break changes no open quotes, and between double quotes it
is nothing else either that reading a line looks for. So a line into which such outputs have been
filled between double quotes is read as its outline is, the line without them: into the same command
up to what has been filled into the tokens.
-/

namespace LineShell

open Text QuoteStack

/-- Neither a quote nor a line break is in the text. -/
structure Harmless (text : List Char) : Prop where
  quoteless : ∀ c ∈ text, Quote.ofChar? c = none
  oneLine : OneLine text

theorem QuoteStack.after_of_quoteless {text : List Char}
    (h : ∀ c ∈ text, Quote.ofChar? c = none) (quotes : QuoteStack) :
    quotes.after text = quotes := by
  induction text with
  | nil => rfl
  | cons c text ih =>
    obtain ⟨hc, htext⟩ := List.forall_mem_cons.mp h
    rw [after_cons, feed_of_not_quote hc, ih htext]

/-- The second text is the first one with outputs put in at places where the innermost open quote is
a double one. No back-quote of the first one stands outside single quotes. -/
inductive Infills (fits : List Char → Prop) : QuoteStack → List Char → List Char → Prop
  | nil {quotes : QuoteStack} : Infills fits quotes [] []
  | cons {quotes : QuoteStack} {c : Char} {outline text : List Char}
      (inert : ¬ quotes.Live c)
      (others : Infills fits (quotes.feed c) outline text) :
      Infills fits quotes (c :: outline) (c :: text)
  | paste {quotes : QuoteStack} {output outline text : List Char}
      (inside : quotes.head? = some .double) (fitting : fits output) (harmless : Harmless output)
      (others : Infills fits quotes outline text) : Infills fits quotes outline (output ++ text)

namespace Infills

variable {fits : List Char → Prop} {quotes : QuoteStack} {outline text more rest : List Char}

theorem after_eq (h : Infills fits quotes outline text) :
    quotes.after text = quotes.after outline := by
  induction h with
  | nil => rfl
  | cons inert others ih => exact ih
  | paste inside fitting harmless others ih =>
    rw [after_append, after_of_quoteless harmless.quoteless, ih]

/-- The text shows what its outline shows, where harmless texts between double quotes do not show
it. -/
theorem meets_iff {holds : QuoteStack → Char → Prop}
    (hharmless : ∀ stack c, stack.head? = some .double → Quote.ofChar? c = none →
      isLineBreak c = false → ¬ holds stack c)
    (h : Infills fits quotes outline text) :
    quotes.Meets holds text ↔ quotes.Meets holds outline := by
  induction h with
  | nil => exact Iff.rfl
  | cons inert others ih => rw [meets_cons, meets_cons, ih]
  | @paste quotes output outline text inside fitting harmless others ih =>
    rw [meets_append, after_of_quoteless harmless.quoteless, ih, or_iff_right]
    rintro ⟨before, c, rest, rfl, hc⟩
    have hmem : c ∈ before ++ c :: rest := List.mem_append_right _ List.mem_cons_self
    have hbefore : quotes.after before = quotes :=
      after_of_quoteless (fun d hd => harmless.quoteless d (List.mem_append_left _ hd)) quotes
    rw [hbefore] at hc
    exact hharmless _ _ inside (harmless.quoteless c hmem) (harmless.oneLine c hmem) hc

theorem shows_iff (class? : Char → Bool) (h : Infills fits quotes outline text) :
    quotes.Shows class? text ↔ quotes.Shows class? outline := by
  refine h.meets_iff fun stack c hstack _ _ hshown => ?_
  rw [(exposes_iff.mp hshown.1).1] at hstack
  cases hstack

theorem breaksInside_iff (h : Infills fits quotes outline text) :
    quotes.BreaksInside text ↔ quotes.BreaksInside outline :=
  h.meets_iff fun _ _ _ _ hbreak hinside => Bool.eq_false_iff.mp hbreak hinside.2

theorem completes_iff (h : Infills fits quotes outline text) :
    quotes.Completes text ↔ quotes.Completes outline := by
  constructor
  · rintro ⟨hunbroken, hclosed⟩
    exact ⟨mt h.breaksInside_iff.mpr hunbroken, h.after_eq.symm.trans hclosed⟩
  · rintro ⟨hunbroken, hclosed⟩
    exact ⟨mt h.breaksInside_iff.mp hunbroken, h.after_eq.trans hclosed⟩

theorem not_substitutes (h : Infills fits quotes outline text) : ¬ quotes.Substitutes text := by
  have houtline : ¬ quotes.Substitutes outline := by
    induction h with
    | nil => exact not_meets_nil
    | cons inert others ih =>
      rw [Substitutes, meets_cons]
      exact not_or.mpr ⟨inert, ih⟩
    | paste inside fitting harmless others ih => exact ih
  refine mt (h.meets_iff fun stack c _ hquote _ hback => ?_).mp houtline
  rw [hback.1, Quote.ofChar?_char] at hquote
  cases hquote

/-- Without outputs, a text that substitutes nothing is its own outline. -/
theorem refl (h : ¬ quotes.Substitutes text) : Infills fits quotes text text := by
  induction text generalizing quotes with
  | nil => exact .nil
  | cons c text ih =>
    obtain ⟨hc, htext⟩ := not_or.mp (mt meets_cons.mpr h)
    exact .cons hc (ih htext)

/-! ### Parts of the texts -/

theorem append (h : Infills fits quotes outline text)
    (hmore : Infills fits (quotes.after outline) more rest) :
    Infills fits quotes (outline ++ more) (text ++ rest) := by
  induction h with
  | nil => exact hmore
  | cons inert others ih => exact .cons inert (ih hmore)
  | paste inside fitting harmless others ih =>
    rw [List.append_assoc]
    exact .paste inside fitting harmless (ih hmore)

theorem split (h : Infills fits quotes (outline ++ more) text) :
    ∃ first second, text = first ++ second ∧ Infills fits quotes outline first ∧
      Infills fits (quotes.after outline) more second := by
  generalize hwhole : outline ++ more = whole at h
  induction h generalizing outline with
  | nil =>
    obtain ⟨rfl, rfl⟩ := List.append_eq_nil_iff.mp hwhole
    exact ⟨[], [], rfl, .nil, .nil⟩
  | @cons quotes c others text inert hothers ih =>
    cases outline with
    | nil =>
      obtain rfl : more = c :: others := hwhole
      exact ⟨[], c :: text, rfl, .nil, .cons inert hothers⟩
    | cons d outline =>
      obtain ⟨rfl, htail⟩ := List.cons.inj hwhole
      obtain ⟨first, second, rfl, hfirst, hsecond⟩ := ih htail
      exact ⟨d :: first, second, rfl, .cons inert hfirst, hsecond⟩
  | @paste quotes output whole text inside fitting harmless others ih =>
    obtain ⟨first, second, rfl, hfirst, hsecond⟩ := ih hwhole
    exact ⟨output ++ first, second, (List.append_assoc _ _ _).symm,
      .paste inside fitting harmless hfirst, hsecond⟩

/-- Where no quote is open, the texts begin alike. -/
theorem eq_nil (h : Infills fits [] [] text) : text = [] := by
  generalize hopen : ([] : QuoteStack) = quotes at h
  cases h with
  | nil => rfl
  | paste inside fitting harmless others =>
    subst hopen
    cases inside

theorem of_cons {c : Char} (h : Infills fits [] (c :: outline) text) :
    ∃ rest, text = c :: rest ∧ Infills fits (QuoteStack.feed [] c) outline rest := by
  generalize hopen : ([] : QuoteStack) = quotes at h
  cases h with
  | cons inert others => exact ⟨_, rfl, others⟩
  | paste inside fitting harmless others =>
    subst hopen
    cases inside

theorem head?_eq (h : Infills fits [] outline text) : text.head? = outline.head? := by
  cases outline with
  | nil => rw [h.eq_nil]
  | cons c outline =>
    obtain ⟨rest, rfl, -⟩ := h.of_cons
    rfl

theorem isWord (h : Infills fits [] outline text) (hword : IsWord outline) : IsWord text := by
  refine ⟨⟨mt h.breaksInside_iff.mp hword.unbroken, mt (h.shows_iff endsWord).mp hword.hidden,
    h.after_eq.trans hword.after_eq⟩, ?_⟩
  rintro rfl
  obtain ⟨c, outline, rfl⟩ := List.exists_cons_of_ne_nil hword.ne_nil
  obtain ⟨rest, hrest, -⟩ := h.of_cons
  cases hrest

end Infills

/-! ### Reading a line with its outline -/

section Reading

variable {fits : List Char → Prop} {outline text : List Char}

/-- The tokens have been filled in one by one. -/
abbrev FillsTokens (fits : List Char → Prop) : List String → List String → Prop :=
  List.Forall₂ fun token other => Infills fits [] token.toList other.toList

def Call.Fills (fits : List Char → Prop) (call other : Call) : Prop :=
  FillsTokens fits call.tokens other.tokens

/-- The second command is the first one with outputs filled into its tokens. -/
inductive Command.Fills (fits : List Char → Prop) : Command → Command → Prop
  | call {single other : Call} (filled : single.Fills fits other) :
      Fills fits (.call single) (.call other)
  | pipe {calls others : List Call} (filled : List.Forall₂ (Call.Fills fits) calls others) :
      Fills fits (.pipe calls) (.pipe others)
  | sequence {commands others : List Command}
      (filled : List.Forall₂ (Command.Fills fits) commands others) :
      Fills fits (.sequence commands) (.sequence others)

theorem Tokens.infills {tokens : List String} (h : Tokens outline tokens)
    (hfilled : Infills fits [] outline text) :
    ∃ others, Tokens text others ∧ FillsTokens fits tokens others := by
  induction h generalizing text with
  | nil =>
    obtain rfl := hfilled.eq_nil
    exact ⟨[], .nil, .nil⟩
  | @blank c rest tokens hblank others ih =>
    obtain ⟨later, rfl, hlater⟩ := hfilled.of_cons
    rw [feed_of_not_quote (not_quote_of_endsWord (endsWord_of_isBlank hblank))] at hlater
    obtain ⟨others, hothers, hmatch⟩ := ih hlater
    exact ⟨others, .blank hblank hothers, hmatch⟩
  | input others ih =>
    obtain ⟨later, rfl, hlater⟩ := hfilled.of_cons
    obtain ⟨others, hothers, hmatch⟩ := ih hlater
    exact ⟨"<" :: others, .input hothers, .cons (.refl (by decide)) hmatch⟩
  | append others ih =>
    obtain ⟨later, rfl, hlater⟩ := hfilled.of_cons
    obtain ⟨last, rfl, hlast⟩ := hlater.of_cons
    obtain ⟨others, hothers, hmatch⟩ := ih hlast
    exact ⟨">>" :: others, .append hothers, .cons (.refl (by decide)) hmatch⟩
  | truncate hhead others ih =>
    obtain ⟨later, rfl, hlater⟩ := hfilled.of_cons
    obtain ⟨others, hothers, hmatch⟩ := ih hlater
    refine ⟨">" :: others, .truncate ?_ hothers, .cons (.refl (by decide)) hmatch⟩
    rwa [Infills.head?_eq hlater]
  | @word word rest tokens hword ends others ih =>
    obtain ⟨first, later, rfl, hfirst, hlater⟩ := hfilled.split
    rw [hword.after_eq] at hlater
    obtain ⟨others, hothers, hmatch⟩ := ih hlater
    refine ⟨String.ofList first :: others, .word (hfirst.isWord hword) ?_ hothers, .cons ?_ hmatch⟩
    · rwa [hlater.head?_eq]
    · rwa [String.toList_ofList, String.toList_ofList]

/-- Nothing in a text without quotes separates where a quote is open. -/
theorem cutUnquoted_quoteless_append {separates : Char → Bool} {quotes : QuoteStack}
    {output : List Char} (hopen : quotes ≠ []) (hquoteless : ∀ c ∈ output, Quote.ofChar? c = none)
    (text : List Char) :
    cutUnquoted separates quotes (output ++ text) =
      (cutUnquoted separates quotes text).modifyHead (output ++ ·) := by
  induction output with
  | nil => exact (congrFun List.modifyHead_id _).symm
  | cons c output ih =>
    obtain ⟨hc, houtput⟩ := List.forall_mem_cons.mp hquoteless
    have hguard : (quotes.exposes c && separates c) = false := by simp [exposes, hopen]
    rw [List.cons_append, cutUnquoted, hguard, feed_of_not_quote hc, ih houtput,
      List.modifyHead_modifyHead]
    rfl

theorem infills_cutUnquoted (separates : Char → Bool) {quotes : QuoteStack}
    (h : Infills fits quotes outline text) :
    ∃ first others head later, cutUnquoted separates quotes outline = first :: others ∧
      cutUnquoted separates quotes text = head :: later ∧ Infills fits quotes first head ∧
        List.Forall₂ (Infills fits []) others later := by
  induction h with
  | nil => exact ⟨[], [], [], [], rfl, rfl, .nil, .nil⟩
  | @cons quotes c outline text inert others ih =>
    obtain ⟨first, others, head, later, houtline, htext, hfirst, hothers⟩ := ih
    by_cases hseparates : quotes.exposes c = true ∧ separates c = true
    · obtain ⟨hexposed, hc⟩ := hseparates
      have hfeed : quotes.feed c = [] :=
        (feed_of_exposes hexposed).trans (exposes_iff.mp hexposed).1
      rw [hfeed] at hfirst
      refine ⟨[], first :: others, [], head :: later, ?_, ?_, .nil, .cons hfirst hothers⟩
      · rw [cutUnquoted, hexposed, hc, houtline]
        rfl
      · rw [cutUnquoted, hexposed, hc, htext]
        rfl
    · have hguard : (quotes.exposes c && separates c) = false := by simpa using hseparates
      refine ⟨c :: first, others, c :: head, later, ?_, ?_, .cons inert hfirst, hothers⟩
      · rw [cutUnquoted, hguard, houtline]
        rfl
      · rw [cutUnquoted, hguard, htext]
        rfl
  | @paste quotes output outline text inside fitting harmless others ih =>
    obtain ⟨first, others, head, later, houtline, htext, hfirst, hothers⟩ := ih
    refine ⟨first, others, output ++ head, later, houtline, ?_,
      .paste inside fitting harmless hfirst, hothers⟩
    have hopen : quotes ≠ [] := by
      rintro rfl
      cases inside
    rw [cutUnquoted_quoteless_append hopen harmless.quoteless, htext]
    rfl

/-- A text has one list of tokens. -/
theorem Tokens.unique {tokens others : List String} (h : Tokens text tokens)
    (hothers : Tokens text others) : tokens = others :=
  Except.ok.inj (h.tokensFrom_eq.symm.trans hothers.tokensFrom_eq)

theorem Call.fills_ofStretch (h : Infills fits [] outline text) (houtline : Completes [] outline) :
    (Call.ofStretch outline).Fills fits (Call.ofStretch text) := by
  obtain ⟨others, hothers, hmatch⟩ := (tokens_ofStretch houtline).infills h
  rwa [hothers.unique (tokens_ofStretch (h.completes_iff.mpr houtline))] at hmatch

theorem Infills.isBlank_iff (h : Infills fits [] outline text) (houtline : Completes [] outline) :
    (∀ c ∈ text, isBlank c = true) ↔ ∀ c ∈ outline, isBlank c = true := by
  have hmatch := Call.fills_ofStretch h houtline
  rw [← (tokens_ofStretch houtline).eq_nil_iff,
    ← (tokens_ofStretch (h.completes_iff.mpr houtline)).eq_nil_iff, ← List.length_eq_zero_iff,
    ← List.length_eq_zero_iff, hmatch.length_eq]

/-- The stretches of the line are those of its outline, filled in. -/
theorem infills_layout (h : Infills fits [] outline text) :
    List.Forall₂ (List.Forall₂ (Infills fits [])) (layout [] outline) (layout [] text) := by
  have hcut (separates : Char → Bool) {outline text : List Char}
      (h : Infills fits [] outline text) :
      List.Forall₂ (Infills fits []) (cutUnquoted separates [] outline)
        (cutUnquoted separates [] text) := by
    obtain ⟨first, others, head, later, houtline, htext, hfirst, hothers⟩ :=
      infills_cutUnquoted separates h
    rw [houtline, htext]
    exact .cons hfirst hothers
  rw [layout_nil_eq, layout_nil_eq, List.forall₂_map_left_iff, List.forall₂_map_right_iff]
  exact (hcut _ h).imp fun _ _ hpart => hcut _ hpart

namespace Command

theorem fills_ofCalls {calls others : List Call}
    (h : List.Forall₂ (Call.Fills fits) calls others) :
    (ofCalls calls).Fills fits (ofCalls others) := by
  cases h with
  | nil => exact .pipe .nil
  | cons hfirst hothers =>
    cases hothers with
    | nil => exact .call hfirst
    | cons hsecond hothers => exact .pipe (.cons hfirst (.cons hsecond hothers))

theorem fills_ofParts {parts others : List Command}
    (h : List.Forall₂ (Command.Fills fits) parts others) :
    (ofParts parts).Fills fits (ofParts others) := by
  cases h with
  | nil => exact .sequence .nil
  | cons hfirst hothers =>
    cases hothers with
    | nil => exact hfirst
    | cons hsecond hothers => exact .sequence (.cons hfirst (.cons hsecond hothers))

end Command

theorem exists_mem_iff_of_forall₂ {α β : Type} {R : α → β → Prop} {p : α → Prop} {q : β → Prop}
    {as : List α} {bs : List β} (h : List.Forall₂ R as bs) (hiff : ∀ a b, R a b → (p a ↔ q b)) :
    (∃ a ∈ as, p a) ↔ ∃ b ∈ bs, q b := by
  induction h with
  | nil => simp
  | cons hfirst hothers ih =>
    rw [List.exists_mem_cons_iff, List.exists_mem_cons_iff, hiff _ _ hfirst, ih]

/-- The line is read as its outline is. -/
theorem parse_of_infills {line plan : String} (h : Infills fits [] plan.toList line.toList)
    (hplan : Completes [] plan.toList) :
    (Command.parse plan = .error .emptyCommand ∧ Command.parse line = .error .emptyCommand) ∨
      ∃ command other, Command.parse plan = .ok command ∧ Command.parse line = .ok other ∧
        command.Fills fits other := by
  have hstretches := infills_layout h
  have hcompletes : List.Forall₂ (List.Forall₂ fun outline text =>
      Completes [] outline ∧ Infills fits [] outline text) (layout [] plan.toList)
        (layout [] line.toList) := by
    refine ((List.forall₂_and_left _ _).mpr ⟨fun part hpart => hpart, hstretches⟩).imp ?_
    rintro part other ⟨hpart, hmatch⟩
    exact (List.forall₂_and_left _ _).mpr
      ⟨fun stretch hstretch => completes_of_mem_layout hplan hpart hstretch, hmatch⟩
  have hblank : HasBlankStretch (layout [] line.toList) ↔ HasBlankStretch (layout [] plan.toList) :=
    (exists_mem_iff_of_forall₂ hcompletes fun _ _ hpart =>
      exists_mem_iff_of_forall₂ hpart fun _ _ hstretch =>
        (hstretch.2.isBlank_iff hstretch.1).symm).symm
  have hline := h.completes_iff.mpr hplan
  by_cases hempty : HasBlankStretch (layout [] plan.toList)
  · left
    rw [Command.parse_of_completes hplan, Command.parse_of_completes hline, if_pos hempty,
      if_pos (hblank.mpr hempty)]
    exact ⟨rfl, rfl⟩
  · right
    rw [Command.parse_of_completes hplan, Command.parse_of_completes hline, if_neg hempty,
      if_neg (mt hblank.mp hempty)]
    refine ⟨_, _, rfl, rfl, Command.fills_ofParts ?_⟩
    rw [List.forall₂_map_left_iff, List.forall₂_map_right_iff]
    refine hcompletes.imp fun part other hpart => Command.fills_ofCalls ?_
    rw [List.forall₂_map_left_iff, List.forall₂_map_right_iff]
    exact hpart.imp fun outline text hstretch => Call.fills_ofStretch hstretch.2 hstretch.1

end Reading

end LineShell
