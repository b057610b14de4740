import LineShell.Proofs.LineBreaks

/-!
# Lines that substitute nothing

A back-quote means nothing where the innermost open quote is a single one, and opens or closes a
substitution everywhere else. A line without such a back-quote has tokens without any, for each of
them stands in the line where no other quote is open. So its evaluation hands nothing over: it has
an answer, and the same one whatever substitutions would do. Written in back-quotes, the line is
copied as it is: what it opens lies above the back-quote, which nothing in it can close.
-/

namespace LineShell

open Text QuoteStack

namespace QuoteStack

/-- A back-quote stands outside single quotes. -/
abbrev Substitutes (quotes : QuoteStack) (text : List Char) : Prop :=
  quotes.Meets Live text

end QuoteStack

/-! ### Where tokens stand -/

/-- The part stands in the text, from a place on where no quote is open. -/
def StandsIn (part text : List Char) : Prop :=
  ∃ before rest, text = before ++ (part ++ rest) ∧ after [] before = []

namespace StandsIn

variable {part middle text : List Char}

theorem trans (h : StandsIn part middle) (hmiddle : StandsIn middle text) : StandsIn part text := by
  obtain ⟨before, rest, rfl, hopen⟩ := h
  obtain ⟨first, last, rfl, hfirst⟩ := hmiddle
  exact ⟨first ++ before, rest ++ last, by simp, by rw [after_append, hfirst, hopen]⟩

theorem of_append (rest : List Char) : StandsIn part (part ++ rest) := ⟨[], rest, rfl, rfl⟩

theorem append_left {before : List Char} (hbefore : after [] before = [])
    (h : StandsIn part text) : StandsIn part (before ++ text) :=
  h.trans ⟨before, [], by simp, hbefore⟩

theorem meets {holds : QuoteStack → Char → Prop} (h : StandsIn part text)
    (hmeets : Meets [] holds part) : Meets [] holds text := by
  obtain ⟨before, rest, rfl, hopen⟩ := h
  rw [meets_append, hopen, meets_append]
  exact .inr (.inl hmeets)

end StandsIn

theorem Tokens.standsIn {text : List Char} {tokens : List String} (h : Tokens text tokens)
    {token : String} (htoken : token ∈ tokens) : StandsIn token.toList text := by
  have hcons {word : String} {rest : List Char} {tokens : List String}
      (hword : after [] word.toList = []) (ih : token ∈ tokens → StandsIn token.toList rest)
      (htoken : token ∈ word :: tokens) : StandsIn token.toList (word.toList ++ rest) := by
    rcases List.mem_cons.mp htoken with rfl | htoken
    · exact .of_append rest
    · exact (ih htoken).append_left hword
  induction h with
  | nil => cases htoken
  | @blank c rest tokens h others ih =>
    have hc := feed_of_not_quote (not_quote_of_endsWord (endsWord_of_isBlank h)) []
    exact @StandsIn.append_left _ rest [c] hc (ih htoken)
  | input others ih => exact @hcons "<" _ _ rfl ih htoken
  | append others ih => exact @hcons ">>" _ _ rfl ih htoken
  | truncate h others ih => exact @hcons ">" _ _ rfl ih htoken
  | @word word rest tokens h ends others ih =>
    have hword := @hcons (String.ofList word) rest tokens
    rw [String.toList_ofList] at hword
    exact hword h.after_eq ih htoken

theorem Cut.standsIn {separates : Char → Bool} {text piece : List Char}
    {pieces : List (List Char)} (h : Cut separates text pieces) (hpiece : piece ∈ pieces) :
    StandsIn piece text := by
  induction h with
  | @last text hidden =>
    obtain rfl := List.mem_singleton.mp hpiece
    exact ⟨[], [], by simp, rfl⟩
  | @next text rest c pieces hidden exposed separator others ih =>
    rcases List.mem_cons.mp hpiece with rfl | hpiece
    · exact .of_append _
    · have hbefore : after [] (text ++ [c]) = [] := by
        rw [after_append, after_cons, feed_of_exposes exposed]
        exact (exposes_iff.mp exposed).1
      rw [List.append_cons]
      exact (ih hpiece).append_left hbefore

theorem standsIn_of_mem_layout {text stretch : List Char} {part : List (List Char)}
    (hpart : part ∈ layout [] text) (hstretch : stretch ∈ part) : StandsIn stretch text := by
  rw [layout_nil_eq] at hpart
  obtain ⟨whole, hwhole, rfl⟩ := List.mem_map.mp hpart
  exact ((cut_cutUnquoted _ _).standsIn hstretch).trans ((cut_cutUnquoted _ _).standsIn hwhole)

namespace Command

theorem tokens_ofCalls (calls : List Call) :
    (ofCalls calls).tokens = calls.flatMap Call.tokens := by
  fun_cases ofCalls calls with
  | case1 single => simp [tokens]
  | case2 => rfl

theorem tokens_ofParts (parts : List Command) : (ofParts parts).tokens = tokensEach parts := by
  fun_cases ofParts parts with
  | case1 single => simp [tokensEach]
  | case2 => rfl

theorem mem_tokens_ofLayout {parts : List (List (List Char))} {token : String} :
    token ∈ (ofLayout parts).tokens ↔
      ∃ part ∈ parts, ∃ stretch ∈ part, token ∈ (Call.ofStretch stretch).tokens := by
  rw [ofLayout, tokens_ofParts, mem_tokensEach]
  simp [tokens_ofCalls]

theorem parse_eq_ok_iff {line : String} {command : Command} :
    Command.parse line = .ok command ↔
      Completes [] line.toList ∧ ¬ HasBlankStretch (layout [] line.toList) ∧
        command = .ofLayout (layout [] line.toList) := by
  rw [parse_oneScan]
  constructor
  · intro h
    unfold oneScan at h
    split_ifs at h with hbreak hback hclosed hblank
    exact ⟨⟨hbreak, not_not.mp hclosed⟩, hblank, (Except.ok.inj h).symm⟩
  · rintro ⟨hline, hblank, rfl⟩
    rw [oneScan_of_completes hline, if_neg hblank]

theorem standsIn_of_parse {line : String} {command : Command} {token : String}
    (h : Command.parse line = .ok command) (htoken : token ∈ command.tokens) :
    StandsIn token.toList line.toList := by
  obtain ⟨hline, -, rfl⟩ := parse_eq_ok_iff.mp h
  obtain ⟨part, hpart, stretch, hstretch, hmem⟩ := mem_tokens_ofLayout.mp htoken
  have htokens := tokens_ofStretch (completes_of_mem_layout hline hpart hstretch)
  exact (htokens.standsIn hmem).trans (standsIn_of_mem_layout hpart hstretch)

end Command

/-! ### Nothing is handed over -/

section Evaluation

variable {substitute other : Substituter} {registry : Registry}

namespace Argument

theorem not_handsOver {text : List Char} (h : ¬ Substitutes [] text) {shell now : Shell}
    {line : String} : ¬ Scan.start.HandsOver substitute text shell line now := by
  rintro @⟨before, rest, reached, mid, rfl, hscanned, hcloses⟩
  have hquotes : reached.quotes = after [] before := (Scan.feedText_ok hscanned).1
  refine h ⟨before, Quote.back.char, rest, rfl, rfl, ?_⟩
  rw [← hquotes, hcloses]
  simp

end Argument

/-- The line hands nothing over when it is evaluated. -/
theorem Command.not_hands_of_parse {context : Context} {line next : String} {command : Command}
    {run : Run} {now : Shell} (h : ¬ Substitutes [] line.toList)
    (hparse : Command.parse line = .ok command) : ¬ command.Hands context run next now := by
  rintro ⟨hscans, hhands⟩
  exact Argument.not_handsOver
    (fun hmeets => h ((standsIn_of_parse hparse hscans.mem).meets hmeets)) hhands

theorem evaluateLine_of_not_substitutes {line : String} (h : ¬ Substitutes [] line.toList) :
    evaluateLine ⟨registry, substitute⟩ line = evaluateLine ⟨registry, other⟩ line := by
  unfold evaluateLine
  cases hparse : Command.parse line with
  | error fault => rfl
  | ok command =>
    funext run
    exact Command.evaluate_congr_of_hands fun next now hhands =>
      absurd hhands (Command.not_hands_of_parse h hparse)

theorem answers_evaluateLine {line : String} (h : ¬ Substitutes [] line.toList) :
    (evaluateLine ⟨registry, substitute⟩ line).Answers := by
  let always : Substituter := fun _ => pure []
  have halways := @evaluateLine_of_not_substitutes substitute always registry line h
  rw [halways]
  unfold evaluateLine
  cases Command.parse line with
  | error fault => exact fun _ => Option.some_ne_none _
  | ok command =>
    exact Command.answers_evaluate (fun _ _ => Option.some_ne_none _) command

theorem capturedLine_of_not_substitutes {line : String} (h : ¬ Substitutes [] line.toList) :
    capturedLine ⟨registry, substitute⟩ line = capturedLine ⟨registry, other⟩ line := by
  funext shell
  rw [capturedLine_apply, capturedLine_apply, evaluateLine_of_not_substitutes h]

theorem answers_capturedLine {line : String} (h : ¬ Substitutes [] line.toList) :
    (capturedLine ⟨registry, substitute⟩ line).Answers := by
  intro shell hnone
  have hanswers := @answers_evaluateLine substitute registry line h
  obtain ⟨ended, last, hends⟩ := hanswers.exists_ends shell.capturing
  have hcaptured := ends_capturedLine.mpr ⟨ended, last, hends, rfl, rfl⟩
  cases ended <;> simp [Eval.Ends, Eval.collect, Except.map, hnone] at hcaptured

end Evaluation

/-! ### Above an open back-quote -/

namespace QuoteStack

variable {own outer : QuoteStack} {text : List Char}

theorem feed_above_back {c : Char} (h : ¬ own.Live c) :
    feed (own ++ .back :: outer) c = feed own c ++ .back :: outer := by
  cases hquote : Quote.ofChar? c with
  | none => rw [feed_of_not_quote hquote, feed_of_not_quote hquote]
  | some q =>
    obtain rfl := Quote.ofChar?_eq_some_iff.mp hquote
    cases own with
    | nil =>
      cases q with
      | single => rfl
      | double => rfl
      | back => exact absurd ⟨rfl, by simp⟩ h
    | cons innermost own => cases innermost <;> cases q <;> rfl

theorem after_above_back (h : ¬ own.Substitutes text) :
    after (own ++ .back :: outer) text = after own text ++ .back :: outer := by
  induction text generalizing own with
  | nil => rfl
  | cons c text ih =>
    obtain ⟨hc, htext⟩ := not_or.mp (mt meets_cons.mpr h)
    rw [after_cons, feed_above_back hc, ih htext, after_cons]

theorem not_shows_above_back (h : ¬ own.Substitutes text) (class? : Char → Bool) :
    ¬ Shows (own ++ .back :: outer) class? text := by
  rintro ⟨before, c, rest, rfl, hexposed, -⟩
  have hbefore : ¬ own.Substitutes before := fun hmeets => h (meets_append.mpr (.inl hmeets))
  have hopen := (exposes_iff.mp hexposed).1
  rw [after_above_back hbefore] at hopen
  exact List.append_ne_nil_of_right_ne_nil _ (List.cons_ne_nil _ _) hopen

end QuoteStack

namespace Argument

variable {substitute : Substituter} {own outer : QuoteStack} {text : List Char}

namespace Scan

def withQuotes (scan : Scan) (quotes : QuoteStack) : Scan := { scan with quotes }

@[simp] theorem withQuotes_quotes (scan : Scan) (quotes : QuoteStack) :
    (scan.withQuotes quotes).quotes = quotes := rfl

theorem withQuotes_self (scan : Scan) : scan.withQuotes scan.quotes = scan := rfl

theorem write_withQuotes (scan : Scan) (quotes : QuoteStack) (text : List Char) :
    (scan.withQuotes quotes).write text = (scan.write text).withQuotes quotes := by
  obtain ⟨other, current, segments, bodies⟩ := scan
  cases bodies <;> rfl

theorem feed_above_back {scan : Scan} {c : Char} (hquotes : scan.quotes = own ++ .back :: outer)
    (hbodies : scan.bodies ≠ []) (h : ¬ own.Live c) :
    scan.feed substitute c = pure ((scan.write [c]).withQuotes (own.feed c ++ .back :: outer)) := by
  obtain ⟨quotes, current, segments, bodies⟩ := scan
  obtain ⟨body, bodies, rfl⟩ := List.exists_cons_of_ne_nil hbodies
  obtain rfl : quotes = own ++ .back :: outer := hquotes
  rw [← push_eq_write]
  cases hquote : Quote.ofChar? c with
  | none =>
    rw [feed_of_not_quote hquote]
    cases own <;> simp [feed, hquote, push, withQuotes]
  | some q =>
    obtain rfl := Quote.ofChar?_eq_some_iff.mp hquote
    cases own with
    | nil =>
      cases q with
      | single => rfl
      | double => rfl
      | back => exact absurd ⟨rfl, by simp⟩ h
    | cons innermost own =>
      cases innermost <;> cases q <;> first | rfl | exact absurd ⟨rfl, by simp⟩ h

/-- A text that substitutes nothing is copied above an open back-quote. -/
theorem feedText_above_back {scan : Scan} (hquotes : scan.quotes = own ++ .back :: outer)
    (hbodies : scan.bodies ≠ []) (h : ¬ own.Substitutes text) :
    scan.feedText substitute text =
      pure ((scan.write text).withQuotes (own.after text ++ .back :: outer)) := by
  induction text generalizing own scan with
  | nil => rw [feedText_nil, write_nil, after_nil, ← hquotes, withQuotes_self]
  | cons c text ih =>
    obtain ⟨hc, htext⟩ := not_or.mp (mt meets_cons.mpr h)
    rw [feedText_cons, feed_above_back hquotes hbodies hc, pure_bind,
      ih (withQuotes_quotes _ _) (mt write_bodies_eq_nil.mp hbodies) htext, write_withQuotes,
      write_write]
    rfl

end Scan

theorem Writes.copied (hclosed : after [] text = []) (h : ¬ Substitutes [] text) :
    Writes substitute .back text (pure text) := by
  intro scan outer hquotes hbodies
  have hcopied := @Scan.feedText_above_back substitute [] outer text scan hquotes (hbodies rfl) h
  rw [hcopied, pure_bind, hclosed, List.nil_append, ← hquotes, ← Scan.write_quotes scan text,
    Scan.withQuotes_self]

end Argument

end LineShell
