import LineShell.Proofs.OneScan

/-!
# Commands in normal form

Which commands come from lines, and which line a command can be written as. Reading a line gives a
command in normal form: every call has tokens, pipes and sequences have at least two members, no
sequence stands directly in another, and the tokens are operators and words. Written with single
spaces, a command in normal form is read back as it was.
-/

namespace LineShell

open Text QuoteStack

/-- Outside quotes, a word holds none of these. -/
def breaksToken (c : Char) : Bool := endsWord c || c == ';' || c == '|'

structure IsWordToken (token : String) : Prop where
  ne_empty : token ≠ ""
  balanced : after [] token.toList = []
  oneLine : ∀ c ∈ token.toList, isLineBreak c = false
  hidden : ¬ Shows [] breaksToken token.toList

def IsToken (token : String) : Prop :=
  token = "<" ∨ token = ">" ∨ token = ">>" ∨ IsWordToken token

theorem IsWordToken.isToken {token : String} (h : IsWordToken token) : IsToken token :=
  .inr (.inr (.inr h))

namespace Call

def IsNormal (call : Call) : Prop :=
  call.tokens ≠ [] ∧ ∀ token ∈ call.tokens, IsToken token

/-- The tokens with single spaces between them. -/
def text (call : Call) : List Char :=
  [' '].intercalate (call.tokens.map String.toList)

end Call

namespace Command

/-- In normal form, and no sequence. -/
def IsPart : Command → Prop
  | .call single => single.IsNormal
  | .pipe calls => 2 ≤ calls.length ∧ ∀ call ∈ calls, call.IsNormal
  | .sequence _ => False

def IsNormal : Command → Prop
  | .sequence parts => 2 ≤ parts.length ∧ ∀ part ∈ parts, part.IsPart
  | command => command.IsPart

mutual

/-- The command written out, with single spaces around bars and semicolons. -/
def text : Command → List Char
  | .call single => single.text
  | .pipe calls => [' ', '|', ' '].intercalate (calls.map Call.text)
  | .sequence commands => [' ', ';', ' '].intercalate (texts commands)

def texts : List Command → List (List Char)
  | [] => []
  | command :: commands => command.text :: texts commands

end

def print (command : Command) : String := String.ofList command.text

theorem texts_eq_map (commands : List Command) : texts commands = commands.map text := by
  induction commands with
  | nil => rfl
  | cons command commands ih => rw [texts, ih, List.map_cons]

end Command

/-! ### What reading a line gives -/

theorem IsWord.oneLine {word : List Char} (h : IsWord word) :
    ∀ c ∈ word, isLineBreak c = false := by
  intro c hc
  refine Bool.eq_false_iff.mpr fun hbreak => ?_
  have hend := endsWord_of_isBlank (isBlank_of_isLineBreak hbreak)
  obtain ⟨before, rest, rfl⟩ := List.append_of_mem hc
  -- A line break is no quote, so it stands in the open wherever no quote is open.
  by_cases hopen : after [] before = []
  · have hexposed := exposes_iff.mpr ⟨hopen, not_quote_of_endsWord hend⟩
    exact h.hidden ⟨before, c, rest, rfl, hexposed, hend⟩
  · exact h.unbroken ⟨before, c, rest, rfl, hopen, hbreak⟩

theorem IsWord.isWordToken {word : List Char} (h : IsWord word)
    (hseparators : ¬ Shows [] (fun c => c == ';' || c == '|') word) :
    IsWordToken (String.ofList word) := by
  refine ⟨?_, ?_, ?_, ?_⟩
  · rw [ne_eq, ← String.toList_eq_nil_iff, String.toList_ofList]
    exact h.ne_nil
  · rw [String.toList_ofList]
    exact h.after_eq
  · rw [String.toList_ofList]
    exact h.oneLine
  · rw [String.toList_ofList]
    rintro ⟨before, c, rest, rfl, hexposed, hc⟩
    simp only [breaksToken, Bool.or_assoc] at hc
    rcases Bool.or_eq_true _ _ ▸ hc with hc | hc
    · exact h.hidden ⟨before, c, rest, rfl, hexposed, hc⟩
    · exact hseparators ⟨before, c, rest, rfl, hexposed, hc⟩

theorem not_shows_of_cons {quotes : QuoteStack} {class? : Char → Bool} {c : Char}
    {text : List Char} (hquote : Quote.ofChar? c = none)
    (h : ¬ quotes.Shows class? (c :: text)) : ¬ quotes.Shows class? text := by
  have htext := (not_or.mp (mt meets_cons.mpr h)).2
  rwa [feed_of_not_quote hquote] at htext

theorem Tokens.isToken {text : List Char} {tokens : List String} (h : Tokens text tokens)
    (hseparators : ¬ Shows [] (fun c => c == ';' || c == '|') text) :
    ∀ token ∈ tokens, IsToken token := by
  induction h with
  | nil => simp
  | blank h others ih =>
    exact ih (not_shows_of_cons (not_quote_of_endsWord (endsWord_of_isBlank h)) hseparators)
  | input others ih =>
    exact List.forall_mem_cons.mpr ⟨.inl rfl, ih (not_shows_of_cons rfl hseparators)⟩
  | append others ih =>
    have hrest := not_shows_of_cons rfl (not_shows_of_cons rfl hseparators)
    exact List.forall_mem_cons.mpr ⟨.inr (.inr (.inl rfl)), ih hrest⟩
  | truncate h others ih =>
    exact List.forall_mem_cons.mpr ⟨.inr (.inl rfl), ih (not_shows_of_cons rfl hseparators)⟩
  | word h ends others ih =>
    rw [Shows, meets_append, h.after_eq, not_or] at hseparators
    exact List.forall_mem_cons.mpr
      ⟨.inr (.inr (.inr (h.isWordToken hseparators.1))), ih hseparators.2⟩

theorem Call.isNormal_ofStretch {stretch : List Char} (hcomplete : Completes [] stretch)
    (hblank : ¬ ∀ c ∈ stretch, isBlank c = true)
    (hseparators : ¬ Shows [] (fun c => c == ';' || c == '|') stretch) :
    (Call.ofStretch stretch).IsNormal := by
  have htokens := tokens_ofStretch hcomplete
  exact ⟨mt htokens.eq_nil_iff.mp hblank, htokens.isToken hseparators⟩

namespace Command

theorem isPart_ofCalls {calls : List Call} (hne : calls ≠ [])
    (h : ∀ call ∈ calls, call.IsNormal) : (ofCalls calls).IsPart := by
  match calls with
  | [single] => exact h single List.mem_cons_self
  | first :: second :: others => exact ⟨by simp, h⟩

theorem IsPart.isNormal {command : Command} (h : command.IsPart) : command.IsNormal := by
  cases command with
  | call single => exact h
  | pipe calls => exact h
  | sequence commands => exact h.elim

theorem isNormal_ofParts {parts : List Command} (hne : parts ≠ [])
    (h : ∀ part ∈ parts, part.IsPart) : (ofParts parts).IsNormal := by
  match parts with
  | [single] => exact (h single List.mem_cons_self).isNormal
  | first :: second :: others => exact ⟨by simp, h⟩

theorem isNormal_of_parse {line : String} {command : Command}
    (h : Command.parse line = .ok command) : command.IsNormal := by
  have hline : Completes [] line.toList := by
    rw [parse_eq] at h
    obtain ⟨parts, hparts, -⟩ := bind_eq_ok.mp h
    exact (splitUnquoted_eq_ok_iff.mp hparts).1
  rw [parse_of_completes hline] at h
  split_ifs at h with hblank
  obtain rfl := Except.ok.inj h
  refine isNormal_ofParts (mt List.map_eq_nil_iff.mp (layout_ne_nil line.toList)) ?_
  intro command hcommand
  obtain ⟨part, hpart, rfl⟩ := List.mem_map.mp hcommand
  refine isPart_ofCalls (mt List.map_eq_nil_iff.mp (ne_nil_of_mem_layout hpart)) ?_
  intro call hcall
  obtain ⟨stretch, hstretch, rfl⟩ := List.mem_map.mp hcall
  refine Call.isNormal_ofStretch (completes_of_mem_layout hline hpart hstretch) ?_
    (not_shows_of_mem_layout hpart hstretch)
  exact fun hall => hblank ⟨part, hpart, stretch, hstretch, hall⟩

end Command

end LineShell
