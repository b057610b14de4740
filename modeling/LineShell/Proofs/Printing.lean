import LineShell.Proofs.NormalForm

/-!
# Commands written out

A command in normal form, written out with single spaces, is read back as it was. What is written
for a member of a pipe or a sequence holds the separator only inside quotes, so the cuts fall
exactly where separators were written, and the spaces around those are lost on every level.
-/

namespace LineShell

open Text QuoteStack

/-- What holds of the parts, and is kept when texts are joined, holds of what is written. -/
theorem intercalate_of_append {P : List Char → Prop} (hnil : P [])
    (happend : ∀ {text more}, P text → P more → P (text ++ more)) {between : List Char}
    (hbetween : P between) {texts : List (List Char)} (h : ∀ text ∈ texts, P text) :
    P (between.intercalate texts) := by
  induction texts with
  | nil => exact hnil
  | cons text texts ih =>
    obtain ⟨htext, htexts⟩ := List.forall_mem_cons.mp h
    cases texts with
    | nil => rwa [List.intercalate_singleton]
    | cons other others =>
      rw [List.intercalate_cons_cons]
      exact happend (happend htext hbetween) (ih htexts)

theorem QuoteStack.Completes.append {text more : List Char} (h : Completes [] text)
    (hmore : Completes [] more) : Completes [] (text ++ more) := by
  refine completes_append.mpr ⟨h.unbroken, ?_⟩
  rwa [h.closed]

theorem QuoteStack.completes_of_plain {text : List Char}
    (h : ∀ c ∈ text, Quote.ofChar? c = none) : Completes [] text := by
  induction text with
  | nil => exact completes_nil.mpr rfl
  | cons c text ih =>
    obtain ⟨hc, htext⟩ := List.forall_mem_cons.mp h
    exact (completes_cons_of_exposes (exposes_iff.mpr ⟨rfl, hc⟩)).mpr (ih htext)

/-- The text is complete by itself and holds the separator only inside quotes. -/
structure Encloses (sep : Char) (text : List Char) : Prop where
  completes : Completes [] text
  hidden : ¬ Shows [] (· == sep) text

/-- Spaces around a written text. -/
abbrev spaces (count : Nat) : List Char := List.replicate count ' '

namespace Encloses

variable {sep : Char} {text more : List Char}

theorem nil : Encloses sep [] := ⟨completes_nil.mpr rfl, not_meets_nil⟩

theorem append (h : Encloses sep text) (hmore : Encloses sep more) :
    Encloses sep (text ++ more) := by
  refine ⟨h.completes.append hmore.completes, ?_⟩
  rw [Shows, meets_append, h.completes.closed]
  exact not_or.mpr ⟨h.hidden, hmore.hidden⟩

theorem of_plain (hquote : ∀ c ∈ text, Quote.ofChar? c = none) (hsep : sep ∉ text) :
    Encloses sep text := by
  refine ⟨completes_of_plain hquote, ?_⟩
  rintro ⟨before, c, rest, rfl, -, hc⟩
  obtain rfl := beq_iff_eq.mp hc
  exact hsep (List.mem_append_right before List.mem_cons_self)

theorem spaces (hsep : sep ≠ ' ') (count : Nat) : Encloses sep (spaces count) := by
  refine of_plain (fun c hc => ?_) fun h => hsep (List.eq_of_mem_replicate h)
  rw [List.eq_of_mem_replicate hc]
  rfl

end Encloses

/-- Members written with a separator between them are read back, if each is read back with any
spaces around it. -/
theorem mapM_cut_intercalate {α : Type} (sep : Char) (hsep : Quote.ofChar? sep = none)
    (hspace : sep ≠ ' ') {read : List Char → Except SyntaxFault α} {text : α → List Char}
    {xs : List α} (hne : xs ≠ []) (henclosed : ∀ x ∈ xs, Encloses sep (text x))
    (hread : ∀ x ∈ xs, ∀ before after, read (spaces before ++ text x ++ spaces after) = .ok x)
    (before after : Nat) :
    (cutUnquoted (· == sep) []
        (spaces before ++ [' ', sep, ' '].intercalate (xs.map text) ++ spaces after)).mapM read =
      .ok xs := by
  induction xs generalizing before with
  | nil => exact absurd rfl hne
  | cons x xs ih =>
    obtain ⟨hx, hxs⟩ := List.forall_mem_cons.mp henclosed
    obtain ⟨hreadx, hreadxs⟩ := List.forall_mem_cons.mp hread
    have hbefore := (Encloses.spaces hspace before).append hx
    cases xs with
    | nil =>
      have hpiece := hbefore.append (Encloses.spaces hspace after)
      rw [List.map_singleton, List.intercalate_singleton,
        cutUnquoted_of_not_shows hpiece.hidden, List.mapM_cons, hreadx]
      rfl
    | cons y ys =>
      have hpiece := hbefore.append (Encloses.spaces hspace 1)
      have hexposed :
          (QuoteStack.after [] (spaces before ++ text x ++ spaces 1)).exposes sep = true :=
        exposes_iff.mpr ⟨hpiece.completes.closed, hsep⟩
      have hwritten : spaces before ++ [' ', sep, ' '].intercalate ((x :: y :: ys).map text) ++
          spaces after =
            (spaces before ++ text x ++ spaces 1) ++ sep ::
              (spaces 1 ++ [' ', sep, ' '].intercalate ((y :: ys).map text) ++ spaces after) := by
        simp [List.intercalate_cons_cons]
      rw [hwritten, cutUnquoted_append_cons hpiece.hidden hexposed (beq_self_eq_true sep),
        List.mapM_cons, hreadx, ih (List.cons_ne_nil y ys) hxs hreadxs 1]
      rfl

/-! ### Tokens and calls -/

theorem IsWordToken.isWord {token : String} (h : IsWordToken token) : IsWord token.toList := by
  refine ⟨⟨?_, ?_, h.balanced⟩, mt String.toList_eq_nil_iff.mp h.ne_empty⟩
  · rintro ⟨before, c, rest, htoken, -, hbreak⟩
    have hc : c ∈ token.toList := htoken ▸ List.mem_append_right before List.mem_cons_self
    exact Bool.eq_false_iff.mp (h.oneLine c hc) hbreak
  · rintro ⟨before, c, rest, htoken, hexposed, hend⟩
    exact h.hidden ⟨before, c, rest, htoken, hexposed, by simp [breaksToken, hend]⟩

theorem IsToken.encloses {token : String} (h : IsToken token) {sep : Char}
    (hsep : sep = ';' ∨ sep = '|') : Encloses sep token.toList := by
  have hoperator {operator : String} (hquote : ∀ c ∈ operator.toList, Quote.ofChar? c = none)
      (hfree : ';' ∉ operator.toList ∧ '|' ∉ operator.toList) :
      Encloses sep operator.toList := by
    rcases hsep with rfl | rfl
    · exact .of_plain hquote hfree.1
    · exact .of_plain hquote hfree.2
  rcases h with rfl | rfl | rfl | h
  · exact hoperator (by simp [Quote.ofChar?]) (by decide)
  · exact hoperator (by simp [Quote.ofChar?]) (by decide)
  · exact hoperator (by simp [Quote.ofChar?]) (by decide)
  · refine ⟨⟨h.isWord.unbroken, h.balanced⟩, ?_⟩
    rintro ⟨before, c, rest, htoken, hexposed, hc⟩
    refine h.hidden ⟨before, c, rest, htoken, hexposed, ?_⟩
    rcases hsep with rfl | rfl <;> simp [breaksToken, hc]

namespace Tokens

theorem spaces {rest : List Char} {tokens : List String} (count : Nat) (h : Tokens rest tokens) :
    Tokens (LineShell.spaces count ++ rest) tokens := by
  induction count with
  | zero => exact h
  | succ count ih => exact .blank (by decide) ih

theorem cons_token {token : String} {rest : List Char} {tokens : List String}
    (htoken : IsToken token) (hrest : ∀ c ∈ rest.head?, c = ' ') (h : Tokens rest tokens) :
    Tokens (token.toList ++ rest) (token :: tokens) := by
  rcases htoken with rfl | rfl | rfl | htoken
  · exact .input h
  · refine .truncate (fun hhead => ?_) h
    have : '>' = ' ' := hrest '>' hhead
    exact absurd this (by decide)
  · exact .append h
  · have hword := Tokens.word htoken.isWord (fun c hc => hrest c hc ▸ by decide) h
    rwa [String.ofList_toList] at hword

/-- Tokens with single spaces between them are the tokens of what is written. -/
theorem intercalate {tokens : List String} (hne : tokens ≠ [])
    (h : ∀ token ∈ tokens, IsToken token) (after : Nat) :
    Tokens ([' '].intercalate (tokens.map String.toList) ++ LineShell.spaces after) tokens := by
  have hblank : Tokens (LineShell.spaces after) [] := by simpa using Tokens.nil.spaces after
  induction tokens with
  | nil => exact absurd rfl hne
  | cons token tokens ih =>
    obtain ⟨htoken, htokens⟩ := List.forall_mem_cons.mp h
    cases tokens with
    | nil =>
      rw [List.map_singleton, List.intercalate_singleton]
      refine cons_token htoken (fun c hc => ?_) hblank
      exact List.eq_of_mem_replicate (List.mem_of_mem_head? hc)
    | cons other others =>
      have hothers := (ih (List.cons_ne_nil other others) htokens).spaces 1
      have hwritten : [' '].intercalate ((token :: other :: others).map String.toList) ++
          LineShell.spaces after =
            token.toList ++ (LineShell.spaces 1 ++
              ([' '].intercalate ((other :: others).map String.toList) ++
                LineShell.spaces after)) := by
        simp [List.intercalate_cons_cons]
      rw [hwritten]
      exact cons_token htoken (by simp) hothers

end Tokens

namespace Call

theorem IsNormal.encloses {call : Call} (h : call.IsNormal) {sep : Char}
    (hsep : sep = ';' ∨ sep = '|') : Encloses sep call.text := by
  have hspace : sep ≠ ' ' := by rcases hsep with rfl | rfl <;> decide
  refine intercalate_of_append .nil .append (Encloses.spaces hspace 1) fun text htext => ?_
  obtain ⟨token, htoken, rfl⟩ := List.mem_map.mp htext
  exact (h.2 token htoken).encloses hsep

theorem parse_text {call : Call} (h : call.IsNormal) (before after : Nat) :
    Call.parse (spaces before ++ call.text ++ spaces after) = .ok call := by
  have hwritten := (Tokens.intercalate h.1 h.2 after).spaces before
  have htokens : tokenize (String.ofList (spaces before ++ call.text ++ spaces after)) =
      .ok call.tokens := by
    rwa [tokenize_eq_ok_iff, String.toList_ofList, List.append_assoc]
  have hsome : call.tokens.isEmpty = false := by simpa [List.isEmpty_iff] using h.1
  rw [Call.parse, htokens]
  simp [bind, Except.bind, hsome]

end Call

/-! ### Pipes and sequences -/

/-- Members with a separator between them make a text that is complete by itself. -/
theorem completes_members (sep : Char) (hsep : Quote.ofChar? sep = none)
    {texts : List (List Char)} (h : ∀ text ∈ texts, Completes [] text) (before after : Nat) :
    Completes [] (spaces before ++ [' ', sep, ' '].intercalate texts ++ spaces after) := by
  have hspaces (count : Nat) : Completes [] (spaces count) :=
    completes_of_plain fun c hc => List.eq_of_mem_replicate hc ▸ rfl
  have hbetween : Completes [] [' ', sep, ' '] :=
    completes_of_plain (List.forall_mem_cons.mpr
      ⟨rfl, List.forall_mem_cons.mpr ⟨hsep, List.forall_mem_singleton.mpr rfl⟩⟩)
  have hmembers := intercalate_of_append (completes_nil.mpr rfl) QuoteStack.Completes.append
    hbetween h
  exact ((hspaces before).append hmembers).append (hspaces after)

namespace Command

theorem parsePart_intercalate {calls : List Call} (hne : calls ≠ [])
    (h : ∀ call ∈ calls, call.IsNormal) (before after : Nat) :
    Command.parsePart
        (spaces before ++ [' ', '|', ' '].intercalate (calls.map Call.text) ++ spaces after) =
      .ok (ofCalls calls) := by
  have henclosed (single : Call) (hsingle : single ∈ calls) : Encloses '|' single.text :=
    (h single hsingle).encloses (.inr rfl)
  have hcomplete := completes_members '|' rfl
    (List.forall_mem_map.mpr fun single hsingle => (henclosed single hsingle).completes)
    before after
  rw [parsePart_eq, splitUnquoted_of_completes hcomplete]
  have hcalls := mapM_cut_intercalate '|' rfl (by decide) hne henclosed
    (fun single hsingle => Call.parse_text (h single hsingle)) before after
  simp only [bind, Except.bind, hcalls]
  rfl

theorem IsPart.encloses {command : Command} (h : command.IsPart) : Encloses ';' command.text := by
  cases command with
  | call single => exact Call.IsNormal.encloses h (.inl rfl)
  | pipe calls =>
    have hbar : Encloses ';' [' ', '|', ' '] := .of_plain (by simp [Quote.ofChar?]) (by decide)
    exact intercalate_of_append .nil .append hbar
      (List.forall_mem_map.mpr fun single hsingle => (h.2 single hsingle).encloses (.inl rfl))
  | sequence commands => exact h.elim

theorem parsePart_text {command : Command} (h : command.IsPart) (before after : Nat) :
    Command.parsePart (spaces before ++ command.text ++ spaces after) = .ok command := by
  cases command with
  | call single =>
    have hsingle := @parsePart_intercalate [single] (by simp)
      (List.forall_mem_singleton.mpr h) before after
    rwa [List.map_singleton, List.intercalate_singleton] at hsingle
  | pipe calls =>
    match calls, h with
    | first :: second :: others, h => exact parsePart_intercalate (by simp) h.2 before after
  | sequence commands => exact h.elim

theorem parse_intercalate {parts : List Command} (hne : parts ≠ [])
    (h : ∀ part ∈ parts, part.IsPart) :
    Command.parse (String.ofList ([' ', ';', ' '].intercalate (parts.map text))) =
      .ok (ofParts parts) := by
  have henclosed (part : Command) (hpart : part ∈ parts) : Encloses ';' part.text :=
    (h part hpart).encloses
  have hcomplete := completes_members ';' rfl
    (List.forall_mem_map.mpr fun part hpart => (henclosed part hpart).completes) 0 0
  have hparts := mapM_cut_intercalate ';' rfl (by decide) hne henclosed
    (fun part hpart => parsePart_text (h part hpart)) 0 0
  simp only [List.replicate_zero, List.nil_append, List.append_nil] at hcomplete hparts
  rw [parse_eq, String.toList_ofList, splitUnquoted_of_completes hcomplete]
  simp only [bind, Except.bind, hparts]
  rfl

theorem parse_print {command : Command} (h : command.IsNormal) :
    Command.parse command.print = .ok command := by
  have hpart (hpart : command.IsPart) : Command.parse command.print = .ok command := by
    have hsingle := @parse_intercalate [command] (by simp)
      (List.forall_mem_singleton.mpr hpart)
    rwa [List.map_singleton, List.intercalate_singleton] at hsingle
  cases command with
  | call single => exact hpart h
  | pipe calls => exact hpart h
  | sequence commands =>
    rw [print, text, texts_eq_map]
    match commands, h with
    | first :: second :: others, h => exact parse_intercalate (by simp) h.2

end Command

/-- Reading a line gives a command in normal form, and every command in normal form is what
reading its print gives. -/
theorem parse_print_inverse :
    (∀ line command, Command.parse line = .ok command → command.IsNormal) ∧
      ∀ command : Command, command.IsNormal → Command.parse command.print = .ok command :=
  ⟨fun _ _ => Command.isNormal_of_parse, fun _ => Command.parse_print⟩

theorem parse_print_inverse_quoted_separator :
    (Command.sequence [.pipe [⟨["a", "'x;y'", ">", "f"]⟩, ⟨["b"]⟩], .call ⟨["c"]⟩]).IsNormal ∧
      Command.parse (Command.print
          (.sequence [.pipe [⟨["a", "'x;y'", ">", "f"]⟩, ⟨["b"]⟩], .call ⟨["c"]⟩])) =
        .ok (.sequence [.pipe [⟨["a", "'x;y'", ">", "f"]⟩, ⟨["b"]⟩], .call ⟨["c"]⟩]) :=
  have hparse : Command.parse "a 'x;y'>f|b; c" =
      .ok (.sequence [.pipe [⟨["a", "'x;y'", ">", "f"]⟩, ⟨["b"]⟩], .call ⟨["c"]⟩]) := by cbv
  have hnormal := parse_print_inverse.1 _ _ hparse
  ⟨hnormal, parse_print_inverse.2 _ hnormal⟩

end LineShell
