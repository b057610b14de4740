import Mathlib.Data.List.Chain
import LineShell.Proofs.Infills
import LineShell.Proofs.Interleaving

/-!
# The tokens in their text

A text is made of blanks, operators and words, one after another. Three rules settle where it is
cut: a word is complete in its quotes and shows no blank and no operator, two words have a blank
between them, and of a run of `>` every two make one operator. All the cuts are then outside quotes.
The scan of a stage gives the operators and words, and nothing else does that keeps to the rules.

That only one list of tokens keeps to the rules is proved against `Tokens`, which cuts from the left
and looks one lexeme ahead. The rules look at whole runs, so the main step is that they hold of a
text just when they hold of what its first lexeme leaves and the two lexemes in front get along.
-/

namespace LineShell

open Text QuoteStack
open Redirection (Direction operator?)

/-- A text that is a word wherever it has blanks or operators around it. -/
structure Lexeme.Word where
  text : List Char
  ne_nil : text ≠ []
  closed : after [] text = []
  hidden : ¬ Shows [] endsWord text

inductive Lexeme
  | blank (c : Char) (h : isBlank c = true)
  | operator (direction : Direction)
  | word (part : Lexeme.Word)

namespace Lexeme

def text : Lexeme → List Char
  | .blank c _ => [c]
  | .operator direction => direction.operator.toList
  | .word part => part.text

/-- Blanks make no tokens. -/
def token? : Lexeme → Option String
  | .blank _ _ => none
  | .operator direction => some direction.operator
  | .word part => some (String.ofList part.text)

/-- The two are not both words. -/
def Apart : Lexeme → Lexeme → Prop
  | .word _, .word _ => False
  | _, _ => True

/-- The text that the lexemes make. -/
def joined (lexemes : List Lexeme) : List Char :=
  lexemes.flatMap text

def tokens (lexemes : List Lexeme) : List String :=
  lexemes.filterMap token?

@[simp] theorem joined_nil : joined [] = [] := rfl

@[simp] theorem joined_cons (lexeme : Lexeme) (lexemes : List Lexeme) :
    joined (lexeme :: lexemes) = lexeme.text ++ joined lexemes := rfl

theorem text_ne_nil (lexeme : Lexeme) : lexeme.text ≠ [] := by
  rcases lexeme with ⟨c, hblank⟩ | direction | part
  · exact List.cons_ne_nil c []
  · rcases direction with _ | _ | _ <;> decide
  · exact part.ne_nil

theorem after_blank {c : Char} (h : isBlank c = true) : after [] [c] = [] :=
  feed_of_not_quote (not_quote_of_endsWord (endsWord_of_isBlank h)) []

/-- No lexeme leaves a quote open. -/
theorem after_text (lexeme : Lexeme) : after [] lexeme.text = [] := by
  rcases lexeme with ⟨c, hblank⟩ | direction | part
  · exact after_blank hblank
  · rcases direction with _ | _ | _ <;> rfl
  · exact part.closed

theorem after_joined (lexemes : List Lexeme) : after [] (joined lexemes) = [] := by
  induction lexemes with
  | nil => rfl
  | cons lexeme lexemes ih => rw [joined_cons, after_append, after_text, ih]

theorem joined_eq_nil_iff {lexemes : List Lexeme} : joined lexemes = [] ↔ lexemes = [] := by
  cases lexemes with
  | nil => simp
  | cons lexeme lexemes => simp [text_ne_nil]

end Lexeme

/-! ### The beginning and the end of a word -/

/-- At its end, a complete text shows what it shows at all there. -/
theorem shows_of_getLast? {class? : Char → Bool} {text : List Char} {c : Char}
    (hclosed : after [] text = []) (hlast : text.getLast? = some c)
    (hquote : Quote.ofChar? c = none) (hc : class? c = true) : Shows [] class? text := by
  obtain ⟨before, rfl⟩ := List.getLast?_eq_some_iff.mp hlast
  rw [after_append, after_cons, feed_of_not_quote hquote, after_nil] at hclosed
  exact ⟨before, c, [], rfl, exposes_iff.mpr ⟨hclosed, hquote⟩, hc⟩

theorem Lexeme.Word.endsWord_head (part : Lexeme.Word) {c : Char} {rest : List Char}
    (h : part.text = c :: rest) : endsWord c = false := by
  by_contra hc
  rw [Bool.not_eq_false] at hc
  exact part.hidden ⟨[], c, rest, h, exposes_iff.mpr ⟨rfl, not_quote_of_endsWord hc⟩, hc⟩

/-- A word ends where something else begins. -/
theorem Lexeme.apart_word_iff (part : Lexeme.Word) (lexeme : Lexeme) :
    (Lexeme.word part).Apart lexeme ↔ ∀ c ∈ lexeme.text.head?, endsWord c = true := by
  rcases lexeme with ⟨c, hblank⟩ | direction | other
  · simp [Lexeme.Apart, Lexeme.text, endsWord_of_isBlank hblank]
  · rcases direction with _ | _ | _ <;>
      simp [Lexeme.Apart, Lexeme.text, Direction.operator, endsWord]
  · obtain ⟨c, rest, htext⟩ := List.exists_cons_of_ne_nil other.ne_nil
    simp [Lexeme.Apart, Lexeme.text, htext, other.endsWord_head htext]

/-! ### Runs of outputs -/

/-- So many `>` stand next to each other outside quotes, and no more. -/
structure OutputRun (text before : List Char) (count : Nat) (rest : List Char) : Prop where
  text_eq : text = before ++ (List.replicate count '>' ++ rest)
  pos : 0 < count
  outside : after [] before = []
  starts : before.getLast? ≠ some '>'
  ends : rest.head? ≠ some '>'

/-- The operators of a run: one for every two, and one for what is left over. -/
def outputs (count : Nat) : List Lexeme :=
  List.replicate (count / 2) (.operator (.output .append)) ++
    List.replicate (count % 2) (.operator (.output .truncate))

/-- The operators of each run are among the lexemes, right where the run stands in their text. -/
def PairsOutputs (lexemes : List Lexeme) : Prop :=
  ∀ ⦃before count rest⦄, OutputRun (Lexeme.joined lexemes) before count rest →
    ∃ earlier later, lexemes = earlier ++ (outputs count ++ later) ∧
      Lexeme.joined earlier = before ∧ Lexeme.joined later = rest

theorem outputs_add_two (count : Nat) :
    outputs (count + 2) = .operator (.output .append) :: outputs count := by
  rw [outputs, Nat.add_div_right count two_pos, Nat.add_mod_right]
  rfl

/-- What a text begins with is a run of its own. -/
theorem exists_run (text : List Char) :
    ∃ count rest, text = List.replicate count '>' ++ rest ∧ rest.head? ≠ some '>' := by
  induction text with
  | nil => exact ⟨0, [], rfl, nofun⟩
  | cons c text ih =>
    by_cases hc : c = '>'
    · obtain ⟨count, rest, rfl, hrest⟩ := ih
      exact ⟨count + 1, rest, by rw [hc, List.replicate_succ, List.cons_append], hrest⟩
    · exact ⟨0, c :: text, rfl, by simpa using hc⟩

namespace OutputRun

variable {text before rest : List Char} {count : Nat}

theorem of_replicate (hpos : 0 < count) (ends : rest.head? ≠ some '>') :
    OutputRun (List.replicate count '>' ++ rest) [] count rest :=
  ⟨rfl, hpos, rfl, nofun, ends⟩

/-- The run stands in the text still after more in front of it. -/
theorem behind {front : List Char} (h : OutputRun text before count rest)
    (hclosed : after [] front = []) (hstarts : before = [] → front.getLast? ≠ some '>') :
    OutputRun (front ++ text) (front ++ before) count rest := by
  refine ⟨by rw [h.text_eq, List.append_assoc], h.pos, ?_, ?_, h.ends⟩
  · rw [after_append, hclosed, h.outside]
  · by_cases hbefore : before = []
    · rw [hbefore, List.append_nil]
      exact hstarts hbefore
    · rw [List.getLast?_append_of_ne_nil front hbefore]
      exact h.starts

/-- A run that does not begin in front stands in the rest. -/
theorem ahead {front : List Char} (h : OutputRun (front ++ text) (front ++ before) count rest)
    (hclosed : after [] front = []) : OutputRun text before count rest := by
  refine ⟨?_, h.pos, ?_, fun hlast => h.starts ?_, h.ends⟩
  · exact List.append_cancel_left (h.text_eq.trans (List.append_assoc _ _ _))
  · have houtside := h.outside
    rwa [after_append, hclosed] at houtside
  · rw [List.getLast?_append, hlast]
    rfl

/-- A run does not begin in a text that shows no `>`. -/
theorem exists_ahead {front : List Char} (h : OutputRun (front ++ text) before count rest)
    (hhidden : ¬ Shows [] (· == '>') front) : ∃ later, before = front ++ later := by
  rcases List.append_eq_append_iff.mp h.text_eq with ⟨later, hbefore, -⟩ | ⟨part, hfront, hrun⟩
  · exact ⟨later, hbefore⟩
  · cases part with
    | nil => exact ⟨[], by simpa using hfront.symm⟩
    | cons c part =>
      obtain ⟨count, rfl⟩ := Nat.exists_eq_add_one.mpr h.pos
      obtain ⟨rfl, -⟩ := List.cons.inj hrun
      refine absurd ⟨before, _, part, hfront, ?_, beq_self_eq_true _⟩ hhidden
      rw [h.outside]
      rfl

/-- Where a text begins with `>`, a run begins with them or behind them. -/
theorem eq_nil_or_ahead {n : Nat} (h : OutputRun (List.replicate n '>' ++ text) before count rest) :
    before = [] ∨ ∃ later, before = List.replicate n '>' ++ later := by
  rcases List.append_eq_append_iff.mp h.text_eq with ⟨later, hbefore, -⟩ | ⟨part, hfront, -⟩
  · exact .inr ⟨later, hbefore⟩
  · refine .inl (List.eq_nil_iff_forall_not_mem.mpr ?_)
    intro c hc
    have hlast := List.getLast?_eq_some_getLast (List.ne_nil_of_mem hc)
    have hmem : before.getLast (List.ne_nil_of_mem hc) ∈ List.replicate n '>' := by
      rw [hfront]
      exact List.mem_append_left part (List.getLast_mem _)
    exact h.starts (hlast.trans (congrArg some (List.eq_of_mem_replicate hmem)))

end OutputRun

namespace PairsOutputs

variable {lexeme : Lexeme} {lexemes : List Lexeme}

theorem nil : PairsOutputs [] := by
  intro before count rest hrun
  obtain ⟨-, hrest⟩ := List.append_eq_nil_iff.mp hrun.text_eq.symm
  obtain ⟨hempty, -⟩ := List.append_eq_nil_iff.mp hrest
  exact absurd (List.replicate_eq_nil_iff '>' |>.mp hempty) hrun.pos.ne'

/-- A run with nothing before it is what the lexemes begin with. -/
theorem begins (h : PairsOutputs lexemes) {count : Nat} {rest : List Char}
    (hrun : OutputRun (Lexeme.joined lexemes) [] count rest) :
    ∃ later, lexemes = outputs count ++ later ∧ Lexeme.joined later = rest := by
  obtain ⟨earlier, later, hlexemes, hearlier, hlater⟩ := h hrun
  obtain rfl := Lexeme.joined_eq_nil_iff.mp hearlier
  exact ⟨later, hlexemes, hlater⟩

theorem tail (h : PairsOutputs (lexeme :: lexemes))
    (hbegins : ∀ count rest, OutputRun (Lexeme.joined lexemes) [] count rest →
      lexeme.text.getLast? ≠ some '>' ∨
        ∃ later, lexemes = outputs count ++ later ∧ Lexeme.joined later = rest) :
    PairsOutputs lexemes := by
  intro before count rest hrun
  have hbeyond (hstarts : before = [] → lexeme.text.getLast? ≠ some '>') :
      ∃ earlier later, lexemes = earlier ++ (outputs count ++ later) ∧
        Lexeme.joined earlier = before ∧ Lexeme.joined later = rest := by
    obtain ⟨earlier, later, hlexemes, hearlier, hlater⟩ := h (hrun.behind lexeme.after_text hstarts)
    cases earlier with
    | nil => exact absurd (List.append_eq_nil_iff.mp hearlier.symm).1 lexeme.text_ne_nil
    | cons first earlier =>
      obtain ⟨rfl, hothers⟩ := List.cons.inj hlexemes
      exact ⟨earlier, later, hothers, List.append_cancel_left hearlier, hlater⟩
  by_cases hbefore : before = []
  · subst hbefore
    rcases hbegins count rest hrun with hstarts | ⟨later, hlexemes, hlater⟩
    · exact hbeyond fun _ => hstarts
    · exact ⟨[], later, hlexemes, rfl, hlater⟩
  · exact hbeyond fun hempty => absurd hempty hbefore

theorem cons (h : PairsOutputs lexemes)
    (hbegins : ∀ count rest, OutputRun (Lexeme.joined (lexeme :: lexemes)) [] count rest →
      ∃ later, lexeme :: lexemes = outputs count ++ later ∧ Lexeme.joined later = rest)
    (hahead : ∀ before count rest,
      OutputRun (Lexeme.joined (lexeme :: lexemes)) before count rest →
        before = [] ∨ ∃ later, before = lexeme.text ++ later) :
    PairsOutputs (lexeme :: lexemes) := by
  intro before count rest hrun
  rcases hahead before count rest hrun with rfl | ⟨later, rfl⟩
  · obtain ⟨later, hlexemes, hlater⟩ := hbegins count rest hrun
    exact ⟨[], later, hlexemes, rfl, hlater⟩
  · obtain ⟨earlier, others, rfl, hearlier, hothers⟩ := h (hrun.ahead lexeme.after_text)
    exact ⟨lexeme :: earlier, others, rfl, by rw [Lexeme.joined_cons, hearlier], hothers⟩

theorem cons_iff_of_hidden (hhidden : ¬ Shows [] (· == '>') lexeme.text) :
    PairsOutputs (lexeme :: lexemes) ↔ PairsOutputs lexemes := by
  constructor
  · intro h
    refine h.tail fun count rest hrun => .inl fun hlast => hhidden ?_
    exact shows_of_getLast? lexeme.after_text hlast rfl (beq_self_eq_true _)
  · intro h
    refine h.cons (fun count rest hrun => ?_) fun before count rest hrun =>
      .inr (hrun.exists_ahead hhidden)
    obtain ⟨later, hlater⟩ := hrun.exists_ahead hhidden
    exact absurd (List.append_eq_nil_iff.mp hlater.symm).1 lexeme.text_ne_nil

/-- A single `>` is the last one of its run. -/
theorem truncate_iff :
    PairsOutputs (.operator (.output .truncate) :: lexemes) ↔
      (Lexeme.joined lexemes).head? ≠ some '>' ∧ PairsOutputs lexemes := by
  constructor
  · intro h
    have hhead : (Lexeme.joined lexemes).head? ≠ some '>' := by
      obtain ⟨count, rest, htext, hrest⟩ := exists_run (Lexeme.joined lexemes)
      cases count with
      | zero => rwa [htext]
      | succ count =>
        have hrun := OutputRun.of_replicate (Nat.succ_pos (count + 1)) hrest
        rw [List.replicate_succ, List.cons_append, ← htext] at hrun
        obtain ⟨later, hlexemes, -⟩ := h.begins hrun
        rw [outputs_add_two] at hlexemes
        cases hlexemes
    refine ⟨hhead, h.tail fun count rest hrun => absurd ?_ hhead⟩
    obtain ⟨count, rfl⟩ := Nat.exists_eq_add_one.mpr hrun.pos
    rw [hrun.text_eq]
    rfl
  · rintro ⟨hhead, h⟩
    refine h.cons (fun count rest hrun => ?_) fun before count rest hrun =>
      OutputRun.eq_nil_or_ahead (n := 1) hrun
    obtain ⟨count, rfl⟩ := Nat.exists_eq_add_one.mpr hrun.pos
    have hrest : Lexeme.joined lexemes = List.replicate count '>' ++ rest :=
      (List.cons.inj hrun.text_eq).2
    cases count with
    | zero => exact ⟨lexemes, rfl, hrest⟩
    | succ count =>
      rw [hrest] at hhead
      exact absurd rfl hhead

theorem append_iff :
    PairsOutputs (.operator (.output .append) :: lexemes) ↔ PairsOutputs lexemes := by
  constructor
  · intro h
    refine h.tail fun count rest hrun => .inr ?_
    have hwhole := OutputRun.of_replicate (Nat.succ_pos (count + 1)) hrun.ends
    rw [List.replicate_succ, List.replicate_succ, List.cons_append, List.cons_append,
      ← List.nil_append (_ ++ rest), ← hrun.text_eq] at hwhole
    obtain ⟨later, hlexemes, hlater⟩ := h.begins hwhole
    rw [outputs_add_two] at hlexemes
    exact ⟨later, (List.cons.inj hlexemes).2, hlater⟩
  · intro h
    refine h.cons (fun count rest hrun => ?_) fun before count rest hrun =>
      OutputRun.eq_nil_or_ahead (n := 2) hrun
    obtain ⟨count, rfl⟩ := Nat.exists_eq_add_one.mpr hrun.pos
    cases count with
    | zero =>
      have hrest : '>' :: Lexeme.joined lexemes = rest := (List.cons.inj hrun.text_eq).2
      rw [← hrest] at hrun
      exact absurd rfl hrun.ends
    | succ count =>
      have hrest : Lexeme.joined lexemes = List.replicate count '>' ++ rest :=
        (List.cons.inj (List.cons.inj hrun.text_eq).2).2
      rw [outputs_add_two]
      cases count with
      | zero => exact ⟨lexemes, rfl, hrest⟩
      | succ count =>
        have hbehind := OutputRun.of_replicate (Nat.succ_pos count) hrun.ends
        rw [← hrest] at hbehind
        obtain ⟨later, rfl, hlater⟩ := h.begins hbehind
        exact ⟨later, rfl, hlater⟩

end PairsOutputs

/-! ### The rules and the scan -/

/-- The text is cut into the lexemes by the rules. -/
structure Lexeme.Division (text : List Char) (lexemes : List Lexeme) : Prop where
  joined_eq : Lexeme.joined lexemes = text
  apart : List.IsChain Lexeme.Apart lexemes
  pairs : PairsOutputs lexemes

/-- The lexeme may stand right before the rest of a text. -/
def Lexeme.Precedes (rest : List Char) : Lexeme → Prop
  | .operator (.output .truncate) => rest.head? ≠ some '>'
  | .word _ => ∀ c ∈ rest.head?, endsWord c = true
  | _ => True

theorem Lexeme.hides_output_word (part : Lexeme.Word) :
    ¬ Shows [] (· == '>') (Lexeme.word part).text := by
  refine fun hshown => part.hidden (hshown.imp fun stack c hc => ⟨hc.1, ?_⟩)
  simp [endsWord, beq_iff_eq.mp hc.2]

theorem Lexeme.hides_output_blank {c : Char} (h : isBlank c = true) :
    ¬ Shows [] (· == '>') (Lexeme.blank c h).text := by
  rw [Shows, Lexeme.text, meets_cons]
  rintro (⟨-, hc⟩ | hnil)
  · rw [beq_iff_eq.mp hc] at h
    revert h
    decide
  · exact not_meets_nil hnil

/-- A word is apart from the next lexeme if it may stand before its text. -/
theorem Lexeme.forall_apart_word_iff (part : Lexeme.Word) (lexemes : List Lexeme) :
    (∀ next ∈ lexemes.head?, (Lexeme.word part).Apart next) ↔
      (Lexeme.word part).Precedes (Lexeme.joined lexemes) := by
  cases lexemes with
  | nil => simp [Lexeme.Precedes]
  | cons next lexemes =>
    rw [Lexeme.joined_cons, Lexeme.Precedes, List.head?_append_of_ne_nil _ next.text_ne_nil,
      ← Lexeme.apart_word_iff part next]
    simp

namespace Lexeme.Division

variable {text : List Char} {lexemes : List Lexeme}

theorem cons_iff {lexeme : Lexeme} :
    Lexeme.Division text (lexeme :: lexemes) ↔
      ∃ rest, text = lexeme.text ++ rest ∧ lexeme.Precedes rest ∧ Lexeme.Division rest lexemes := by
  have hrules : List.IsChain Lexeme.Apart (lexeme :: lexemes) ∧ PairsOutputs (lexeme :: lexemes) ↔
      lexeme.Precedes (Lexeme.joined lexemes) ∧
        List.IsChain Lexeme.Apart lexemes ∧ PairsOutputs lexemes := by
    rw [List.isChain_cons]
    rcases lexeme with ⟨c, hblank⟩ | (_ | (_ | _)) | part
    · rw [PairsOutputs.cons_iff_of_hidden (Lexeme.hides_output_blank hblank)]
      simp [Lexeme.Apart, Lexeme.Precedes]
    · rw [PairsOutputs.cons_iff_of_hidden (by decide)]
      simp [Lexeme.Apart, Lexeme.Precedes]
    · rw [PairsOutputs.truncate_iff]
      simp [Lexeme.Apart, Lexeme.Precedes, and_left_comm]
    · rw [PairsOutputs.append_iff]
      simp [Lexeme.Apart, Lexeme.Precedes]
    · rw [PairsOutputs.cons_iff_of_hidden (Lexeme.hides_output_word part),
        Lexeme.forall_apart_word_iff, and_assoc]
  constructor
  · rintro ⟨rfl, hapart, hpairs⟩
    obtain ⟨hprecedes, hothers, hrest⟩ := hrules.mp ⟨hapart, hpairs⟩
    exact ⟨_, rfl, hprecedes, rfl, hothers, hrest⟩
  · rintro ⟨rest, rfl, hprecedes, rfl, hothers, hrest⟩
    obtain ⟨hapart, hpairs⟩ := hrules.mpr ⟨hprecedes, hothers, hrest⟩
    exact ⟨rfl, hapart, hpairs⟩

/-- The tokens that are read from left to right keep to the rules. -/
theorem exists_of_tokens {tokens : List String} (h : Tokens text tokens) :
    ∃ lexemes, Lexeme.Division text lexemes ∧ Lexeme.tokens lexemes = tokens := by
  have hbegin {lexeme : Lexeme} {rest : List Char} {others : List String}
      (hprecedes : lexeme.Precedes rest)
      (hrest : ∃ lexemes, Lexeme.Division rest lexemes ∧ Lexeme.tokens lexemes = others) :
      ∃ lexemes, Lexeme.Division (lexeme.text ++ rest) lexemes ∧
        Lexeme.tokens lexemes = lexeme.token?.toList ++ others := by
    obtain ⟨lexemes, hdivision, rfl⟩ := hrest
    refine ⟨lexeme :: lexemes, cons_iff.mpr ⟨rest, rfl, hprecedes, hdivision⟩, ?_⟩
    cases htoken : lexeme.token? <;> simp [Lexeme.tokens, htoken]
  induction h with
  | nil => exact ⟨[], ⟨rfl, .nil, .nil⟩, rfl⟩
  | @blank c rest tokens hblank others ih => exact @hbegin (.blank c hblank) _ _ trivial ih
  | input others ih => exact @hbegin (.operator .input) _ _ trivial ih
  | append others ih => exact @hbegin (.operator (.output .append)) _ _ trivial ih
  | truncate hhead others ih => exact @hbegin (.operator (.output .truncate)) _ _ hhead ih
  | @word word rest tokens hword ends others ih =>
    exact @hbegin (.word ⟨word, hword.ne_nil, hword.after_eq, hword.hidden⟩) _ _ ends ih

theorem tokens (h : Lexeme.Division text lexemes) (hunbroken : ¬ BreaksInside [] text) :
    Tokens text (Lexeme.tokens lexemes) := by
  induction lexemes generalizing text with
  | nil =>
    obtain rfl := h.joined_eq
    exact .nil
  | cons lexeme lexemes ih =>
    obtain ⟨rest, rfl, hprecedes, hrest⟩ := cons_iff.mp h
    have hparts := mt meets_append.mpr hunbroken
    rw [lexeme.after_text] at hparts
    obtain ⟨hfirst, hothers⟩ := not_or.mp hparts
    have hrest := ih hrest hothers
    rcases lexeme with ⟨c, hblank⟩ | (_ | (_ | _)) | part
    · exact .blank hblank hrest
    · exact .input hrest
    · exact .truncate hprecedes hrest
    · exact .append hrest
    · exact .word ⟨⟨hfirst, part.hidden, part.closed⟩, part.ne_nil⟩ hprecedes hrest

end Lexeme.Division

/-! ### Blanks and quoted characters -/

/-- The text without the blanks that stand outside quotes. -/
def withoutBlanks : QuoteStack → List Char → List Char
  | _, [] => []
  | quotes, c :: rest =>
    if quotes.exposes c && isBlank c then withoutBlanks quotes rest
    else c :: withoutBlanks (quotes.feed c) rest

theorem withoutBlanks_append (quotes : QuoteStack) (text more : List Char) :
    withoutBlanks quotes (text ++ more) =
      withoutBlanks quotes text ++ withoutBlanks (quotes.after text) more := by
  induction text generalizing quotes with
  | nil => rfl
  | cons c text ih =>
    rw [List.cons_append, withoutBlanks, withoutBlanks]
    split
    · next hblank =>
      obtain ⟨hexposed, -⟩ := Bool.and_eq_true_iff.mp hblank
      rw [ih, after_cons, feed_of_exposes hexposed]
    · rw [ih, after_cons, List.cons_append]

theorem withoutBlanks_of_hidden {quotes : QuoteStack} {text : List Char}
    (h : ¬ Shows quotes endsWord text) : withoutBlanks quotes text = text := by
  induction text generalizing quotes with
  | nil => rfl
  | cons c text ih =>
    obtain ⟨hc, htext⟩ := not_or.mp (mt meets_cons.mpr h)
    have hkept : (quotes.exposes c && isBlank c) = false := by
      rw [Bool.and_eq_false_iff, ← Bool.not_eq_true, ← Bool.not_eq_true, ← not_and_or]
      exact fun hblank => hc ⟨hblank.1, endsWord_of_isBlank hblank.2⟩
    rw [withoutBlanks, hkept, ih htext]
    rfl

namespace Lexeme

theorem withoutBlanks_text (lexeme : Lexeme) :
    withoutBlanks [] lexeme.text = lexeme.token?.toList.flatMap String.toList := by
  rcases lexeme with ⟨c, hblank⟩ | direction | part
  · have hexposed : exposes [] c = true :=
      exposes_iff.mpr ⟨rfl, not_quote_of_endsWord (endsWord_of_isBlank hblank)⟩
    simp [text, token?, withoutBlanks, hexposed, hblank]
  · rcases direction with _ | _ | _ <;> decide
  · simp [text, token?, withoutBlanks_of_hidden part.hidden]

/-- The tokens are what the blanks leave of the text. -/
theorem withoutBlanks_joined (lexemes : List Lexeme) :
    withoutBlanks [] (joined lexemes) = (tokens lexemes).flatMap String.toList := by
  induction lexemes with
  | nil => rfl
  | cons lexeme lexemes ih =>
    rw [joined_cons, withoutBlanks_append, after_text, ih, withoutBlanks_text]
    cases htoken : lexeme.token? <;> simp [tokens, htoken]

/-- A word does not read as an operator. -/
theorem eq_operator_of_token? {lexeme : Lexeme} {direction : Direction}
    (h : lexeme.token? = some direction.operator) : lexeme = .operator direction := by
  rcases lexeme with ⟨c, hblank⟩ | other | part
  · cases h
  · have hother := congrArg operator? (Option.some.inj h)
    rw [Redirection.operator?_operator, Redirection.operator?_operator] at hother
    rw [Option.some.inj hother]
  · have htext : part.text = direction.operator.toList := by
      rw [← Option.some.inj h, String.toList_ofList]
    have hshown : Shows [] endsWord direction.operator.toList := by
      rcases direction with _ | _ | _ <;> decide
    exact absurd (htext ▸ hshown) part.hidden

/-- Each place of the text is in one of the lexemes. -/
theorem exists_place {lexemes : List Lexeme} {before rest : List Char} {c : Char}
    (h : joined lexemes = before ++ c :: rest) :
    ∃ earlier lexeme later front back, lexemes = earlier ++ lexeme :: later ∧
      before = joined earlier ++ front ∧ lexeme.text = front ++ c :: back ∧
        rest = back ++ joined later := by
  induction lexemes generalizing before with
  | nil => exact absurd h.symm (by simp)
  | cons lexeme lexemes ih =>
    rw [joined_cons] at h
    rcases List.append_eq_append_iff.mp h with ⟨front, rfl, hothers⟩ | ⟨back, htext, hback⟩
    · obtain ⟨earlier, other, later, front, back, rfl, rfl, htext, rfl⟩ := ih hothers
      exact ⟨lexeme :: earlier, other, later, front, back, rfl, by simp, htext, rfl⟩
    · cases back with
      | nil =>
        obtain ⟨earlier, other, later, front, back, rfl, hfront, hother, rfl⟩ :=
          @ih [] hback.symm
        obtain ⟨hearlier, rfl⟩ := List.append_eq_nil_iff.mp hfront.symm
        refine ⟨lexeme :: earlier, other, later, [], back, rfl, ?_, hother, rfl⟩
        rw [joined_cons, hearlier, htext]
        simp
      | cons d back =>
        obtain ⟨rfl, rfl⟩ := List.cons.inj hback
        exact ⟨[], lexeme, lexemes, before, back, rfl, rfl, htext, rfl⟩

/-- Only words have places that are not in the open. -/
theorem exists_word_of_not_exposes {lexeme : Lexeme} {front back : List Char} {c : Char}
    (htext : lexeme.text = front ++ c :: back) (h : (after [] front).exposes c = false) :
    ∃ part, lexeme = .word part := by
  have hopen (hends : ∀ d ∈ lexeme.text, endsWord d = true) :
      (after [] front).exposes c = true := by
    rw [htext] at hends
    obtain ⟨hfront, hback⟩ := List.forall_mem_append.mp hends
    rw [after_of_quoteless fun d hd => not_quote_of_endsWord (hfront d hd)]
    exact exposes_iff.mpr ⟨rfl, not_quote_of_endsWord (hback c List.mem_cons_self)⟩
  rcases lexeme with ⟨d, hblank⟩ | direction | part
  · have hends : ∀ e ∈ [d], endsWord e = true := by simpa using endsWord_of_isBlank hblank
    exact absurd (hopen hends) (h ▸ Bool.false_ne_true)
  · have hends : ∀ e ∈ direction.operator.toList, endsWord e = true := by
      rcases direction with _ | _ | _ <;> simp [Direction.operator, endsWord]
    exact absurd (hopen hends) (h ▸ Bool.false_ne_true)
  · exact ⟨part, rfl⟩

end Lexeme

/-! ### The tokens of a stage -/

/-- The tokens of a stage are the only ones that keep to the rules, and they are the text without
the blanks in the open. Every lexeme stands outside quotes, no word reads as an operator, and what
is quoted stands in a word together with its quotes. -/
theorem tokenize_divides {stage : String} {tokens : List String}
    (h : tokenize stage = .ok tokens) :
    (∀ others, (∃ lexemes, Lexeme.Division stage.toList lexemes ∧ Lexeme.tokens lexemes = others) ↔
      others = tokens) ∧
    tokens.flatMap String.toList = withoutBlanks [] stage.toList ∧
    ∀ lexemes, Lexeme.Division stage.toList lexemes →
      (∀ earlier lexeme later, lexemes = earlier ++ lexeme :: later →
        after [] (Lexeme.joined earlier) = [] ∧
          ∀ direction, lexeme.token? = some direction.operator → lexeme = .operator direction) ∧
      ∀ before c rest, stage.toList = before ++ c :: rest → (after [] before).exposes c = false →
        ∃ earlier part later front back, lexemes = earlier ++ .word part :: later ∧
          before = Lexeme.joined earlier ++ front ∧ part.text = front ++ c :: back ∧
            rest = back ++ Lexeme.joined later := by
  have htokens := tokenize_eq_ok_iff.mp h
  have hunbroken : ¬ BreaksInside [] stage.toList :=
    (@tokens_of_tokensFrom [] "" _ _ WordPart.nil h).1.unbroken
  obtain ⟨lexemes, hdivision, hlexemes⟩ := Lexeme.Division.exists_of_tokens htokens
  refine ⟨fun others => ⟨?_, ?_⟩, ?_, ?_⟩
  · rintro ⟨cut, hcut, rfl⟩
    exact (hcut.tokens hunbroken).unique htokens
  · rintro rfl
    exact ⟨lexemes, hdivision, hlexemes⟩
  · rw [← hdivision.joined_eq, Lexeme.withoutBlanks_joined, hlexemes]
  · intro cut hcut
    refine ⟨?_, ?_⟩
    · rintro earlier lexeme later -
      exact ⟨Lexeme.after_joined earlier, fun _ => Lexeme.eq_operator_of_token?⟩
    · intro before c rest hplace hquoted
      obtain ⟨earlier, lexeme, later, front, back, rfl, rfl, htext, rfl⟩ :=
        Lexeme.exists_place (hcut.joined_eq.trans hplace)
      rw [after_append, Lexeme.after_joined] at hquoted
      obtain ⟨part, rfl⟩ := Lexeme.exists_word_of_not_exposes htext hquoted
      exact ⟨earlier, part, later, front, back, rfl, rfl, htext, rfl⟩

theorem tokenize_divides_outputs :
    tokenize "a '> 'b>>>c" = .ok ["a", "'> 'b", ">>", ">", "c"] ∧
      withoutBlanks [] "a '> 'b>>>c".toList = "a'> 'b>>>c".toList ∧
        ∃ lexemes, Lexeme.Division "a '> 'b>>>c".toList lexemes ∧
          Lexeme.tokens lexemes = ["a", "'> 'b", ">>", ">", "c"] := by
  have h : tokenize "a '> 'b>>>c" = .ok ["a", "'> 'b", ">>", ">", "c"] := by decide +kernel
  obtain ⟨honly, hblanks, -⟩ := tokenize_divides h
  exact ⟨h, hblanks.symm.trans (by decide), (honly _).mpr rfl⟩

end LineShell
