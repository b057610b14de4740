import LineShell.CommandLine
import LineShell.Proofs.Draining

/-!
# The turns of a console

A console reads a line, evaluates it unless it is blank, and goes on where the applications of the
line have left off. These turns are described here as a relation, without a bound on their number,
and reading a text comes to what they come to. Every byte belongs to one line or is taken by one
application, up to the end or to an exit request.
-/

namespace LineShell

open Text

/-! ### Reading a line -/

namespace Console

theorem nextLine?_of_feed {content : Bytes} (h : 0x0A ∉ content) (rest : Bytes) :
    nextLine? (content ++ 0x0A :: rest) =
      some (if content.getLast? = some 0x0D then content.dropLast else content, rest) := by
  have hspan : (content ++ 0x0A :: rest).span (· != 0x0A) = (content, 0x0A :: rest) := by
    have hne : ∀ byte ∈ content, (byte != 0x0A) = true := fun byte hbyte => by
      simpa using ne_of_mem_of_not_mem hbyte h
    rw [List.span_eq_takeWhile_dropWhile, List.takeWhile_append_of_pos hne,
      List.dropWhile_append_of_pos hne]
    simp
  simp only [nextLine?, hspan]
  rw [if_neg (by simp)]
  simp

theorem nextLine?_of_no_feed {content : Bytes} (h : 0x0A ∉ content) (hne : content ≠ []) :
    nextLine? content = some (content, []) := by
  have hspan : content.span (· != 0x0A) = (content, []) := by
    have hne : ∀ byte ∈ content, (byte != 0x0A) = true := fun byte hbyte => by
      simpa using ne_of_mem_of_not_mem hbyte h
    rw [List.span_eq_takeWhile_dropWhile, List.takeWhile_eq_self_iff.mpr hne,
      List.dropWhile_eq_nil_iff.mpr hne]
  simp only [nextLine?, hspan]
  rw [if_neg (by simpa using hne)]
  simp

/-- What is left to read begins with these bytes, and they make up the line, with the rest behind
them. -/
structure Offers (unread raw : Bytes) (line : List Char) (rest : Bytes) : Prop where
  split : unread = raw ++ rest
  ne_nil : raw ≠ []
  reads : ∃ bytes text, nextLine? unread = some (bytes, rest) ∧
    Utf8.decode? bytes = some text ∧ line = applyBackspaces text

namespace Offers

variable {unread raw other rest left : Bytes} {line text : List Char}

theorem unique (h : Offers unread raw line rest) (hother : Offers unread other text left) :
    raw = other ∧ line = text ∧ rest = left := by
  obtain ⟨hsplit, -, bytes, whole, hnext, hdecode, rfl⟩ := h
  obtain ⟨hother, -, bytes', whole', hnext', hdecode', rfl⟩ := hother
  obtain ⟨rfl, rfl⟩ := Prod.mk.inj (Option.some.inj (hnext.symm.trans hnext'))
  obtain rfl := Option.some.inj (hdecode.symm.trans hdecode')
  exact ⟨List.append_cancel_right (hsplit.symm.trans hother), rfl, rfl⟩

theorem unread_ne_nil (h : Offers unread raw line rest) : unread ≠ [] := by
  rw [h.split]
  exact List.append_ne_nil_of_left_ne_nil h.ne_nil rest

theorem length_lt (h : Offers unread raw line rest) : rest.length < unread.length := by
  rw [h.split, List.length_append]
  have := List.length_pos_iff.mpr h.ne_nil
  omega

end Offers

/-- There is always a line of a text, and text behind it. -/
theorem exists_offers {unread : Bytes} (htext : Utf8.IsText unread) (hne : unread ≠ []) :
    ∃ raw line rest, Offers unread raw line rest ∧ Utf8.IsText rest := by
  by_cases hfeed : (0x0A : UInt8) ∈ unread
  · obtain ⟨content, rest, rfl, hcontent⟩ := List.eq_append_cons_of_mem hfeed
    obtain ⟨hbefore, hrest⟩ := htext.of_append_cons (by decide)
    have hkept : Utf8.IsText
        (if content.getLast? = some 0x0D then content.dropLast else content) := by
      split
      · next hreturn =>
        obtain ⟨init, rfl⟩ := List.getLast?_eq_some_iff.mp hreturn
        rw [List.dropLast_concat]
        exact (hbefore.of_append_cons (by decide)).1
      · exact hbefore
    obtain ⟨text, hdecode⟩ := Option.isSome_iff_exists.mp hkept
    refine ⟨content ++ [0x0A], _, rest, ⟨by simp, by simp, _, text, ?_, hdecode, rfl⟩, hrest⟩
    exact nextLine?_of_feed hcontent rest
  · obtain ⟨text, hdecode⟩ := Option.isSome_iff_exists.mp htext
    exact ⟨unread, _, [], ⟨(List.append_nil _).symm, hne, _, text, nextLine?_of_no_feed hfeed hne,
      hdecode, rfl⟩, rfl⟩

theorem applyBackspaces_of_notMem {line : List Char} (h : '\x08' ∉ line) :
    applyBackspaces line = line := by
  rw [applyBackspaces, if_neg (by simpa using h)]

/-- The carriage return that ends the bytes is the one that ends the text. -/
theorem encode_dropReturn (line : List Char) :
    (if (Utf8.encode line).getLast? = some 0x0D then (Utf8.encode line).dropLast
      else Utf8.encode line) = Utf8.encode (dropReturn line) := by
  rcases line.eq_nil_or_concat with rfl | ⟨init, c, rfl⟩
  · rfl
  · rw [List.concat_eq_append, Utf8.encode_append]
    have hlast : Utf8.encode [c] = String.utf8EncodeChar c := by simp [Utf8.encode]
    by_cases hc : c = '\r'
    · subst hc
      have hreturn : Utf8.encode ['\r'] = [0x0D] := by decide
      simp [hreturn, dropReturn]
    · have hne : Utf8.encode [c] ≠ [] := by
        rw [hlast, ← List.length_pos_iff, String.length_utf8EncodeChar]
        exact c.utf8Size_pos
      rw [if_neg, dropReturn, if_neg (by simpa using hc), Utf8.encode_append]
      rw [List.getLast?_append_of_ne_nil _ hne]
      intro hbyte
      have hmem := List.mem_of_getLast? hbyte
      rw [hlast] at hmem
      have := Utf8.eq_of_mem_utf8EncodeChar hmem (by decide)
      exact hc (Char.toNat_inj.mp this)

theorem offers_line {line : List Char} (hfeed : '\n' ∉ line) (hback : '\x08' ∉ line)
    (rest : Bytes) :
    Offers (Utf8.encode line ++ 0x0A :: rest) (Utf8.encode line ++ [0x0A]) (dropReturn line)
      rest := by
  have hbytes : (0x0A : UInt8) ∉ Utf8.encode line := fun hmem =>
    hfeed (Utf8.mem_encode hmem (by decide))
  have hnot : '\x08' ∉ dropReturn line := by
    unfold dropReturn
    split
    · exact fun hmem => hback (List.mem_of_mem_dropLast hmem)
    · exact hback
  refine ⟨by simp, by simp, _, dropReturn line, nextLine?_of_feed hbytes rest, ?_,
    (applyBackspaces_of_notMem hnot).symm⟩
  rw [encode_dropReturn]
  exact Utf8.decode?_encode _

end Console

/-! ### Turns -/

/-- The exit status that a line asks for. -/
def exitStatus? : Except ShellError Unit → Option Int
  | .error (.exit code) => some code
  | _ => none

namespace Console

/-- The run in which a console evaluates a line. -/
def start (console : Console) : Run :=
  ⟨⟨console.world, ⟨.ofBytes console.unread, .unlimited⟩⟩, []⟩

/-- What is told of a failure that is no exit request. -/
def complaint : Except ShellError Unit → Bytes
  | .ok _ => []
  | .error e => if e.isExit then [] else Utf8.encode (e.message ++ "\n").toList

/-- The console after a line whose evaluation has come to this. -/
def follow (console : Console) (outcome : Except ShellError Unit) (after : Run) : Console :=
  ⟨after.job.world, after.input.unread, console.output ++ after.output.collected,
    console.errors ++ complaint outcome⟩

/-- The console with nothing left to read but these bytes. -/
def withUnread (console : Console) (unread : Bytes) : Console := { console with unread }

section Evaluate

variable {shell : Interpreter} {console : Console} {line : String}

theorem evaluate_of_ends {outcome : Except ShellError Unit} {after : Run}
    (h : (shell.evaluate line).Ends console.start outcome after) :
    console.evaluate shell line = some (console.follow outcome after, outcome) := by
  cases outcome with
  | ok _ =>
    have hline : shell.evaluate line console.start = some (.ok () after) := h
    unfold evaluate
    simp only [start] at hline
    simp [hline, follow, complaint]
  | error e =>
    have hline : shell.evaluate line console.start = some (.error e after) := h
    unfold evaluate
    simp only [start] at hline
    cases hexit : e.isExit <;> simp [hline, follow, complaint, report, hexit]

theorem evaluate_eq_none (h : shell.evaluate line console.start = none) :
    console.evaluate shell line = none := by
  unfold evaluate
  simp only [start] at h
  simp [h]

end Evaluate

/-- What a console does with the bytes that make up its next line. -/
inductive Turn
  | skipped (raw : Bytes)
  | evaluated (raw taken : Bytes) (line : String) (start : Run) (outcome : Except ShellError Unit)
      (after : Run)

/-- The bytes of a line and those that its applications take. -/
def Turn.bytes : Turn → Bytes
  | .skipped raw => raw
  | .evaluated raw taken _ _ _ _ => raw ++ taken

/-- The turns of a console up to the end of what there is to read, or to an exit request. -/
inductive Takes (shell : Interpreter) : Console → List Turn → Console → Int → Prop
  | ends {console : Console} (nothing : console.unread = []) : Takes shell console [] console 0
  | skips {console last : Console} {raw rest : Bytes} {line : List Char} {turns : List Turn}
      {status : Int} (offers : Offers console.unread raw line rest)
      (blank : line.all isBlank = true)
      (others : Takes shell (console.withUnread rest) turns last status) :
      Takes shell console (.skipped raw :: turns) last status
  | exits {console : Console} {raw rest taken : Bytes} {line : List Char} {after : Run} {code : Int}
      {outcome : Except ShellError Unit} (offers : Offers console.unread raw line rest)
      (solid : line.all isBlank = false)
      (ran : (shell.evaluate (String.ofList line)).Ends (console.withUnread rest).start outcome
        after)
      (leaves : rest = taken ++ after.input.unread) (exit : exitStatus? outcome = some code) :
      Takes shell console
        [.evaluated raw taken (String.ofList line) (console.withUnread rest).start outcome after]
        (console.follow outcome after) code
  | continues {console last : Console} {raw rest taken : Bytes} {line : List Char}
      {turns : List Turn} {status : Int} {outcome : Except ShellError Unit} {after : Run}
      (offers : Offers console.unread raw line rest) (solid : line.all isBlank = false)
      (ran : (shell.evaluate (String.ofList line)).Ends (console.withUnread rest).start outcome
        after)
      (leaves : rest = taken ++ after.input.unread) (stays : exitStatus? outcome = none)
      (others : Takes shell (console.follow outcome after) turns last status) :
      Takes shell console
        (.evaluated raw taken (String.ofList line) (console.withUnread rest).start outcome after ::
          turns)
        last status

section Reading

variable {shell : Interpreter} {console : Console} {raw rest : Bytes} {line : List Char}

/-- One turn, whatever may follow. -/
theorem readLines_of_offers (h : Offers console.unread raw line rest) (fuel : Nat) :
    readLines shell (fuel + 1) console =
      if line.all isBlank then readLines shell fuel (console.withUnread rest)
      else
        match (console.withUnread rest).evaluate shell (String.ofList line) with
        | none => none
        | some (next, outcome) =>
          match exitStatus? outcome with
          | some code => some (next, code)
          | none => readLines shell fuel next := by
  obtain ⟨-, -, bytes, text, hnext, hdecode, rfl⟩ := h
  rw [readLines]
  simp only [hnext, hdecode]
  show (if _ then _ else _) = _
  congr 1
  cases hline : (console.withUnread rest).evaluate shell (String.ofList (applyBackspaces text)) with
  | none => simp only [withUnread] at hline; simp [hline]
  | some result =>
    obtain ⟨next, outcome⟩ := result
    simp only [withUnread] at hline
    rcases outcome with e | _
    · cases e <;> simp [hline, exitStatus?]
    · simp [hline, exitStatus?]

theorem readLines_of_nothing (h : console.unread = []) (fuel : Nat) :
    readLines shell fuel console = some (console, 0) := by
  cases fuel with
  | zero => rfl
  | succ fuel =>
    rw [readLines, h]
    rfl

end Reading

namespace Takes

variable {shell : Interpreter} {console last : Console} {raw rest : Bytes} {line : List Char}
  {turns : List Turn} {status : Int}

theorem of_nothing (h : Takes shell console turns last status) (hnothing : console.unread = []) :
    turns = [] ∧ last = console ∧ status = 0 := by
  cases h with
  | ends => exact ⟨rfl, rfl, rfl⟩
  | skips offers | exits offers | continues offers => exact absurd hnothing offers.unread_ne_nil

/-- The first turn at a blank line. -/
theorem of_blank (h : Takes shell console turns last status)
    (hoffers : Offers console.unread raw line rest) (hblank : line.all isBlank = true) :
    ∃ others, turns = .skipped raw :: others ∧
      Takes shell (console.withUnread rest) others last status := by
  cases h with
  | ends nothing => exact absurd nothing hoffers.unread_ne_nil
  | skips offers blank others =>
    obtain ⟨rfl, rfl, rfl⟩ := hoffers.unique offers
    exact ⟨_, rfl, others⟩
  | exits offers solid | continues offers solid =>
    obtain ⟨rfl, rfl, rfl⟩ := hoffers.unique offers
    rw [hblank] at solid
    cases solid

/-- The first turn at any other line. -/
theorem of_solid (h : Takes shell console turns last status)
    (hoffers : Offers console.unread raw line rest) (hsolid : line.all isBlank = false) :
    ∃ outcome after taken others,
      (shell.evaluate (String.ofList line)).Ends (console.withUnread rest).start outcome after ∧
      rest = taken ++ after.input.unread ∧
      turns = .evaluated raw taken (String.ofList line) (console.withUnread rest).start outcome
        after :: others ∧
      ((∃ code, exitStatus? outcome = some code ∧ others = [] ∧
          last = console.follow outcome after ∧ status = code) ∨
        exitStatus? outcome = none ∧
          Takes shell (console.follow outcome after) others last status) := by
  cases h with
  | ends nothing => exact absurd nothing hoffers.unread_ne_nil
  | skips offers blank =>
    obtain ⟨rfl, rfl, rfl⟩ := hoffers.unique offers
    rw [blank] at hsolid
    cases hsolid
  | exits offers solid ran leaves exit =>
    obtain ⟨rfl, rfl, rfl⟩ := hoffers.unique offers
    exact ⟨_, _, _, _, ran, leaves, rfl, .inl ⟨_, exit, rfl, rfl, rfl⟩⟩
  | continues offers solid ran leaves stays others =>
    obtain ⟨rfl, rfl, rfl⟩ := hoffers.unique offers
    exact ⟨_, _, _, _, ran, leaves, rfl, .inr ⟨stays, others⟩⟩

end Takes

section Exists

variable {shell : Interpreter} {console last : Console} {raw rest taken : Bytes} {line : List Char}
  {outcome : Except ShellError Unit} {after : Run} {status : Int}

theorem exists_takes_blank (hoffers : Offers console.unread raw line rest)
    (hblank : line.all isBlank = true) :
    (∃ turns, Takes shell console turns last status) ↔
      ∃ turns, Takes shell (console.withUnread rest) turns last status := by
  constructor
  · rintro ⟨turns, hturns⟩
    obtain ⟨others, -, hothers⟩ := hturns.of_blank hoffers hblank
    exact ⟨others, hothers⟩
  · rintro ⟨turns, hturns⟩
    exact ⟨_, .skips hoffers hblank hturns⟩

theorem exists_takes_solid (hoffers : Offers console.unread raw line rest)
    (hsolid : line.all isBlank = false)
    (hends : (shell.evaluate (String.ofList line)).Ends (console.withUnread rest).start outcome
      after) (hleaves : rest = taken ++ after.input.unread) :
    (∃ turns, Takes shell console turns last status) ↔
      exitStatus? outcome = some status ∧ last = console.follow outcome after ∨
        exitStatus? outcome = none ∧
          ∃ turns, Takes shell (console.follow outcome after) turns last status := by
  constructor
  · rintro ⟨turns, hturns⟩
    obtain ⟨outcome', after', -, others, hends', -, -, hlater⟩ := hturns.of_solid hoffers hsolid
    obtain ⟨rfl, rfl⟩ := hends.unique hends'
    rcases hlater with ⟨code, hexit, -, rfl, rfl⟩ | ⟨hstays, hothers⟩
    · exact .inl ⟨hexit, rfl⟩
    · exact .inr ⟨hstays, others, hothers⟩
  · rintro (⟨hexit, rfl⟩ | ⟨hstays, others, hothers⟩)
    · exact ⟨_, .exits hoffers hsolid hends hleaves hexit⟩
    · exact ⟨_, .continues hoffers hsolid hends hleaves hstays hothers⟩

theorem not_takes_of_none {turns : List Turn} (hoffers : Offers console.unread raw line rest)
    (hsolid : line.all isBlank = false)
    (hnone : shell.evaluate (String.ofList line) (console.withUnread rest).start = none) :
    ¬ Takes shell console turns last status := by
  intro hturns
  obtain ⟨outcome, after, -, -, hends, -⟩ := hturns.of_solid hoffers hsolid
  cases outcome <;> simp [Eval.Ends, hnone] at hends

end Exists

/-! ### What the turns take -/

section Builtins

variable {depth : Nat} {console last : Console} {line : String} {turns : List Turn}
  {outcome : Except ShellError Unit} {after : Run} {status : Int}

/-- The line has left the input alone, and would end in the same way on any other one; or one
application has taken all of it. -/
def Turn.Accounts (depth : Nat) : Turn → Prop
  | .skipped _ => True
  | .evaluated _ taken line start outcome after =>
    taken = [] ∧ (Interpreter.evaluate ⟨builtins, depth⟩ line).Ignores start outcome after ∨
      taken = start.input.unread ∧ start.Drains after

/-- What a line takes of a text that is behind it. -/
theorem exists_taken (htext : Utf8.IsText console.unread)
    (h : (Interpreter.evaluate ⟨builtins, depth⟩ line).Ends console.start outcome after)
    (raw : Bytes) :
    ∃ taken, console.unread = taken ++ after.input.unread ∧ Utf8.IsText after.input.unread ∧
      (Turn.evaluated raw taken line console.start outcome after).Accounts depth := by
  rcases (Interpreter.noneOrAll_evaluate depth line _ _ _ h).2 htext with
    ⟨hkept, hany⟩ | ⟨hdrained, hdrains⟩
  · refine ⟨[], by rw [hkept]; rfl, by rwa [hkept], .inl ⟨rfl, hkept, hany⟩⟩
  · refine ⟨console.unread, ?_, by rw [hdrained]; rfl, .inr ⟨rfl, hdrains⟩⟩
    rw [hdrained]
    exact (List.append_nil _).symm

/-- Reading a text comes to what its turns come to. -/
theorem readLines_eq_some_iff {fuel : Nat} (htext : Utf8.IsText console.unread)
    (hfuel : console.unread.length < fuel) :
    readLines ⟨builtins, depth⟩ fuel console = some (last, status) ↔
      ∃ turns, Takes ⟨builtins, depth⟩ console turns last status := by
  induction fuel generalizing console with
  | zero => omega
  | succ fuel ih =>
    by_cases hnothing : console.unread = []
    · rw [readLines_of_nothing hnothing, Option.some.injEq, Prod.mk.injEq]
      constructor
      · rintro ⟨rfl, rfl⟩
        exact ⟨[], .ends hnothing⟩
      · rintro ⟨turns, hturns⟩
        obtain ⟨-, rfl, rfl⟩ := hturns.of_nothing hnothing
        exact ⟨rfl, rfl⟩
    · obtain ⟨raw, line, rest, hoffers, hrest⟩ := exists_offers htext hnothing
      -- Every line takes a byte at least, so that there is enough fuel for the others.
      have hshorter : (console.withUnread rest).unread.length < fuel :=
        Nat.lt_of_lt_of_le hoffers.length_lt (Nat.lt_succ_iff.mp hfuel)
      rw [readLines_of_offers hoffers]
      cases hline : line.all isBlank with
      | true => rw [if_pos rfl, ih hrest hshorter, exists_takes_blank hoffers hline]
      | false =>
        rw [if_neg Bool.false_ne_true]
        rcases (Interpreter.evaluate ⟨builtins, depth⟩ (String.ofList line)).eq_none_or_ends
          (console.withUnread rest).start with hnone | ⟨outcome, after, hends⟩
        · rw [evaluate_eq_none hnone]
          simp [not_takes_of_none hoffers hline hnone]
        · obtain ⟨taken, hleaves, hleft, -⟩ := exists_taken hrest hends raw
          have hless : after.input.unread.length < fuel := by
            rw [hleaves, List.length_append] at hshorter
            omega
          rw [evaluate_of_ends hends, exists_takes_solid hoffers hline hends hleaves]
          cases hexit : exitStatus? outcome with
          | some code => simp [hexit, follow, withUnread, eq_comm, and_comm]
          | none =>
            simp only [hexit, reduceCtorEq, false_and, true_and, false_or]
            exact ih hleft hless

theorem Offers.isText {unread raw rest : Bytes} {line : List Char}
    (h : Offers unread raw line rest) (htext : Utf8.IsText unread) : Utf8.IsText rest := by
  obtain ⟨_, _, left, hoffers, hleft⟩ := exists_offers htext h.unread_ne_nil
  obtain ⟨-, -, rfl⟩ := h.unique hoffers
  exact hleft

theorem accounts_of_ends (raw : Bytes) {taken : Bytes} (htext : Utf8.IsText console.unread)
    (h : (Interpreter.evaluate ⟨builtins, depth⟩ line).Ends console.start outcome after)
    (hleaves : console.unread = taken ++ after.input.unread) :
    Utf8.IsText after.input.unread ∧
      (Turn.evaluated raw taken line console.start outcome after).Accounts depth := by
  obtain ⟨other, hsplit, hleft, haccounts⟩ := exists_taken htext h raw
  obtain rfl := List.append_cancel_right (hleaves.symm.trans hsplit)
  exact ⟨hleft, haccounts⟩

/-- In every turn on a text, one application takes what the line does not leave. -/
theorem Takes.accounts (h : Takes ⟨builtins, depth⟩ console turns last status)
    (htext : Utf8.IsText console.unread) : ∀ turn ∈ turns, turn.Accounts depth := by
  induction h with
  | ends => simp
  | skips offers blank others ih =>
    exact List.forall_mem_cons.mpr ⟨trivial, ih (offers.isText htext)⟩
  | @exits console raw rest taken line after code outcome offers solid ran leaves =>
    have hrest : Utf8.IsText (console.withUnread rest).unread := offers.isText htext
    simpa using (accounts_of_ends raw hrest ran leaves).2
  | @continues console last raw rest taken line turns status outcome after offers solid ran leaves
      stays others ih =>
    have hrest : Utf8.IsText (console.withUnread rest).unread := offers.isText htext
    obtain ⟨hleft, haccounts⟩ := accounts_of_ends raw hrest ran leaves
    exact List.forall_mem_cons.mpr ⟨haccounts, ih hleft⟩

end Builtins

section Account

variable {shell : Interpreter} {console last : Console} {turns : List Turn} {status : Int}

/-- No byte is left out, and none is used twice. -/
theorem Takes.unread_eq (h : Takes shell console turns last status) :
    console.unread = turns.flatMap Turn.bytes ++ last.unread := by
  induction h with
  | ends nothing => simp [nothing]
  | skips offers blank others ih =>
    rw [offers.split, List.flatMap_cons, List.append_assoc, ← ih]
    rfl
  | exits offers solid ran leaves =>
    rw [offers.split, leaves]
    simp [Turn.bytes, follow]
  | continues offers solid ran leaves stays others ih =>
    rw [offers.split, leaves, List.flatMap_cons, List.append_assoc, ← ih]
    simp [Turn.bytes, follow]

/-- The exit status that is asked for in a turn. -/
def Turn.exit? : Turn → Option Int
  | .skipped _ => none
  | .evaluated _ _ _ _ outcome _ => exitStatus? outcome

/-- The last turn asks for the exit status, and none before it asks for one. Or none does at all,
and the status is 0 where nothing is left to read. -/
def StopsWith (turns : List Turn) (status : Int) (left : Bytes) : Prop :=
  (∃ before turn, turns = before ++ [turn] ∧ (∀ turn ∈ before, turn.exit? = none) ∧
    turn.exit? = some status) ∨
  (∀ turn ∈ turns, turn.exit? = none) ∧ status = 0 ∧ left = []

theorem StopsWith.cons {turn : Turn} {left : Bytes} (hturn : turn.exit? = none)
    (h : StopsWith turns status left) : StopsWith (turn :: turns) status left := by
  rcases h with ⟨before, other, rfl, hbefore, hexit⟩ | ⟨hnone, hended⟩
  · exact .inl ⟨turn :: before, other, rfl, List.forall_mem_cons.mpr ⟨hturn, hbefore⟩, hexit⟩
  · exact .inr ⟨List.forall_mem_cons.mpr ⟨hturn, hnone⟩, hended⟩

theorem Takes.stopsWith (h : Takes shell console turns last status) :
    StopsWith turns status last.unread := by
  induction h with
  | ends nothing => exact .inr ⟨by simp, rfl, nothing⟩
  | skips offers blank others ih => exact ih.cons rfl
  | exits offers solid ran leaves exit => exact .inl ⟨[], _, rfl, by simp, exit⟩
  | continues offers solid ran leaves stays others ih => exact ih.cons stays

end Account

end Console

end LineShell
