import LineShell.Proofs.Deepening
import LineShell.Proofs.Turns

/-!
# Lines that are given and lines that are read

The program evaluates the first line that it reads as it evaluates the same line when it is given as
an argument, with what is behind the line as the input. Then it goes on, unless there was an exit
request, as it does in the world that the line has left, on what the line has left of the input.
-/

namespace LineShell

open Text

namespace Console

/-! ### Blank lines -/

/-- Lines that hold nothing but blanks have been put between lines, or at the end. -/
inductive Inserts : Bytes → Bytes → Prop
  | same (bytes : Bytes) : Inserts bytes bytes
  | line {content first second : Bytes} (whole : 0x0A ∉ content) (others : Inserts first second) :
      Inserts (content ++ 0x0A :: first) (content ++ 0x0A :: second)
  | blank {line : List Char} {first second : Bytes} (blank : line.all isBlank = true)
      (whole : '\n' ∉ line) (others : Inserts first second) :
      Inserts first (Utf8.encode line ++ 0x0A :: second)
  | last {line : List Char} (blank : line.all isBlank = true) (whole : '\n' ∉ line) :
      Inserts [] (Utf8.encode line)

theorem Inserts.isText {first second : Bytes} (h : Inserts first second)
    (htext : Utf8.IsText first) : Utf8.IsText second := by
  induction h with
  | same => exact htext
  | line whole others ih =>
    obtain ⟨hcontent, hfirst⟩ := htext.of_append_cons (by decide)
    exact hcontent.append_cons (by decide) (ih hfirst)
  | blank _ _ others ih => exact (Utf8.isText_encode _).append_cons (by decide) (ih htext)
  | last => exact Utf8.isText_encode _

section Insert

variable {shell : Interpreter} {console last : Console} {turns : List Turn} {status : Int}

/-- The evaluation of the line has not met the input. -/
def Turn.Ignores (shell : Interpreter) : Turn → Prop
  | .skipped _ => True
  | .evaluated _ _ line start outcome after => (shell.evaluate line).Ignores start outcome after

/-- The first line is the same whatever is behind it. -/
theorem Offers.exchange {content first raw rest : Bytes} {line : List Char}
    (hwhole : 0x0A ∉ content) (h : Offers (content ++ 0x0A :: first) raw line rest) :
    rest = first ∧ ∀ second, Offers (content ++ 0x0A :: second) raw line second := by
  obtain ⟨hsplit, hne, bytes, text, hnext, hdecode, rfl⟩ := h
  rw [nextLine?_of_feed hwhole, Option.some.injEq, Prod.mk.injEq] at hnext
  obtain ⟨rfl, rfl⟩ := hnext
  obtain rfl : content ++ [0x0A] = raw :=
    List.append_cancel_right (by rw [← hsplit, List.append_assoc]; rfl)
  exact ⟨rfl, fun second => ⟨by simp, hne, _, text, nextLine?_of_feed hwhole second, hdecode, rfl⟩⟩

theorem notMem_of_blank {line : List Char} (h : line.all isBlank = true) : '\x08' ∉ line :=
  fun hmem => absurd (List.all_eq_true.mp h _ hmem) (by decide)

theorem offers_blank {line : List Char} (hblank : line.all isBlank = true) (hwhole : '\n' ∉ line)
    (rest : Bytes) : ∃ raw other, Offers (Utf8.encode line ++ 0x0A :: rest) raw other rest ∧
      other.all isBlank = true := by
  refine ⟨_, _, offers_line hwhole (notMem_of_blank hblank) rest, ?_⟩
  unfold dropReturn
  split
  · exact List.all_eq_true.mpr fun c hc =>
      List.all_eq_true.mp hblank c (List.mem_of_mem_dropLast hc)
  · exact hblank

/-- The end of a text that no line feed ends is a line, too. -/
theorem offers_blank_end {line : List Char} (hblank : line.all isBlank = true)
    (hwhole : '\n' ∉ line) (hne : line ≠ []) :
    Offers (Utf8.encode line) (Utf8.encode line) line [] := by
  have hbytes : (0x0A : UInt8) ∉ Utf8.encode line := fun hmem =>
    hwhole (Utf8.mem_encode hmem (by decide))
  have hencode : Utf8.encode line ≠ [] := by
    intro hnil
    have hdecode := Utf8.decode?_encode line
    rw [hnil] at hdecode
    exact hne (Option.some.inj hdecode).symm
  exact ⟨(List.append_nil _).symm, hencode, _, line, nextLine?_of_no_feed hbytes hencode,
    Utf8.decode?_encode _, (applyBackspaces_of_notMem (notMem_of_blank hblank)).symm⟩

/-- Where no application reads, blank lines between the others are passed over, and that is all. -/
theorem Takes.insert {other : Bytes} (h : Takes shell console turns last status)
    (hinserts : Inserts console.unread other) (hignores : ∀ turn ∈ turns, turn.Ignores shell) :
    ∃ others left, Takes shell (console.withUnread other) others (last.withUnread left) status := by
  generalize hunread : console.unread = unread at hinserts
  induction hinserts generalizing console turns with
  | same =>
    subst hunread
    exact ⟨turns, last.unread, h⟩
  | blank blank whole others ih =>
    obtain ⟨more, left, hmore⟩ := ih h hignores hunread
    obtain ⟨raw, line, hoffers, hblank⟩ := offers_blank blank whole _
    exact ⟨_, left, .skips hoffers hblank hmore⟩
  | @last line blank whole =>
    obtain ⟨-, rfl, rfl⟩ := h.of_nothing hunread
    by_cases hempty : line = []
    · exact ⟨[], [], by rw [hempty]; exact .ends rfl⟩
    · exact ⟨_, [], .skips (offers_blank_end blank whole hempty) blank (.ends rfl)⟩
  | @line content first second whole others ih =>
    cases h with
    | ends nothing => simp [hunread] at nothing
    | skips offers blank turns =>
      rw [hunread] at offers
      obtain ⟨rfl, hoffers⟩ := offers.exchange whole
      obtain ⟨more, left, hmore⟩ := ih turns (List.forall_mem_cons.mp hignores).2 rfl
      exact ⟨_, left, .skips (hoffers second) blank hmore⟩
    | exits offers solid ran leaves exit =>
      rw [hunread] at offers
      obtain ⟨rfl, hoffers⟩ := offers.exchange whole
      obtain ⟨⟨-, hany⟩, -⟩ := List.forall_mem_cons.mp hignores
      have hexits : Takes shell (console.withUnread (content ++ 0x0A :: second)) _ _ _ :=
        .exits (hoffers second) solid (hany (.ofBytes second)) (List.nil_append _).symm exit
      exact ⟨_, second, hexits⟩
    | continues offers solid ran leaves stays turns =>
      rw [hunread] at offers
      obtain ⟨rfl, hoffers⟩ := offers.exchange whole
      obtain ⟨⟨hkept, hany⟩, hothers⟩ := List.forall_mem_cons.mp hignores
      obtain ⟨more, left, hmore⟩ := ih turns hothers (congrArg Source.unread hkept)
      exact ⟨_, left, .continues (hoffers second) solid (hany (.ofBytes second))
        (List.nil_append _).symm stays hmore⟩

end Insert

/-! ### Going on -/

section GoOn

variable {shell : Interpreter}

/-- The console behind what another one has written. -/
def behind (console first : Console) : Console :=
  { console with
    output := first.output ++ console.output
    errors := first.errors ++ console.errors }

theorem evaluate_behind (console first : Console) (line : String) :
    (console.behind first).evaluate shell line =
      (console.evaluate shell line).map fun result => (result.1.behind first, result.2) := by
  have hstart : (console.behind first).start = console.start := rfl
  rcases (shell.evaluate line).eq_none_or_ends console.start with
    hnone | ⟨outcome, after, hends⟩
  · rw [evaluate_eq_none hnone, evaluate_eq_none (hstart ▸ hnone)]
    rfl
  · rw [evaluate_of_ends hends, evaluate_of_ends (hstart ▸ hends)]
    simp [follow, behind]

/-- What has been written before makes no difference. -/
theorem readLines_behind (fuel : Nat) (console first : Console) :
    readLines shell fuel (console.behind first) =
      (readLines shell fuel console).map fun result => (result.1.behind first, result.2) := by
  induction fuel generalizing console with
  | zero => rfl
  | succ fuel ih =>
    have hunread : (console.behind first).unread = console.unread := rfl
    rw [readLines, readLines, hunread]
    cases hnext : nextLine? console.unread with
    | none => rfl
    | some next =>
      obtain ⟨bytes, rest⟩ := next
      cases hdecode : Utf8.decode? bytes with
      | none => simp [report, behind, hdecode]
      | some text =>
        simp only [hdecode]
        by_cases hblank : (applyBackspaces text).all isBlank = true
        · rw [if_pos hblank, if_pos hblank]
          exact ih (console.withUnread rest)
        · rw [if_neg hblank, if_neg hblank]
          have hevaluate : ((console.withUnread rest).behind first).evaluate shell
              (String.ofList (applyBackspaces text)) = _ := evaluate_behind _ first _
          simp only [behind, withUnread] at hevaluate
          simp only [behind]
          rw [hevaluate]
          cases hline : Console.evaluate { console with unread := rest } shell
            (String.ofList (applyBackspaces text)) with
          | none => rfl
          | some result =>
            obtain ⟨next, e | _⟩ := result
            · cases e <;> first | rfl | exact ih next
            · exact ih next

end GoOn

/-! ### More depth -/

section Deeper

variable {depth deeper : Nat} {console next last : Console} {line : String} {status : Int}
  {outcome : Except ShellError Unit}

theorem evaluate_of_le (hdeeper : depth ≤ deeper)
    (h : console.evaluate ⟨builtins, depth⟩ line = some (next, outcome)) :
    console.evaluate ⟨builtins, deeper⟩ line = some (next, outcome) := by
  rcases (Interpreter.evaluate ⟨builtins, depth⟩ line).eq_none_or_ends console.start with
    hnone | ⟨ended, after, hends⟩
  · rw [evaluate_eq_none hnone] at h
    cases h
  · rw [evaluate_of_ends hends] at h
    rw [evaluate_of_ends (Interpreter.ends_evaluate_of_le hdeeper hends), h]

theorem once_of_le (hdeeper : depth ≤ deeper)
    (h : console.once ⟨builtins, depth⟩ line = some (last, status)) :
    console.once ⟨builtins, deeper⟩ line = some (last, status) := by
  unfold once at h ⊢
  cases hevaluate : console.evaluate ⟨builtins, depth⟩ line with
  | none => simp [hevaluate] at h
  | some ended =>
    rw [hevaluate] at h
    rw [evaluate_of_le hdeeper hevaluate]
    exact h

theorem readLines_of_le {fuel : Nat} (hdeeper : depth ≤ deeper)
    (h : readLines ⟨builtins, depth⟩ fuel console = some (last, status)) :
    readLines ⟨builtins, deeper⟩ fuel console = some (last, status) := by
  induction fuel generalizing console with
  | zero => exact h
  | succ fuel ih =>
    rw [readLines] at h ⊢
    cases hnext : nextLine? console.unread with
    | none => rwa [hnext] at h
    | some taken =>
      obtain ⟨bytes, rest⟩ := taken
      simp only [hnext] at h ⊢
      cases hdecode : Utf8.decode? bytes with
      | none => rwa [hdecode] at h
      | some text =>
        simp only [hdecode] at h ⊢
        by_cases hblank : (applyBackspaces text).all isBlank = true
        · rw [if_pos hblank] at h ⊢
          exact ih h
        · rw [if_neg hblank] at h ⊢
          cases hevaluate : ({ console with unread := rest } : Console).evaluate ⟨builtins, depth⟩
              (String.ofList (applyBackspaces text)) with
          | none => simp [hevaluate] at h
          | some ended =>
            rw [hevaluate] at h
            rw [evaluate_of_le hdeeper hevaluate]
            obtain ⟨next, e | _⟩ := ended
            · cases e with
              | exit code => exact h
              | _ => exact ih h
            · exact ih h

end Deeper

section Lines

variable {depth : Nat} {console : Console}

theorem interact_eq_some_iff {last : Console} {status : Int}
    (htext : Utf8.IsText console.unread) :
    console.interact ⟨builtins, depth⟩ = some (last, status) ↔
      ∃ turns, Takes ⟨builtins, depth⟩ console turns last status :=
  readLines_eq_some_iff htext (Nat.lt_succ_self _)

theorem readLines_eq_interact {fuel : Nat} (htext : Utf8.IsText console.unread)
    (hfuel : console.unread.length < fuel) :
    readLines ⟨builtins, depth⟩ fuel console = console.interact ⟨builtins, depth⟩ :=
  Option.ext fun _ => (readLines_eq_some_iff htext hfuel).trans (interact_eq_some_iff htext).symm

/-- A console that begins in a world with these bytes to read. -/
def begin (world : World) (input : Bytes) : Console := ⟨world, input, [], []⟩

/-- What the program leaves behind when it ends with the status. -/
def outcome (console : Console) (status : Int) : CommandLine.Outcome :=
  ⟨console.output, console.errors, (status % 256).toNat, console.world.files⟩

/-- The status of the program after a single line. -/
def statusOf : Except ShellError Unit → Int
  | .ok () => 0
  | .error (.exit code) => code
  | .error _ => 1

theorem once_of_ends {shell : Interpreter} {line : String} {outcome : Except ShellError Unit}
    {after : Run} (h : (shell.evaluate line).Ends console.start outcome after) :
    console.once shell line = some (console.follow outcome after, statusOf outcome) := by
  rw [once, evaluate_of_ends h]
  rcases outcome with e | _
  · cases e <;> rfl
  · rfl

/-- The text is evaluated, and as it stands, when it is read as a line. -/
structure Plain (line : List Char) : Prop where
  solid : line.all isBlank = false
  whole : '\n' ∉ line
  kept : '\x08' ∉ line
  ended : line.getLast? ≠ some '\r'

/-- The first line that is read ends the turns with an exit request, or the console goes on. -/
theorem interact_line (depth : Nat) (world : World) {line : List Char} {rest : Bytes}
    (hline : Plain line) (htext : Utf8.IsText rest) :
    (begin world (Utf8.encode line ++ 0x0A :: rest)).interact ⟨builtins, depth⟩ =
      match (begin world rest).evaluate ⟨builtins, depth⟩ (String.ofList line) with
      | none => none
      | some (next, outcome) =>
        match exitStatus? outcome with
        | some code => some (next, code)
        | none => next.interact ⟨builtins, depth⟩ := by
  have hoffers := offers_line hline.whole hline.kept rest
  rw [dropReturn, if_neg hline.ended] at hoffers
  rw [interact, readLines_of_offers hoffers, if_neg (by simp [hline.solid])]
  have hrest : (begin world (Utf8.encode line ++ 0x0A :: rest)).withUnread rest =
      begin world rest := rfl
  rw [hrest]
  rcases (Interpreter.evaluate ⟨builtins, depth⟩ (String.ofList line)).eq_none_or_ends
    (begin world rest).start with hnone | ⟨outcome, after, hends⟩
  · rw [evaluate_eq_none hnone]
  · rw [evaluate_of_ends hends]
    obtain ⟨taken, hleaves, hleft, -⟩ := exists_taken htext hends []
    have hless : after.input.unread.length < (Utf8.encode line ++ 0x0A :: rest).length := by
      have hlength : rest.length = (taken ++ after.input.unread).length := congrArg _ hleaves
      rw [List.length_append] at hlength
      rw [List.length_append, List.length_cons]
      omega
    simp only
    cases exitStatus? outcome with
    | some code => rfl
    | none => exact readLines_eq_interact hleft hless

theorem begin_behind (console : Console) :
    (begin console.world console.unread).behind console = console := by
  simp [begin, behind]

theorem interact_behind (shell : Interpreter) (console : Console) :
    console.interact shell = ((begin console.world console.unread).interact shell).map
      fun ended => (ended.1.behind console, ended.2) := by
  have h : readLines shell _ ((begin console.world console.unread).behind console) = _ :=
    readLines_behind (console.unread.length + 1) (begin console.world console.unread) console
  rw [begin_behind] at h
  exact h

end Lines

end Console

/-- The outcome behind what has been written before. -/
def CommandLine.Outcome.behind (outcome : CommandLine.Outcome) (first : Console) :
    CommandLine.Outcome :=
  { outcome with
    output := first.output ++ outcome.output
    errors := first.errors ++ outcome.errors }

namespace CommandLine

variable {depth : Nat} {world : World} {input : Bytes}

theorem run_given (line : String) :
    run depth ["-c", line] input world =
      ((Console.begin world input).once (shell depth) line).map
        fun ended => ended.1.outcome ended.2 := by
  have hscan : usage.scan ["-c", line] = .ok (some ⟨[], [("--command", line)], []⟩) := by rfl
  rw [run, hscan]
  rfl

theorem run_reading :
    run depth [] input world =
      ((Console.begin world input).interact (shell depth)).map
        fun ended => ended.1.outcome ended.2 := by
  have hscan : usage.scan [] = .ok (some ⟨[], [], []⟩) := by rfl
  rw [run, hscan]
  rfl

/-- The program, going on after a line. -/
theorem run_behind (console : Console) :
    (console.interact (shell depth)).map (fun ended => ended.1.outcome ended.2) =
      (run depth [] console.unread console.world).map (·.behind console) := by
  rw [run_reading, Console.interact_behind, Option.map_map, Option.map_map]
  rfl

section Line

variable {line : String} {rest : Bytes} {outcome : Except ShellError Unit} {after : Run}

theorem run_line_eq_none (hline : Console.Plain line.toList) (htext : Utf8.IsText rest)
    (hnone : (shell depth).evaluate line (Console.begin world rest).start = none) :
    run depth ["-c", line] rest world = none ∧
      run depth [] (Utf8.encode line.toList ++ 0x0A :: rest) world = none := by
  have hinteract := Console.interact_line depth world hline htext
  rw [String.ofList_toList, ← shell, Console.evaluate_eq_none hnone] at hinteract
  refine ⟨?_, by rw [run_reading, hinteract]; rfl⟩
  rw [run_given, Console.once, Console.evaluate_eq_none hnone]
  rfl

theorem run_given_of_ends
    (h : ((shell depth).evaluate line).Ends (Console.begin world rest).start outcome after) :
    run depth ["-c", line] rest world =
      some (((Console.begin world rest).follow outcome after).outcome
        (Console.statusOf outcome)) := by
  rw [run_given, Console.once_of_ends h]
  rfl

theorem run_reading_of_ends (hline : Console.Plain line.toList) (htext : Utf8.IsText rest)
    (h : ((shell depth).evaluate line).Ends (Console.begin world rest).start outcome after) :
    run depth [] (Utf8.encode line.toList ++ 0x0A :: rest) world =
      match exitStatus? outcome with
      | some code => some (((Console.begin world rest).follow outcome after).outcome code)
      | none => (run depth [] after.input.unread after.job.world).map
          (·.behind ((Console.begin world rest).follow outcome after)) := by
  have hinteract := Console.interact_line depth world hline htext
  rw [String.ofList_toList, ← shell, Console.evaluate_of_ends h] at hinteract
  rw [run_reading]
  cases hexit : exitStatus? outcome with
  | some code =>
    simp only [hexit] at hinteract
    rw [hinteract]
    rfl
  | none =>
    simp only [hexit] at hinteract
    rw [hinteract]
    exact run_behind ((Console.begin world rest).follow outcome after)

theorem statusOf_of_exitStatus? {code : Int} (h : exitStatus? outcome = some code) :
    Console.statusOf outcome = code := by
  rcases outcome with e | _
  · cases e <;> simp_all [exitStatus?, Console.statusOf]
  · cases h

end Line

/-- Blank lines do not matter where no application reads. -/
theorem run_insert {other : Bytes} {turns : List Console.Turn} {last : Console} {status : Int}
    (htext : Utf8.IsText input)
    (h : Console.Takes (shell depth) (Console.begin world input) turns last status)
    (hinserts : Console.Inserts input other)
    (hignores : ∀ turn ∈ turns, turn.Ignores (shell depth)) :
    run depth [] other world = some (last.outcome status) := by
  obtain ⟨others, left, hothers⟩ := h.insert hinserts hignores
  have hinteract : (Console.begin world other).interact ⟨builtins, depth⟩ =
      some (last.withUnread left, status) :=
    (Console.interact_eq_some_iff (hinserts.isText htext)).mpr ⟨others, hothers⟩
  rw [run_reading, shell, hinteract]
  rfl

/-- What the program does at some depth, it does at every greater one. -/
theorem run_of_le {deeper : Nat} {args : List String} {outcome : Outcome} (hdeeper : depth ≤ deeper)
    (h : run depth args input world = some outcome) :
    run deeper args input world = some outcome := by
  unfold run at h ⊢
  rcases hscan : usage.scan args with fault | _ | arguments
  · rwa [hscan] at h
  · rwa [hscan] at h
  · rw [hscan] at h
    obtain ⟨ended, hended, rfl⟩ := Option.map_eq_some_iff.mp h
    refine Option.map_eq_some_iff.mpr ⟨ended, ?_, rfl⟩
    cases hline : arguments.value? "--command" with
    | some line =>
      rw [hline] at hended
      exact Console.once_of_le hdeeper hended
    | none =>
      rw [hline] at hended
      exact Console.readLines_of_le hdeeper hended

end CommandLine

/-- **Lines that are read and lines that are given.** The first line that the program reads is
evaluated as if it were given as an argument, with what is behind the line as the input. Then the
program ends, if the line asks for it, or goes on as it does in the world that the line has left, on
what no application of the line has taken; and where nothing is left it ends well. So a text falls
into lines and into what single applications take, up to an exit request, and blank lines change
nothing where no application reads. All this holds at every depth that substitutions may have, and
what the program does at one depth it does at every greater one. -/
theorem lines_read_as_given (depth : Nat) (world : World) :
    (∀ (line : String) (rest : Bytes), Console.Plain line.toList → Utf8.IsText rest →
      let start := (Console.begin world rest).start
      let input := Utf8.encode line.toList ++ 0x0A :: rest
      ((CommandLine.shell depth).evaluate line start = none →
        CommandLine.run depth ["-c", line] rest world = none ∧
          CommandLine.run depth [] input world = none) ∧
      ∀ outcome after, ((CommandLine.shell depth).evaluate line).Ends start outcome after →
        let next := (Console.begin world rest).follow outcome after
        CommandLine.run depth ["-c", line] rest world =
          some (next.outcome (Console.statusOf outcome)) ∧
        (∃ taken, rest = taken ++ next.unread ∧
          (taken = [] ∧ ((CommandLine.shell depth).evaluate line).Ignores start outcome after ∨
            taken = rest ∧ start.Drains after)) ∧
        (∀ code, exitStatus? outcome = some code →
          CommandLine.run depth [] input world = CommandLine.run depth ["-c", line] rest world) ∧
        (exitStatus? outcome = none →
          CommandLine.run depth [] input world =
            (CommandLine.run depth [] next.unread next.world).map (·.behind next))) ∧
    CommandLine.run depth [] [] world = some ⟨[], [], 0, world.files⟩ ∧
    (∀ input outcome, Utf8.IsText input → CommandLine.run depth [] input world = some outcome →
      ∃ turns last status,
        Console.Takes (CommandLine.shell depth) (Console.begin world input) turns last status ∧
        outcome = last.outcome status ∧
        input = turns.flatMap Console.Turn.bytes ++ last.unread ∧
        (∀ turn ∈ turns, turn.Accounts depth) ∧
        Console.StopsWith turns status last.unread ∧
        ∀ other, Console.Inserts input other →
          (∀ turn ∈ turns, turn.Ignores (CommandLine.shell depth)) →
            CommandLine.run depth [] other world = some outcome) ∧
    ∀ deeper ≥ depth, ∀ args input outcome, CommandLine.run depth args input world = some outcome →
      CommandLine.run deeper args input world = some outcome := by
  refine ⟨fun line rest hline htext => ⟨CommandLine.run_line_eq_none hline htext,
    fun outcome after hends => ?_⟩, ?_, fun input outcome htext hran => ?_,
    fun deeper hdeeper args input outcome => CommandLine.run_of_le hdeeper⟩
  · have hgiven := CommandLine.run_given_of_ends hends
    have hreading := CommandLine.run_reading_of_ends hline htext hends
    obtain ⟨taken, hleaves, -, htaken⟩ := Console.exists_taken htext hends []
    refine ⟨hgiven, ⟨taken, hleaves, htaken⟩, fun code hexit => ?_, fun hstays => ?_⟩
    · rw [hreading, hexit, hgiven, CommandLine.statusOf_of_exitStatus? hexit]
    · rw [hreading, hstays]
      rfl
  · rw [CommandLine.run_reading]
    rfl
  · rw [CommandLine.run_reading, Option.map_eq_some_iff] at hran
    obtain ⟨⟨last, status⟩, hinteract, rfl⟩ := hran
    obtain ⟨turns, hturns⟩ := (Console.interact_eq_some_iff htext).mp hinteract
    exact ⟨turns, last, status, hturns, rfl, hturns.unread_eq, hturns.accounts htext,
      hturns.stopsWith, fun other => CommandLine.run_insert htext hturns⟩

/-- The first line gives everything behind it to `cat`. The second one leaves it all, since it asks
for an exit. -/
theorem lines_read_as_given_cat :
    let world : World := ⟨.withDirectory "/", .empty⟩
    let written := FileTree.empty.insert ["f"] (.file [0x78, 0x0A])
    let behind (line : String) : Bytes := Utf8.encode line.toList ++ [0x0A, 0x78, 0x0A]
    CommandLine.run 0 ["-c", "cat > f"] [0x78, 0x0A] world = some ⟨[], [], 0, written⟩ ∧
      CommandLine.run 0 [] (behind "cat > f") world = some ⟨[], [], 0, written⟩ ∧
      CommandLine.run 0 [] (behind "exit 259") world = some ⟨[], [], 3, .empty⟩ := by
  intro world written behind
  have hcat : ((CommandLine.shell 0).evaluate "cat > f").Ends
      (Console.begin world [0x78, 0x0A]).start (.ok ())
      ⟨⟨⟨.withDirectory "/", written⟩, ⟨.empty, .unlimited⟩⟩, [.ran "cat" none]⟩ := by
    decide +kernel
  have hexit : ((CommandLine.shell 0).evaluate "exit 259").Ends
      (Console.begin world [0x78, 0x0A]).start (.error (.exit 259))
      ⟨⟨world, ⟨.ofBytes [0x78, 0x0A], .unlimited⟩⟩, [.ran "exit" (some (.exit 259))]⟩ := by
    decide +kernel
  have htext : Utf8.IsText [0x78, 0x0A] := by rfl
  obtain ⟨hlines, -⟩ := lines_read_as_given 0 world
  obtain ⟨-, hended, -⟩ := lines_read_as_given 0 ⟨.withDirectory "/", written⟩
  obtain ⟨hgiven, -, -, hstays⟩ := (hlines "cat > f" [0x78, 0x0A]
    ⟨by decide, by decide, by decide, by decide⟩ htext).2 _ _ hcat
  obtain ⟨hgiven', -, hstops, -⟩ := (hlines "exit 259" [0x78, 0x0A]
    ⟨by decide, by decide, by decide, by decide⟩ htext).2 _ _ hexit
  refine ⟨hgiven, (hstays rfl).trans ?_, (hstops 259 rfl).trans hgiven'⟩
  exact congrArg (Option.map _) hended

end LineShell
