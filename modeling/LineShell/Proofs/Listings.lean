import Mathlib
import LineShell.Proofs.Expansion
import LineShell.Proofs.Feeding

/-!
# Listings and stars

Both `ls` and a star behind a slash show the names in a directory. `ls` sorts the names and writes
them. A pattern puts the directory in front of each name, keeps the results that it matches, and
sorts these. A name holds no slash, so a lone star keeps all of them, and what stands in front of
every name has no part in their order. So the two show the same, but for a directory that has
nothing to show: there the pattern stands for itself.
-/

namespace LineShell

/-! ### The names that are shown -/

/-- The name does not begin with a dot. -/
def isVisible (name : String) : Bool := name.toList.head? != some '.'

section Names

variable {names : List String}

/-- A list of texts can be sorted in one way only. -/
theorem mergeSort_eq_of_perm {sorted : List String} (hperm : sorted.Perm names)
    (hsorted : sorted.Pairwise (· ≤ ·)) : names.mergeSort (· ≤ ·) = sorted :=
  ((List.mergeSort_perm names _).trans hperm.symm).eq_of_pairwise'
    (List.pairwise_mergeSort' (· ≤ ·) names) hsorted

/-- What stands in front of every name has no part in their order. -/
theorem mergeSort_map_append (front : String) (names : List String) :
    (names.map (front ++ ·)).mergeSort (· ≤ ·) = (names.mergeSort (· ≤ ·)).map (front ++ ·) := by
  refine mergeSort_eq_of_perm ((List.mergeSort_perm names _).map _) ?_
  refine (List.pairwise_mergeSort' (· ≤ ·) names).map _ fun name other hle => ?_
  rcases hle.eq_or_lt with rfl | hlt
  · exact le_rfl
  · refine (String.lt_iff_toList_lt.mpr ?_).le
    rw [String.toList_append, String.toList_append]
    exact List.append_left_lt (String.lt_iff_toList_lt.mp hlt)

theorem shownNames_true (names : List String) :
    shownNames true names = names.mergeSort (· ≤ ·) := by
  simp [shownNames]

/-- Names may be left out before they are sorted or afterwards. -/
theorem shownNames_false (names : List String) :
    shownNames false names = (shownNames true names).filter isVisible := by
  rw [shownNames_true]
  exact mergeSort_eq_of_perm ((List.mergeSort_perm names _).filter isVisible)
    ((List.pairwise_mergeSort' (· ≤ ·) names).filter isVisible)

end Names

/-! ### What `ls` does -/

/-- The arguments ask `ls` for the names in a directory, or in the current one where none is named,
either for all of them or for those that do not begin with a dot. -/
def AsksToList (args : List String) (all : Bool) (directory : Option String) : Prop :=
  ∃ found, lsUsage.scan args = .ok (some found) ∧ found.has "--all" = all ∧
    found.operand? = directory

/-- A switch for all names, and behind it the directory if one is named. -/
def listArgs (all : Bool) (directory : Option String) : List String :=
  (if all then ["-a"] else []) ++ directory.elim [] (Usage.behindDashes false)

theorem asksToList_listArgs (all : Bool) (directory : Option String) :
    AsksToList (listArgs all directory) all directory := by
  have hswitch : ∃ found, lsUsage.scanFrom .start (if all then ["-a"] else []) =
      .ok ⟨false, false, found⟩ ∧ found.has "--all" = all ∧ found.operands = [] := by
    cases all with
    | false => exact ⟨⟨[], [], []⟩, rfl, rfl, rfl⟩
    | true => exact ⟨⟨["--all"], [], []⟩, rfl, rfl, rfl⟩
  obtain ⟨found, hscan, hall, hoperands⟩ := hswitch
  have hmissing (given : Nat) : lsUsage.missing given = [] := by
    cases given <;> simp [Usage.missing, lsUsage]
  cases directory with
  | none =>
    rw [listArgs, Option.elim_none, List.append_nil]
    exact ⟨found, Usage.scan_eq_some hscan (hmissing _), hall, by
      rw [Arguments.operand?, hoperands]
      rfl⟩
  | some name =>
    have hspec : Usage.operandAt? lsUsage.operands found.operands.length =
        lsUsage.operands.head? := by
      rw [hoperands]
      rfl
    have hname := Usage.scanFrom_behindDashes name hscan hspec rfl
    exact ⟨_, Usage.scan_eq_some hname (hmissing _), hall, by
      rw [Arguments.operand?, hoperands]
      rfl⟩

/-- What is written of the names: each on a line of its own. -/
def namesText (names : List String) : Bytes :=
  Utf8.encode (Text.unlines (names.map String.toList))

/-- What the directory holds, or why it cannot be listed. -/
def World.listing (world : World) (directory : Option String) : Except IoFault (List String) :=
  world.files.list (world.environment.resolve (directory.getD "."))

/-- How `ls` reports that it cannot list the directory. -/
def unlisted (directory : Option String) (fault : IoFault) : ShellError :=
  .application "ls" (directory.getD "." ++ ": " ++ fault.describe)

section Runs

variable {args : List String} {all : Bool} {directory : Option String} {run : Run}

theorem ls_apply (h : AsksToList args all directory) (job : Job) :
    ls args job =
      match job.world.listing directory with
      | .ok entries => emit "ls" (Text.unlines ((shownNames all entries).map String.toList)) job
      | .error fault => .error (unlisted directory fault) job := by
  obtain ⟨found, hscan, rfl, rfl⟩ := h
  rw [ls, Usage.application_of_scan hscan, World.listing]
  simp only [listDirectory, bind, EStateM.bind, Job.environment, Job.files]
  cases job.world.files.list (job.world.environment.resolve (found.operand?.getD ".")) <;> rfl

theorem ends_ls {entries : List String} (h : AsksToList args all directory)
    (hlisting : run.job.world.listing directory = .ok entries)
    (hfits : run.output.Fits (namesText (shownNames all entries))) :
    (builtins.run "ls" args).Ends run (.ok ())
      ⟨(run.wrote (namesText (shownNames all entries))).job, .ran "ls" none :: run.history⟩ := by
  have hlookup : builtins.lookup "ls" = some ls := rfl
  have hemits : (Eval.onJob (emit "ls" (Text.unlines
      ((shownNames all entries).map String.toList)))).Ends run (.ok ())
      (run.wrote (namesText (shownNames all entries))) :=
    Eval.ends_onJob_write.mpr (.inl ⟨hfits, rfl, rfl⟩)
  refine ends_run_of_eq hlookup ?_ hemits
  rw [ls_apply h, hlisting]

theorem ends_ls_error {fault : IoFault} (h : AsksToList args all directory)
    (hlisting : run.job.world.listing directory = .error fault) :
    (builtins.run "ls" args).Ends run (.error (unlisted directory fault))
      ⟨run.job, .ran "ls" (some (unlisted directory fault)) :: run.history⟩ := by
  have hlookup : builtins.lookup "ls" = some ls := rfl
  refine ends_run_of_error hlookup ?_
  rw [ls_apply h, hlisting]

end Runs

/-- In this world, `ls` shows the names of the directory: all of them or those that do not begin
with a dot, in the order of their bytes. It writes them, each on a line of its own, wherever there
is room for that, and does nothing else. -/
structure World.Shows (world : World) (all : Bool) (directory : Option String)
    (names : List String) : Prop where
  perm : ∃ entries, world.listing directory = .ok entries ∧
    names.Perm (entries.filter fun name => all || isVisible name)
  ascending : names.Pairwise BytesBefore
  written : ∀ args run, AsksToList args all directory → run.job.world = world →
    run.output.Fits (namesText names) →
      (builtins.run "ls" args).Ends run (.ok ())
        ⟨(run.wrote (namesText names)).job, .ran "ls" none :: run.history⟩

/-- In this world, `ls` of the directory ends with the error, and does nothing else. -/
def World.Refuses (world : World) (directory : Option String) (e : ShellError) : Prop :=
  ∀ all args run, AsksToList args all directory → run.job.world = world →
    (builtins.run "ls" args).Ends run (.error e) ⟨run.job, .ran "ls" (some e) :: run.history⟩

namespace World

variable {world : World} {all : Bool} {directory : Option String} {entries names : List String}

/-- What a world shows of a directory is settled. -/
theorem Shows.unique {others : List String} (h : world.Shows all directory names)
    (hothers : world.Shows all directory others) : names = others := by
  obtain ⟨entries, hlisting, hperm⟩ := h.perm
  obtain ⟨same, hsame, hpermOthers⟩ := hothers.perm
  obtain rfl := Except.ok.inj (hlisting.symm.trans hsame)
  refine (hperm.trans hpermOthers.symm).eq_of_pairwise (fun name other _ _ hbefore hbehind => ?_)
    h.ascending hothers.ascending
  exact absurd hbehind (List.lt_asymm hbefore)

theorem shows_of_listing (h : world.listing directory = .ok entries) (all : Bool) :
    world.Shows all directory (shownNames all entries) where
  perm := ⟨entries, h, List.mergeSort_perm _ _⟩
  ascending := by
    obtain ⟨location, -, -, rfl⟩ := FileTree.list_eq_ok_iff.mp h
    exact Pattern.pairwise_bytesBefore_mergeSort ((world.files.nodup_namesIn location).filter _)
  written := by
    rintro args run hargs rfl hfits
    exact ends_ls hargs h hfits

theorem refuses_of_listing {fault : IoFault} (h : world.listing directory = .error fault) :
    world.Refuses directory (unlisted directory fault) := by
  rintro all args run hargs rfl
  exact ends_ls_error hargs h

/-- A directory that `ls` refuses cannot be listed. -/
theorem Refuses.listing_eq {e : ShellError} (h : world.Refuses directory e) :
    ∃ fault, world.listing directory = .error fault := by
  cases hlisting : world.listing directory with
  | error fault => exact ⟨fault, rfl⟩
  | ok entries =>
    let run : Run := ⟨⟨world, ⟨.empty, .unlimited⟩⟩, []⟩
    have hargs := asksToList_listArgs true directory
    have hends := (shows_of_listing hlisting true).written _ run hargs rfl
      (Sink.acceptsAll_unlimited _)
    cases (hends.unique (h true _ run hargs rfl)).1

end World

/-! ### The star in a directory -/

/-- What stands in front of the names: the directory as it is written and a slash, and nothing for
the current directory. -/
def inFront (directory : Option String) : String := directory.elim "" (· ++ "/")

namespace Pattern

/-- The pattern is made of the characters in front of the names, and one wildcard. -/
def IsStarIn (p : Pattern) (directory : Option String) : Prop :=
  p.pieces.toList = (inFront directory).toList.map .literal ++ [.wildcard]

instance (p : Pattern) (directory : Option String) : Decidable (p.IsStarIn directory) :=
  inferInstanceAs (Decidable (_ = _))

theorem slashed_inFront (directory : Option String) : Slashed '/' (inFront directory).toList := by
  cases directory with
  | none => exact .inl rfl
  | some name => exact .inr (by simp [inFront])

/-- Up to its last slash, the pattern names the directory again. -/
theorem directoryName_inFront {directory : Option String} (h : directory ≠ some "") :
    directoryName (inFront directory).toList = directory.getD "." := by
  cases directory with
  | none => rfl
  | some name =>
    have hname : name.toList ≠ [] := fun hnil => h (by rw [String.toList_eq_nil_iff.mp hnil])
    simp [inFront, directoryName, hname]

namespace IsStarIn

variable {p : Pattern} {world : World} {directory : Option String}

theorem plain_eq (hp : p.IsStarIn directory) : p.plain = (inFront directory).toList ++ ['*'] := by
  rw [plain, hp, List.map_append, List.map_map]
  simp [Function.comp_def, Piece.char]

theorem directoryPart_plain (hp : p.IsStarIn directory) :
    directoryPart p.plain = (inFront directory).toList := by
  rw [hp.plain_eq, directoryPart_append (slashed_inFront directory) (by simp)]

theorem hasWildcard (hp : p.IsStarIn directory) : p.hasWildcard = true := by
  rw [Pattern.hasWildcard, hp, List.contains_iff_mem]
  simp

/-- Behind the directory, a lone star matches every name. -/
theorem matchesText_name (hp : p.IsStarIn directory) {name : String} (h : '/' ∉ name.toList) :
    matchesText p.pieces.toList (inFront directory ++ name).toList = true := by
  have hslashed : Slashed (.literal '/') ((inFront directory).toList.map Piece.literal) := by
    rcases slashed_inFront directory with hnil | hlast
    · exact .inl (by rw [hnil]; rfl)
    · exact .inr (by rw [List.getLast?_map, hlast]; rfl)
  have hchars : ((inFront directory).toList.map Piece.literal).map Piece.char =
      (inFront directory).toList := by
    simp [Function.comp_def, Piece.char]
  have hfits : Fits (fun _ => True) [.wildcard] name.toList := by
    simpa using @Fits.wildcard _ name.toList [] [] (fun _ _ => trivial) .nil
  have hmatch := (matchesText_append_iff hslashed (by simp) h).mpr hfits
  rwa [hchars, ← String.toList_append, ← hp] at hmatch

theorem expand_of_candidates (hp : p.IsStarIn directory) {names : List String}
    (hcandidates : p.candidates world.environment world.files =
      names.map (inFront directory ++ ·))
    (hnames : ∀ name ∈ names, '/' ∉ name.toList) :
    p.expand world.environment world.files =
      if (shownNames true names).isEmpty then [inFront directory ++ "*"]
      else (shownNames true names).map (inFront directory ++ ·) := by
  have hall : (names.map (inFront directory ++ ·)).filter
      (matchesText p.pieces.toList ·.toList) = names.map (inFront directory ++ ·) := by
    refine List.filter_eq_self.mpr (List.forall_mem_map.mpr fun name hname => ?_)
    exact hp.matchesText_name (hnames name hname)
  have hplain : String.ofList p.plain = inFront directory ++ "*" := by
    apply String.toList_injective
    simp [hp.plain_eq]
  have hempty : (shownNames true names).isEmpty = names.isEmpty := by
    rw [shownNames_true, (List.mergeSort_perm names _).isEmpty_eq]
  rw [expand, if_pos hp.hasWildcard, hcandidates, hall, hplain, hempty]
  simp only [List.isEmpty_map, mergeSort_map_append, shownNames_true]

theorem expand_of_listing (hp : p.IsStarIn directory) (hdirectory : directory ≠ some "")
    (hnames : world.files.HasNames) {entries : List String}
    (h : world.listing directory = .ok entries) :
    p.expand world.environment world.files =
      if (shownNames true entries).isEmpty then [inFront directory ++ "*"]
      else (shownNames true entries).map (inFront directory ++ ·) := by
  obtain ⟨location, -, -, hentries⟩ := FileTree.list_eq_ok_iff.mp h
  rw [World.listing, ← directoryName_inFront hdirectory, ← hp.directoryPart_plain] at h
  refine hp.expand_of_candidates ?_ fun name hname => ?_
  · rw [candidates_of_ok h, hp.directoryPart_plain, String.ofList_toList]
  · rw [hentries] at hname
    exact FileTree.slash_notMem_of_mem_namesIn hnames hname

theorem expand_of_listing_error (hp : p.IsStarIn directory) (hdirectory : directory ≠ some "")
    {fault : IoFault} (h : world.listing directory = .error fault) :
    p.expand world.environment world.files = [inFront directory ++ "*"] := by
  rw [World.listing, ← directoryName_inFront hdirectory, ← hp.directoryPart_plain] at h
  have hnothing : p.candidates world.environment world.files =
      ([] : List String).map (inFront directory ++ ·) := candidates_of_error h
  simpa [shownNames] using hp.expand_of_candidates hnothing (by simp)

end IsStarIn

/-- **A star stands for what `ls` shows.** Where `ls` shows all the names in a directory, a star in
it stands for the same names in the same order, each behind the directory, and unless it is asked
for all, `ls` shows those of them that do not begin with a dot. Where there are no names, and where
`ls` refuses the directory, the star stands for itself. -/
theorem star_expands_as_listed (world : World) (hnames : world.files.HasNames)
    {directory : Option String} (hdirectory : directory ≠ some "") {p : Pattern}
    (hp : p.IsStarIn directory) :
    let expanded := p.expand world.environment world.files
    (∀ names, world.Shows true directory names →
      world.Shows false directory (names.filter isVisible) ∧
      (names ≠ [] → expanded = names.map (inFront directory ++ ·)) ∧
      (names = [] → expanded = [inFront directory ++ "*"])) ∧
    (∀ e, world.Refuses directory e → expanded = [inFront directory ++ "*"]) ∧
    ((∃ names, world.Shows true directory names) ∨ ∃ e, world.Refuses directory e) := by
  intro expanded
  refine ⟨fun names hshows => ?_, fun e hrefuses => ?_, ?_⟩
  · obtain ⟨entries, hlisting, -⟩ := hshows.perm
    obtain rfl := hshows.unique (World.shows_of_listing hlisting true)
    have hexpanded := hp.expand_of_listing hdirectory hnames hlisting
    refine ⟨?_, fun hsome => ?_, fun hnone => ?_⟩
    · rw [← shownNames_false]
      exact World.shows_of_listing hlisting false
    · exact hexpanded.trans (if_neg (by rwa [List.isEmpty_iff]))
    · exact hexpanded.trans (if_pos (by rwa [List.isEmpty_iff]))
  · obtain ⟨fault, hlisting⟩ := hrefuses.listing_eq
    exact hp.expand_of_listing_error hdirectory hlisting
  · cases hlisting : world.listing directory with
    | ok entries => exact .inl ⟨_, World.shows_of_listing hlisting true⟩
    | error fault => exact .inr ⟨_, World.refuses_of_listing hlisting⟩

/-- A link with a star in its name leads to a directory, in which another one holds nothing. -/
def linkedFiles : FileTree where
  entries := [(["d"], .directory), (["d", "b"], .file []), (["d", ".a"], .file []),
    (["d", "a*"], .directory), (["l*"], .link "d")]
  distinct := by decide

/-- Of the three directories, one shows names, one shows none, and one is not there. -/
theorem star_expands_as_listed_link :
    let world : World := ⟨.withDirectory "/", linkedFiles⟩
    let star (directory : String) := build [.text directory, .char '/', .wildcard]
    let missing := unlisted (some "m") .notFound
    linkedFiles.HasNames ∧
    (some "l*" ≠ some "" ∧ (star "l*").IsStarIn (some "l*") ∧
      world.Shows true (some "l*") [".a", "a*", "b"] ∧
      world.Shows false (some "l*") ["a*", "b"] ∧
      (star "l*").expand world.environment world.files = ["l*/.a", "l*/a*", "l*/b"]) ∧
    (some "l*/a*" ≠ some "" ∧ (star "l*/a*").IsStarIn (some "l*/a*") ∧
      world.Shows true (some "l*/a*") [] ∧
      (star "l*/a*").expand world.environment world.files = ["l*/a*/*"]) ∧
    some "m" ≠ some "" ∧ (star "m").IsStarIn (some "m") ∧ world.Refuses (some "m") missing ∧
      (star "m").expand world.environment world.files = ["m/*"] := by
  intro world star missing
  have hnames : linkedFiles.HasNames := by simp [FileTree.HasNames, linkedFiles]
  have hlink : (star "l*").IsStarIn (some "l*") := by decide +kernel
  have hempty : (star "l*/a*").IsStarIn (some "l*/a*") := by decide +kernel
  have hmissing : (star "m").IsStarIn (some "m") := by decide +kernel
  have hsorted : shownNames true ["b", ".a", "a*"] = [".a", "a*", "b"] := by
    simp [shownNames, List.mergeSort, List.MergeSort.Internal.splitInTwo]
  have hshows : world.Shows true (some "l*") [".a", "a*", "b"] := by
    rw [← hsorted]
    exact World.shows_of_listing (by decide +kernel) true
  have hnothing : world.Shows true (some "l*/a*") [] := by
    have hlisting : world.listing (some "l*/a*") = .ok [] := by decide +kernel
    simpa [shownNames] using World.shows_of_listing hlisting true
  have hrefuses : world.Refuses (some "m") missing :=
    World.refuses_of_listing (by decide +kernel)
  obtain ⟨hlinked, -, -⟩ := star_expands_as_listed world hnames (by decide) hlink
  obtain ⟨hnone, -, -⟩ := star_expands_as_listed world hnames (by decide) hempty
  obtain ⟨-, hrefused, -⟩ := star_expands_as_listed world hnames (by decide) hmissing
  obtain ⟨hvisible, hexpanded, -⟩ := hlinked _ hshows
  refine ⟨hnames, ⟨by decide, hlink, hshows, hvisible, hexpanded (by decide)⟩,
    ⟨by decide, hempty, hnothing, (hnone _ hnothing).2.2 rfl⟩, by decide, hmissing, hrefuses,
    hrefused _ hrefuses⟩

end Pattern

end LineShell
