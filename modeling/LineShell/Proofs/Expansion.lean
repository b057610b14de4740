import Mathlib
import LineShell.Proofs.ByteOrder
import LineShell.Proofs.Matching
import LineShell.Proofs.Walks

/-!
# The arguments of a pattern

A pattern with wildcards stands for the names of one directory that fit its last component, each
behind the text up to the last slash, in the order of their bytes. What that text says names the
directory as it is written: a wildcard in it names a star. Where there is nothing to list, or
nothing that fits, the pattern stands for its plain text.
-/

namespace LineShell

namespace FileTree

variable {tree : FileTree} {links : Nat} {above location : Location} {parts : List String}

/-! ### Listing a directory -/

theorem list_eq_ok_iff {path : String} {names : List String} :
    tree.list path = .ok names ↔
      ∃ location, tree.locate false path = .ok location ∧
        tree.get? location = some .directory ∧ names = tree.namesIn location := by
  unfold list
  rw [bind_eq_ok]
  refine exists_congr fun location => and_congr_right fun _ => ?_
  split
  · next hdirectory =>
    rw [hdirectory]
    exact ⟨fun h => ⟨rfl, (Except.ok.inj h).symm⟩, fun h => congrArg Except.ok h.2.symm⟩
  · next hother => exact ⟨nofun, fun h => absurd h.1 (hother ·)⟩

/-- No name of an entry holds a slash. -/
def HasNames (tree : FileTree) : Prop :=
  ∀ entry ∈ tree.entries, ∀ name ∈ entry.1, '/' ∉ name.toList

theorem slash_notMem_of_mem_namesIn (h : tree.HasNames) {name : String}
    (hname : name ∈ tree.namesIn location) : '/' ∉ name.toList := by
  obtain ⟨entry, hentry, hlast⟩ := List.mem_filterMap.mp hname
  split at hlast
  · exact h entry hentry name (List.mem_of_getLast? hlast)
  · cases hlast

/-- A directory holds each of its names once. -/
theorem nodup_namesIn (tree : FileTree) (location : Location) : (tree.namesIn location).Nodup := by
  have hnames : tree.namesIn location = (tree.entries.map Prod.fst).filterMap fun place =>
      if place.dropLast = location then place.getLast? else none := by
    rw [List.filterMap_map]
    rfl
  have hplace {place : Location} {name : String}
      (h : name ∈ if place.dropLast = location then place.getLast? else none) :
      place = location ++ [name] := by
    split at h
    · next hparent => rw [← hparent, List.dropLast_append_getLast? name h]
    · cases h
  rw [hnames]
  exact tree.distinct.filterMap fun place other name hfirst hsecond =>
    (hplace hfirst).trans (hplace hsecond).symm

/-! ### The current directory by its dot -/

theorem Leads.append_stay {part : String} (h : Leads tree false links above parts location)
    (hdirectory : tree.get? location = some .directory) (hstays : part = "" ∨ part = ".") :
    Leads tree false links above (parts ++ [part]) location := by
  induction h with
  | stop => exact .stay hdirectory hstays .stop
  | stay isDirectory stays others ih => exact .stay isDirectory stays (ih hdirectory)
  | up isDirectory others ih => exact .up isDirectory (ih hdirectory)
  | down isDirectory plain inside short stands noLink others ih =>
    exact .down isDirectory plain nofun short stands noLink (ih hdirectory)
  | follow isDirectory plain inside short isLink others ih =>
    refine .follow isDirectory plain nofun short isLink ?_
    simpa only [List.append_assoc, List.append_eq] using ih hdirectory
  | create creates => cases creates

/-- The last part of a walk that stays in a directory may be left out. -/
theorem Leads.of_append_stay {part : String}
    (h : Leads tree false links above (parts ++ [part]) location)
    (hstays : part = "" ∨ part = ".") :
    Leads tree false links above parts location ∧ tree.get? location = some .directory := by
  generalize hwhole : parts ++ [part] = whole at h
  have hother {name : String} {rest : List String} (hname : name ≠ "" ∧ name ≠ ".")
      (h : [part] = name :: rest) : False := by
    obtain ⟨rfl, -⟩ := List.cons.inj h
    exact hstays.elim hname.1 hname.2
  induction h generalizing parts with
  | stop => cases (List.append_eq_nil_iff.mp hwhole).2
  | stay isDirectory stays others ih =>
    rcases List.append_eq_cons_iff.mp hwhole with ⟨rfl, hlast⟩ | ⟨parts, rfl, hrest⟩
    · obtain ⟨-, rfl⟩ := List.cons.inj hlast
      cases others
      exact ⟨.stop, isDirectory⟩
    · exact (ih hrest.symm).imp_left (.stay isDirectory stays)
  | up isDirectory others ih =>
    rcases List.append_eq_cons_iff.mp hwhole with ⟨-, hlast⟩ | ⟨parts, rfl, hrest⟩
    · exact (hother (by decide) hlast).elim
    · exact (ih hrest.symm).imp_left (.up isDirectory)
  | down isDirectory plain inside short stands noLink others ih =>
    rcases List.append_eq_cons_iff.mp hwhole with ⟨-, hlast⟩ | ⟨parts, rfl, hrest⟩
    · exact (hother (by simp_all) hlast).elim
    · exact (ih hrest.symm).imp_left (.down isDirectory plain nofun short stands noLink)
  | @follow _ _ _ _ target rest isDirectory plain inside short isLink others ih =>
    rcases List.append_eq_cons_iff.mp hwhole with ⟨-, hlast⟩ | ⟨parts, rfl, hrest⟩
    · exact (hother (by simp_all) hlast).elim
    · have hbehind : Path.parts target ++ parts ++ [part] = Path.parts target ++ rest := by
        rw [List.append_assoc, ← hrest]
      exact (ih hbehind).imp_left (.follow isDirectory plain nofun short isLink)
  | create creates => cases creates

theorem leads_append_stay_iff {part : String} (hstays : part = "" ∨ part = ".") :
    Leads tree false links above (parts ++ [part]) location ↔
      Leads tree false links above parts location ∧ tree.get? location = some .directory :=
  ⟨fun h => h.of_append_stay hstays, fun h => h.1.append_stay h.2 hstays⟩

/-- A dot behind the parts of a path lists what the path lists, whether or not the path ends in a
slash. -/
theorem list_append_dot_iff {dotted path : String} {names : List String}
    (hnul : '\x00' ∈ dotted.toList ↔ '\x00' ∈ path.toList)
    (hdotted : dotted.utf8ByteSize < pathLimit) (hpath : path.utf8ByteSize < pathLimit)
    (hdot : Path.parts dotted = parts ++ ["."])
    (hparts : Path.parts path = parts ∨ Path.parts path = parts ++ [""]) :
    tree.list dotted = .ok names ↔ tree.list path = .ok names := by
  rw [list_eq_ok_iff, list_eq_ok_iff]
  refine exists_congr fun location => ?_
  rw [← and_assoc, ← and_assoc, locate_eq_ok_iff, locate_eq_ok_iff, hdot,
    leads_append_stay_iff (.inr rfl)]
  rcases hparts with hparts | hparts
  · simp only [hparts, hnul, hdotted, hpath]
    tauto
  · simp only [hparts, hnul, hdotted, hpath, leads_append_stay_iff (.inl rfl)]

/-- The dot lists what the path of the current directory lists, unless it makes that path too
long. -/
theorem list_resolve_dot_iff {env : Environment} {names : List String}
    (hshort : env.directory.utf8ByteSize + 2 < pathLimit) :
    tree.list (env.resolve ".") = .ok names ↔ tree.list env.directory = .ok names := by
  have hdot : '/' ∉ ".".toList := by decide
  have hlimit : env.directory.utf8ByteSize < pathLimit := by omega
  obtain ⟨directory, hdirectory⟩ : ∃ directory, directory = env.directory := ⟨_, rfl⟩
  rw [Environment.resolve, Path.join, ← hdirectory]
  rw [← hdirectory] at hshort hlimit
  rw [if_neg (by decide)]
  split
  · next hends =>
    rcases Bool.or_eq_true_iff.mp hends with hempty | hslash
    · obtain rfl : directory = "" := String.isEmpty_iff.mp hempty
      exact @list_append_dot_iff _ [] "." "" _ (by decide) (by decide) hlimit (by decide)
        (.inr (by decide))
    · obtain ⟨front, hfront⟩ := List.getLast?_eq_some_iff.mp (beq_iff_eq.mp hslash)
      obtain rfl : directory = String.ofList front ++ "/" := by
        apply String.toList_injective
        simp [hfront]
      have hsame : String.ofList front ++ "/" = String.ofList front ++ "/" ++ "" := by simp
      refine list_append_dot_iff (by simp) ?_ hlimit (Path.parts_append_name hdot _) (.inr ?_)
      · rw [String.utf8ByteSize_append]
        exact lt_of_le_of_lt (Nat.add_le_add_left (by decide) _) hshort
      · rw [hsame]
        exact Path.parts_append_name (by decide) _
  · refine list_append_dot_iff (by simp) ?_ hlimit (Path.parts_append_name hdot _) (.inl rfl)
    rw [String.utf8ByteSize_append, String.utf8ByteSize_append]
    exact hshort

end FileTree

namespace Pattern

/-! ### Building a pattern -/

inductive Step
  | char (c : Char)
  | text (characters : String)
  | wildcard
  | quoted
  deriving DecidableEq

def Step.apply (p : Pattern) : Step → Pattern
  | .char c => p.pushChar c
  | .text characters => p.pushText characters.toList
  | .wildcard => p.pushWildcard
  | .quoted => p.markQuoted

/-- What a step adds: only the wildcard that is asked for is one, and a star in a text is none. -/
def Step.pieces : Step → List Piece
  | .char c => [.literal c]
  | .text characters => characters.toList.map .literal
  | .wildcard => [.wildcard]
  | .quoted => []

def build (steps : List Step) : Pattern := steps.foldl Step.apply empty

theorem pieces_pushText (p : Pattern) (text : List Char) :
    (p.pushText text).pieces.toList = p.pieces.toList ++ text.map .literal := by
  induction text generalizing p with
  | nil => simp [pushText]
  | cons c text ih =>
    have hpush : p.pushText (c :: text) = (p.pushChar c).pushText text := rfl
    simp [hpush, ih, pushChar]

theorem pieces_build (steps : List Step) :
    (build steps).pieces.toList = steps.flatMap Step.pieces := by
  have hfold (p : Pattern) : (steps.foldl Step.apply p).pieces.toList =
      p.pieces.toList ++ steps.flatMap Step.pieces := by
    induction steps generalizing p with
    | nil => simp
    | cons step steps ih =>
      have hstep : (step.apply p).pieces.toList = p.pieces.toList ++ step.pieces := by
        cases step with
        | char c => simp [Step.apply, Step.pieces, pushChar]
        | text characters => exact pieces_pushText p characters.toList
        | wildcard => simp [Step.apply, Step.pieces, pushWildcard]
        | quoted => simp [Step.apply, Step.pieces, markQuoted]
      rw [List.foldl_cons, ih, hstep, List.flatMap_cons, List.append_assoc]
  exact hfold empty

theorem hasWildcard_build {steps : List Step} (h : .wildcard ∈ steps) :
    (build steps).hasWildcard = true := by
  rw [hasWildcard, pieces_build, List.contains_iff_mem]
  exact List.mem_flatMap.mpr ⟨.wildcard, h, List.mem_singleton_self _⟩

/-! ### The names of one directory -/

theorem directoryPart_append {front name : List Char} (hfront : Slashed '/' front)
    (hname : '/' ∉ name) : directoryPart (front ++ name) = front := by
  have hskip : ∀ c ∈ name.reverse, (c != '/') = true := by
    intro c hc
    rw [bne_iff_ne]
    rintro rfl
    exact hname (List.mem_reverse.mp hc)
  rw [directoryPart, List.reverse_append, List.dropWhile_append_of_pos hskip]
  rcases hfront with rfl | hlast
  · rfl
  · obtain ⟨before, rfl⟩ := List.getLast?_eq_some_iff.mp hlast
    simp

section Candidates

variable {p : Pattern} {env : Environment} {files : FileTree}

theorem candidates_of_ok {names : List String}
    (h : files.list (env.resolve (directoryName (directoryPart p.plain))) = .ok names) :
    p.candidates env files = names.map (String.ofList (directoryPart p.plain) ++ ·) := by
  delta candidates
  simp only [h]

theorem candidates_of_error {fault : IoFault}
    (h : files.list (env.resolve (directoryName (directoryPart p.plain))) = .error fault) :
    p.candidates env files = [] := by
  delta candidates
  simp only [h]

end Candidates

theorem slash_notMem_plain {pieces : List Piece} (h : .literal '/' ∉ pieces) :
    '/' ∉ pieces.map Piece.char :=
  (Fits.plain (by decide) pieces).slash_notMem h

/-- The arguments that a pattern of these two parts stands for, if its directory is listed so. -/
inductive Expands (listing : Except IoFault (List String)) (front last : List Piece) :
    List String → Prop
  | plain (nothing : ∀ names, listing = .ok names →
        ∀ name ∈ names, ¬ Fits (fun _ => True) last name.toList) :
      Expands listing front last [String.ofList ((front ++ last).map Piece.char)]
  | matching {names results : List String} (listed : listing = .ok names)
      (something : ∃ name ∈ names, Fits (fun _ => True) last name.toList)
      (ascending : results.Pairwise BytesBefore)
      (mem_iff : ∀ result, result ∈ results ↔ ∃ name ∈ names,
        Fits (fun _ => True) last name.toList ∧
          result = String.ofList (front.map Piece.char) ++ name) :
      Expands listing front last results

/-- A list without repetitions, sorted as texts, is in the order of the bytes. -/
theorem pairwise_bytesBefore_mergeSort {results : List String} (h : results.Nodup) :
    (results.mergeSort (· ≤ ·)).Pairwise BytesBefore := by
  have hsorted : (results.mergeSort (· ≤ ·)).Pairwise (· ≤ ·) :=
    List.pairwise_mergeSort' (· ≤ ·) results
  have hnodup : (results.mergeSort (· ≤ ·)).Nodup := List.nodup_mergeSort.mpr h
  exact hsorted.imp₂ (fun a b hle hne => bytesBefore_iff.mpr (lt_of_le_of_ne hle hne)) hnodup

section Component

variable {front last : List Piece} {names : List String}

/-- Which results the whole pattern matches is settled by the names and the last component. -/
theorem mem_matching_iff (hfront : Slashed (.literal '/') front) (hlast : .literal '/' ∉ last)
    (hnames : ∀ name ∈ names, '/' ∉ name.toList) (result : String) :
    result ∈ (names.map (String.ofList (front.map Piece.char) ++ ·)).filter
        (matchesText (front ++ last) ·.toList) ↔
      ∃ name ∈ names, Fits (fun _ => True) last name.toList ∧
        result = String.ofList (front.map Piece.char) ++ name := by
  have hname {name : String} (h : name ∈ names) :=
    matchesText_append_iff hfront hlast (hnames name h)
  rw [List.mem_filter, List.mem_map]
  constructor
  · rintro ⟨⟨name, h, rfl⟩, hmatch⟩
    refine ⟨name, h, (hname h).mp ?_, rfl⟩
    simpa using hmatch
  · rintro ⟨name, h, hfits, rfl⟩
    refine ⟨⟨name, h, rfl⟩, ?_⟩
    simpa using (hname h).mpr hfits

theorem expands_names (hfront : Slashed (.literal '/') front) (hlast : .literal '/' ∉ last)
    (hnames : ∀ name ∈ names, '/' ∉ name.toList) (hnodup : names.Nodup) {matching : List String}
    (hmatching : matching = (names.map (String.ofList (front.map Piece.char) ++ ·)).filter
      (matchesText (front ++ last) ·.toList)) :
    Expands (.ok names) front last
      (if matching.isEmpty then [String.ofList ((front ++ last).map Piece.char)]
        else matching.mergeSort (· ≤ ·)) := by
  have hmem := mem_matching_iff hfront hlast hnames
  rw [← hmatching] at hmem
  split
  · next hempty =>
    refine .plain fun listed hlisted name h hfits => ?_
    obtain rfl := Except.ok.inj hlisted
    rw [List.isEmpty_iff.mp hempty] at hmem
    exact List.not_mem_nil ((hmem _).mpr ⟨name, h, hfits, rfl⟩)
  · next hsome =>
    obtain ⟨result, hresult⟩ := List.exists_mem_of_ne_nil matching (mt List.isEmpty_iff.mpr hsome)
    obtain ⟨name, h, hfits, -⟩ := (hmem result).mp hresult
    have hresults : matching.Nodup := by
      rw [hmatching]
      refine (hnodup.map fun name other h => ?_).filter _
      simpa using h
    exact .matching rfl ⟨name, h, hfits⟩ (pairwise_bytesBefore_mergeSort hresults)
      fun result => List.mem_mergeSort.trans (hmem result)

end Component

/-- A pattern with a wildcard is cut behind its last slash, and what is before it names a directory.
Behind that text, a name matches the whole pattern if it fits the last component alone. The pattern
stands for the names in the directory that do. -/
theorem expand_build {steps : List Step} (hwildcard : .wildcard ∈ steps) (env : Environment)
    {files : FileTree} (hnames : files.HasNames) :
    ∃ front last, steps.flatMap Step.pieces = front ++ last ∧
      Slashed (.literal '/') front ∧ .literal '/' ∉ last ∧
      (∀ name, '/' ∉ name →
        (matchesText (front ++ last) (front.map Piece.char ++ name) = true ↔
          Fits (fun _ => True) last name)) ∧
      (front = [] → env.directory.utf8ByteSize + 2 < FileTree.pathLimit → ∀ names,
        (files.list (env.resolve (directoryName (front.map Piece.char))) = .ok names ↔
          files.list env.directory = .ok names)) ∧
      Expands (files.list (env.resolve (directoryName (front.map Piece.char)))) front last
        ((build steps).expand env files) := by
  obtain ⟨front, last, hpieces, hfront, hlast⟩ :=
    exists_slashed (Piece.literal '/') (steps.flatMap Step.pieces)
  refine ⟨front, last, hpieces, hfront, hlast, fun name => matchesText_append_iff hfront hlast,
    ?_, ?_⟩
  · rintro rfl hshort names
    exact FileTree.list_resolve_dot_iff hshort
  have hplain : (build steps).plain = (front ++ last).map Piece.char := by
    rw [plain, pieces_build, hpieces]
  have hpart : directoryPart (build steps).plain = front.map Piece.char := by
    rw [hplain, List.map_append]
    exact directoryPart_append hfront.plain (slash_notMem_plain hlast)
  rw [expand, if_pos (hasWildcard_build hwildcard), pieces_build, hpieces, hplain]
  cases hlisting : files.list (env.resolve (directoryName (front.map Piece.char))) with
  | error fault =>
    rw [← hpart] at hlisting
    rw [candidates_of_error hlisting]
    exact .plain fun names hlisted => absurd hlisted (by simp)
  | ok names =>
    obtain ⟨location, -, -, rfl⟩ := FileTree.list_eq_ok_iff.mp hlisting
    rw [← hpart] at hlisting
    rw [candidates_of_ok hlisting, hpart]
    exact expands_names hfront hlast (fun name => FileTree.slash_notMem_of_mem_namesIn hnames)
      (files.nodup_namesIn location) rfl

/-- A directory whose name has a star in it, and another one that its pattern does not reach. -/
def starredFiles : FileTree where
  entries := [(["d*"], .directory), (["d*", "ax"], .file []), (["d*", "a*x"], .file []),
    (["d*", ".*x"], .file []), (["dd"], .directory), (["dd", "b*x"], .file [])]
  distinct := by decide

theorem expand_build_starred :
    .wildcard ∈ [Step.char 'd', .wildcard, .text "/", .wildcard, .text "*x", .quoted] ∧
      starredFiles.HasNames ∧
      (build [.char 'd', .wildcard, .text "/", .wildcard, .text "*x", .quoted]).expand
        (.withDirectory "/") starredFiles = ["d*/.*x", "d*/a*x"] ∧
      Expands (.ok ["ax", "a*x", ".*x"]) [.literal 'd', .wildcard, .literal '/']
        [.wildcard, .literal '*', .literal 'x'] ["d*/.*x", "d*/a*x"] := by
  obtain ⟨steps, hsteps⟩ : ∃ steps,
      steps = [Step.char 'd', .wildcard, .text "/", .wildcard, .text "*x", .quoted] := ⟨_, rfl⟩
  have hwildcard : .wildcard ∈ steps := by simp [hsteps]
  have hnames : starredFiles.HasNames := by simp [FileTree.HasNames, starredFiles]
  have hlisting : starredFiles.list ((Environment.withDirectory "/").resolve
      (directoryName ([.literal 'd', .wildcard, .literal '/'].map Piece.char))) =
        .ok ["ax", "a*x", ".*x"] := by decide +kernel
  have hmatching : ((build steps).candidates (.withDirectory "/") starredFiles).filter
      (matchesText (build steps).pieces.toList ·.toList) = ["d*/a*x", "d*/.*x"] := by
    rw [hsteps]
    decide +kernel
  have hsorted : ["d*/a*x", "d*/.*x"].mergeSort (· ≤ ·) = ["d*/.*x", "d*/a*x"] := by
    simp [List.mergeSort, List.MergeSort.Internal.splitInTwo]
  have hexpand : (build steps).expand (.withDirectory "/") starredFiles =
      ["d*/.*x", "d*/a*x"] := by
    rw [expand, if_pos (hasWildcard_build hwildcard), hmatching]
    exact hsorted
  obtain ⟨front, last, hpieces, hfront, hlast, -, -, hexpands⟩ :=
    expand_build hwildcard (.withDirectory "/") hnames
  have hslashed : Slashed (.literal '/') [Piece.literal 'd', .wildcard, .literal '/'] := .inr rfl
  have hslashFree : .literal '/' ∉ [Piece.wildcard, .literal '*', .literal 'x'] := by decide
  have hcut : [Piece.literal 'd', .wildcard, .literal '/'] ++
      [.wildcard, .literal '*', .literal 'x'] = front ++ last := by
    rw [← hpieces, hsteps]
    decide
  obtain ⟨rfl, rfl⟩ := hslashed.append_inj hfront hslashFree hlast hcut
  rw [hlisting, hexpand] at hexpands
  rw [← hsteps]
  exact ⟨hwildcard, hnames, hexpand, hexpands⟩

end Pattern

end LineShell
