import Mathlib
import LineShell.Proofs.Faults
import LineShell.Stream

/-!
# Where walks end

A walk only goes down from directories, by names that are no detours, and starts again where it
follows a link. So it ends at a location with nothing but directories above it, and the path of a
directory that it has found is canonical. A file that is put where a walk has ended is found there
by the same walk from then on, whether the walk may create its last part or not.
-/

namespace LineShell

namespace Text

theorem not_separates_of_mem_cutAt {α : Type} {separates : α → Bool} {text piece : List α}
    (h : piece ∈ cutAt separates text) : ∀ c ∈ piece, separates c = false := by
  induction text generalizing piece with
  | nil => simp_all
  | cons c text ih =>
    rw [cutAt_cons] at h
    split at h
    · rcases List.mem_cons.mp h with rfl | hpiece
      · simp
      · exact ih hpiece
    · next hc =>
      obtain ⟨first, others, hpieces⟩ := List.exists_cons_of_ne_nil (cutAt_ne_nil separates text)
      rw [hpieces] at h ih
      rcases List.mem_cons.mp h with rfl | hpiece
      · exact List.forall_mem_cons.mpr ⟨by simpa using hc, ih List.mem_cons_self⟩
      · exact ih (List.mem_cons_of_mem _ hpiece)

end Text

namespace Path

/-- The part stands for an entry of the directory that it is looked up in. -/
def IsName (part : String) : Prop := part ∉ ["", ".", ".."] ∧ '/' ∉ part.toList

theorem slash_notMem_of_mem_parts {path part : String} (h : part ∈ parts path) :
    '/' ∉ part.toList := by
  obtain ⟨piece, hpiece, rfl⟩ := List.mem_map.mp h
  intro hslash
  have := Text.not_separates_of_mem_cutAt hpiece '/' (by simpa using hslash)
  simp at this

/-- A name behind a slash is one more part. -/
theorem parts_append_name {name : String} (h : '/' ∉ name.toList) (folder : String) :
    parts (folder ++ "/" ++ name) = parts folder ++ [name] := by
  have hname : Text.cutAt (· == '/') name.toList = [name.toList] := by
    refine Text.cutAt_of_not_separates fun c hc => ?_
    rw [beq_eq_false_iff_ne]
    rintro rfl
    exact h hc
  have hpath : (folder ++ "/" ++ name).toList = folder.toList ++ '/' :: name.toList := by simp
  rw [parts, hpath, Text.cutAt_append_cons rfl, hname, List.map_append, ← parts]
  simp

end Path

namespace FileTree

variable {tree : FileTree} {creating : Bool} {location above : Location} {path : String}

/-- Names lead to the location from the root, each looked up in a directory. -/
inductive Reaches (tree : FileTree) : Location → Prop
  | root : Reaches tree []
  | down {location : Location} {name : String} (above : Reaches tree location)
      (isDirectory : tree.get? location = some .directory) (isName : Path.IsName name) :
      Reaches tree (location ++ [name])

theorem Reaches.dropLast (h : tree.Reaches location) : tree.Reaches location.dropLast := by
  cases h with
  | root => exact .root
  | down above isDirectory isName => rwa [List.dropLast_concat]

theorem Reaches.get?_dropLast (h : tree.Reaches location) :
    tree.get? location.dropLast = some .directory := by
  cases h with
  | root => rfl
  | down above isDirectory isName => rwa [List.dropLast_concat]

/-- The path of a directory that is there, with directories and no links above it. It is absolute,
and has neither empty parts nor `.` nor `..` in it. -/
def IsCanonical (tree : FileTree) (path : String) : Prop :=
  ∃ location, path = pathOf location ∧ (∀ name ∈ location, Path.IsName name) ∧
    ∀ above, above <+: location → tree.get? above = some .directory

theorem Reaches.isCanonical (h : tree.Reaches location)
    (hdirectory : tree.get? location = some .directory) : tree.IsCanonical (pathOf location) := by
  refine ⟨location, rfl, ?_, ?_⟩
  · clear hdirectory
    induction h with
    | root => exact List.forall_mem_nil _
    | down above isDirectory isName ih =>
      exact List.forall_mem_append.mpr ⟨ih, List.forall_mem_singleton.mpr isName⟩
  · induction h with
    | root =>
      intro above habove
      rwa [List.prefix_nil.mp habove]
    | down above isDirectory isName ih =>
      intro upper hupper
      rcases List.prefix_concat_iff.mp hupper with rfl | hprefix
      · exact hdirectory
      · exact ih isDirectory upper hprefix

/-! ### What writing keeps -/

/-- A regular file stands at the location, or one may be created there. -/
def TakesFile (tree : FileTree) (location : Location) : Prop :=
  tree.get? location = none ∨ ∃ content, tree.get? location = some (.file content)

/-- Nothing has been done to the tree but to write files. -/
def Keeps (before after : FileTree) : Prop :=
  ∀ location, after.get? location = before.get? location ∨
    before.TakesFile location ∧ ∃ content, after.get? location = some (.file content)

namespace Keeps

variable {before mid after : FileTree}

theorem refl (tree : FileTree) : tree.Keeps tree := fun _ => .inl rfl

theorem trans (hfirst : before.Keeps mid) (hlater : mid.Keeps after) : before.Keeps after := by
  intro location
  rcases hfirst location with hsame | ⟨htakes, content, hfile⟩
  · rcases hlater location with hlast | ⟨htakes, hwritten⟩
    · exact .inl (hlast.trans hsame)
    · exact .inr ⟨by rwa [TakesFile, hsame] at htakes, hwritten⟩
  · rcases hlater location with hlast | ⟨-, hwritten⟩
    · exact .inr ⟨htakes, content, hlast.trans hfile⟩
    · exact .inr ⟨htakes, hwritten⟩

theorem exists_file (h : before.Keeps after)
    (hfile : ∃ content, before.get? location = some (.file content)) :
    ∃ content, after.get? location = some (.file content) := by
  rcases h location with hsame | ⟨-, hwritten⟩
  · rwa [hsame]
  · exact hwritten

/-- What is no file stays as it is. -/
theorem get?_eq {node : Node} (h : before.Keeps after) (hstands : before.get? location = some node)
    (hnode : ∀ content, node ≠ .file content) : after.get? location = some node := by
  rcases h location with hsame | ⟨hmissing | ⟨content, hfile⟩, -⟩
  · rw [hsame, hstands]
  · simp [hmissing] at hstands
  · exact absurd (Option.some.inj (hstands.symm.trans hfile)) (hnode content)

theorem get?_directory (h : before.Keeps after)
    (hdirectory : before.get? location = some .directory) :
    after.get? location = some .directory :=
  h.get?_eq hdirectory fun _ => Node.noConfusion

/-- Where something stands that is no link, this is still so. -/
theorem exists_node {node : Node} (h : before.Keeps after)
    (hstands : before.get? location = some node) (hnoLink : ∀ target, node ≠ .link target) :
    ∃ other, after.get? location = some other ∧ ∀ target, other ≠ .link target := by
  rcases h location with hsame | ⟨-, content, hfile⟩
  · exact ⟨node, hsame.trans hstands, hnoLink⟩
  · exact ⟨.file content, hfile, fun target => Node.noConfusion⟩

theorem isCanonical (h : before.Keeps after) (hcanonical : before.IsCanonical path) :
    after.IsCanonical path := by
  obtain ⟨location, hpath, hnames, habove⟩ := hcanonical
  exact ⟨location, hpath, hnames, fun above hprefix => h.get?_directory (habove above hprefix)⟩

end Keeps

/-- A file with these bytes has been put at the location, and nothing else has changed. -/
structure Puts (before : FileTree) (location : Location) (bytes : Bytes) (after : FileTree) :
    Prop where
  takes : before.TakesFile location
  there : after.get? location = some (.file bytes)
  others : ∀ other, other ≠ location → after.get? other = before.get? other

namespace Puts

variable {before mid after : FileTree} {bytes more : Bytes}

theorem keeps (h : before.Puts location bytes after) : before.Keeps after := by
  intro other
  by_cases hother : other = location
  · subst hother
    exact .inr ⟨h.takes, bytes, h.there⟩
  · exact .inl (h.others other hother)

theorem trans (hfirst : before.Puts location bytes mid) (hlater : mid.Puts location more after) :
    before.Puts location more after :=
  ⟨hfirst.takes, hlater.there, fun other hother =>
    (hlater.others other hother).trans (hfirst.others other hother)⟩

theorem contentAt_eq (h : before.Puts location bytes after) : after.contentAt location = bytes := by
  rw [contentAt, h.there]

theorem of_get? (h : tree.get? location = some (.file bytes)) : tree.Puts location bytes tree :=
  ⟨.inr ⟨bytes, h⟩, h, fun _ _ => rfl⟩

theorem insert (h : tree.TakesFile location) (bytes : Bytes) :
    tree.Puts location bytes (tree.insert location (.file bytes)) := by
  refine ⟨h, get?_insert_self tree _ ?_, fun other hother => get?_insert_of_ne tree _ hother⟩
  rintro rfl
  simp [TakesFile, get?] at h

end Puts

/-! ### Walks as a relation -/

/-- A walk leads from a location by these parts to another one, with at most so many links on the
way. -/
inductive Leads (tree : FileTree) (creating : Bool) :
    Nat → Location → List String → Location → Prop
  | stop {links : Nat} {location : Location} : Leads tree creating links location [] location
  | stay {links : Nat} {location last : Location} {part : String} {rest : List String}
      (isDirectory : tree.get? location = some .directory) (stays : part = "" ∨ part = ".")
      (others : Leads tree creating links location rest last) :
      Leads tree creating links location (part :: rest) last
  | up {links : Nat} {location last : Location} {rest : List String}
      (isDirectory : tree.get? location = some .directory)
      (others : Leads tree creating links location.dropLast rest last) :
      Leads tree creating links location (".." :: rest) last
  | down {links : Nat} {location last : Location} {name : String} {rest : List String} {node : Node}
      (isDirectory : tree.get? location = some .directory) (plain : name ∉ ["", ".", ".."])
      (inside : creating = true → endsInSlash rest = false)
      (short : name.utf8ByteSize ≤ longestName)
      (stands : tree.get? (location ++ [name]) = some node) (noLink : ∀ target, node ≠ .link target)
      (others : Leads tree creating links (location ++ [name]) rest last) :
      Leads tree creating links location (name :: rest) last
  | follow {links : Nat} {location last : Location} {name target : String} {rest : List String}
      (isDirectory : tree.get? location = some .directory) (plain : name ∉ ["", ".", ".."])
      (inside : creating = true → endsInSlash rest = false)
      (short : name.utf8ByteSize ≤ longestName)
      (isLink : tree.get? (location ++ [name]) = some (.link target))
      (others : Leads tree creating links (if Path.isAbsolute target then [] else location)
        (Path.parts target ++ rest) last) :
      Leads tree creating (links + 1) location (name :: rest) last
  | create {links : Nat} {location : Location} {name : String} (creates : creating = true)
      (isDirectory : tree.get? location = some .directory) (plain : name ∉ ["", ".", ".."])
      (short : name.utf8ByteSize ≤ longestName) (missing : tree.get? (location ++ [name]) = none) :
      Leads tree creating links location [name] (location ++ [name])

section Leads

variable {links : Nat} {parts : List String}

theorem leads_of_walkFrom {follow : Location → List String → Except IoFault Location}
    (hfollow : ∀ start parts last, follow start parts = .ok last →
      ∃ fewer, links = fewer + 1 ∧ Leads tree creating fewer start parts last)
    (h : walkFrom tree creating follow above parts = .ok location) :
    Leads tree creating links above parts location := by
  fun_induction walkFrom tree creating follow above parts with
  | case1 above =>
    obtain rfl := Except.ok.inj h
    exact .stop
  | case2 above part rest hdirectory hstays ih => exact .stay hdirectory hstays (ih h)
  | case3 above rest hdirectory hstays ih => exact .up hdirectory (ih h)
  | case6 above part rest hdirectory hstays hup hslash hlong target hlink =>
    obtain ⟨fewer, rfl, hleads⟩ := hfollow _ _ _ h
    exact .follow hdirectory (by simp_all) (by simpa using hslash) (not_lt.mp hlong) hlink hleads
  | case7 above part rest hdirectory hstays hup hslash hlong node hnode hstands ih =>
    exact .down hdirectory (by simp_all) (by simpa using hslash) (not_lt.mp hlong) hstands hnode
      (ih h)
  | case8 above part rest hdirectory hstays hup hslash hlong hmissing hcreates =>
    obtain rfl := Except.ok.inj h
    obtain ⟨hcreating, hlast⟩ := Bool.and_eq_true_iff.mp hcreates
    obtain rfl := List.isEmpty_iff.mp hlast
    exact .create hcreating hdirectory (by simp_all) (not_lt.mp hlong) hmissing
  | _ => cases h

theorem walk_cons (part : String) (rest : List String) :
    tree.walk creating links above (part :: rest) =
      match tree.get? above with
      | some .directory =>
        if part = "" ∨ part = "." then tree.walk creating links above rest
        else if part = ".." then tree.walk creating links above.dropLast rest
        else if creating && endsInSlash rest then .error .isADirectory
        else if longestName < part.utf8ByteSize then .error .nameTooLong
        else
          match tree.get? (above ++ [part]) with
          | some (.link target) =>
            match links with
            | 0 => .error .tooManyLinks
            | links + 1 => tree.walk creating links
                (if Path.isAbsolute target then [] else above) (Path.parts target ++ rest)
          | some _ => tree.walk creating links (above ++ [part]) rest
          | none => if creating && rest.isEmpty then .ok (above ++ [part]) else .error .notFound
      | some _ => .error .notADirectory
      | none => .error .notFound := by
  cases links <;> rfl

theorem walk_eq_ok_iff :
    tree.walk creating links above parts = .ok location ↔
      Leads tree creating links above parts location := by
  constructor
  · intro h
    induction links generalizing above parts location with
    | zero =>
      refine leads_of_walkFrom (fun start parts last hnever => ?_) h
      cases hnever
    | succ links ih =>
      exact leads_of_walkFrom (fun start parts last hfollow => ⟨links, rfl, ih hfollow⟩) h
  · intro h
    induction h with
    | @stop links => cases links <;> rfl
    | stay isDirectory stays others ih => simp [walk_cons, isDirectory, stays, ih]
    | up isDirectory others ih => simp [walk_cons, isDirectory, ih]
    | @down _ _ _ _ rest node isDirectory plain inside short stands noLink others ih =>
      have hinside : (creating && endsInSlash rest) = false := by simpa using inside
      simp only [List.mem_cons, List.not_mem_nil, or_false, not_or] at plain
      simp [walk_cons, isDirectory, plain, -Bool.and_eq_true, hinside, short, stands, ih]
    | @follow _ _ _ _ target rest isDirectory plain inside short isLink others ih =>
      have hinside : (creating && endsInSlash rest) = false := by simpa using inside
      simp only [List.mem_cons, List.not_mem_nil, or_false, not_or] at plain
      simp [walk_cons, isDirectory, plain, -Bool.and_eq_true, hinside, short, isLink, ih]
    | create creates isDirectory plain short missing =>
      simp only [List.mem_cons, List.not_mem_nil, or_false, not_or] at plain
      simp [walk_cons, isDirectory, plain, endsInSlash, short, missing, creates]

theorem locate_eq_ok_iff :
    tree.locate creating path = .ok location ↔
      '\x00' ∉ path.toList ∧ path.utf8ByteSize < pathLimit ∧
        Leads tree creating linkLimit [] (Path.parts path) location := by
  unfold locate
  simp only [List.contains_iff_mem, ← walk_eq_ok_iff]
  by_cases hnul : '\x00' ∈ path.toList
  · simp [hnul]
  · by_cases hlong : pathLimit ≤ path.utf8ByteSize
    · simp [hnul, hlong]
    · simp [hnul, hlong, not_le.mp hlong]

/-! ### What walks find -/

/-- A walk that does not begin at a link does not end at one. -/
theorem Leads.reaches (h : Leads tree creating links above parts location)
    (habove : tree.Reaches above ∧ ∀ target, tree.get? above ≠ some (.link target))
    (hparts : ∀ part ∈ parts, '/' ∉ part.toList) :
    tree.Reaches location ∧ ∀ target, tree.get? location ≠ some (.link target) := by
  induction h with
  | stop => exact habove
  | stay isDirectory stays others ih => exact ih habove (List.forall_mem_cons.mp hparts).2
  | up isDirectory others ih =>
    obtain ⟨hreaches, -⟩ := habove
    exact ih ⟨hreaches.dropLast, by simp [hreaches.get?_dropLast]⟩
      (List.forall_mem_cons.mp hparts).2
  | down isDirectory plain inside short stands noLink others ih =>
    obtain ⟨hslash, hrest⟩ := List.forall_mem_cons.mp hparts
    refine ih ⟨.down habove.1 isDirectory ⟨plain, hslash⟩, fun target => ?_⟩ hrest
    rw [stands]
    exact fun h => noLink target (Option.some.inj h)
  | @follow links location last name target rest isDirectory plain inside short isLink others ih =>
    refine ih ?_ (List.forall_mem_append.mpr ⟨?_, (List.forall_mem_cons.mp hparts).2⟩)
    · split
      · exact ⟨.root, by simp [get?]⟩
      · exact habove
    · exact fun part => Path.slash_notMem_of_mem_parts
  | create creates isDirectory plain short missing =>
    refine ⟨.down habove.1 isDirectory ⟨plain, (List.forall_mem_cons.mp hparts).1⟩, ?_⟩
    simp [missing]

theorem reaches_of_locate (h : tree.locate creating path = .ok location) :
    tree.Reaches location ∧ ∀ target, tree.get? location ≠ some (.link target) := by
  obtain ⟨-, -, hleads⟩ := locate_eq_ok_iff.mp h
  exact hleads.reaches ⟨.root, by simp [get?]⟩ fun part => Path.slash_notMem_of_mem_parts

/-- The path that a directory is found by has its canonical path. -/
theorem isCanonical_canonicalPath {directory : String} (hdirectory : tree.isDirectory path = true)
    (h : tree.canonicalPath path = .ok directory) : tree.IsCanonical directory := by
  unfold isDirectory at hdirectory
  unfold canonicalPath at h
  cases hlocate : tree.locate false path with
  | error fault => simp [hlocate] at hdirectory
  | ok location =>
    rw [hlocate] at h hdirectory
    obtain rfl := Except.ok.inj h
    exact (reaches_of_locate hlocate).1.isCanonical (by simpa using hdirectory)

/-! ### Walks to files -/

/-- Behind a last slash there is a directory. -/
theorem Leads.isDirectory_of_getLast? (h : Leads tree creating links above parts location)
    (hlast : parts.getLast? = some "") : tree.get? location = some .directory := by
  have hrest {part : String} {rest : List String} (hpart : part ≠ "")
      (hlast : (part :: rest).getLast? = some "") : rest.getLast? = some "" := by
    cases rest with
    | nil => exact absurd (Option.some.inj hlast) hpart
    | cons next rest => rwa [List.getLast?_cons_cons] at hlast
  induction h with
  | stop => cases hlast
  | @stay links location last part rest isDirectory stays others ih =>
    cases rest with
    | nil =>
      cases others
      exact isDirectory
    | cons next rest => exact ih (by rwa [List.getLast?_cons_cons] at hlast)
  | up isDirectory others ih => exact ih (hrest (by decide) hlast)
  | down isDirectory plain inside short stands noLink others ih =>
    exact ih (hrest (List.ne_of_not_mem_cons plain) hlast)
  | follow isDirectory plain inside short isLink others ih =>
    rw [List.getLast?_append, hrest (List.ne_of_not_mem_cons plain) hlast] at ih
    exact ih rfl
  | create creates isDirectory plain short missing =>
    exact absurd (hrest (List.ne_of_not_mem_cons plain) hlast) (by simp)

theorem endsInSlash_eq_false (h : parts.getLast? ≠ some "") : endsInSlash parts = false := by
  by_contra hends
  obtain ⟨hne, hempty⟩ := Bool.and_eq_true_iff.mp (Bool.not_eq_false _ ▸ hends)
  cases hlast : parts.getLast? with
  | none => simp [List.getLast?_eq_none_iff.mp hlast] at hne
  | some last =>
    have hlastEmpty := List.all_eq_true.mp hempty last (List.mem_of_getLast? hlast)
    exact h (by simpa [hlast] using hlastEmpty)

/-- What stands at the end and is no directory is also found by a walk that may create it. -/
theorem Leads.creating_of_ne_directory (h : Leads tree false links above parts location)
    (hne : tree.get? location ≠ some .directory) : Leads tree true links above parts location := by
  induction h with
  | stop => exact .stop
  | stay isDirectory stays others ih => exact .stay isDirectory stays (ih hne)
  | up isDirectory others ih => exact .up isDirectory (ih hne)
  | down isDirectory plain inside short stands noLink others ih =>
    refine .down isDirectory plain (fun _ => endsInSlash_eq_false fun hlast => ?_) short stands
      noLink (ih hne)
    exact hne (others.isDirectory_of_getLast? hlast)
  | follow isDirectory plain inside short isLink others ih =>
    refine .follow isDirectory plain (fun _ => endsInSlash_eq_false fun hlast => ?_) short isLink
      (ih hne)
    exact hne (others.isDirectory_of_getLast? (by rw [List.getLast?_append, hlast, Option.some_or]))
  | create creates => cases creates

/-- A name that is missing in a directory may be created behind the path of the directory. -/
theorem Leads.append_name {name : String} (h : Leads tree false links above parts location)
    (hdirectory : tree.get? location = some .directory) (hplain : name ∉ ["", ".", ".."])
    (hshort : name.utf8ByteSize ≤ longestName) (hmissing : tree.get? (location ++ [name]) = none) :
    Leads tree true links above (parts ++ [name]) (location ++ [name]) := by
  have hinside (rest : List String) : endsInSlash (rest ++ [name]) = false := by
    refine endsInSlash_eq_false ?_
    rw [List.getLast?_concat]
    exact fun hempty => List.ne_of_not_mem_cons hplain (Option.some.inj hempty)
  induction h with
  | stop => exact .create rfl hdirectory hplain hshort hmissing
  | stay isDirectory stays others ih => exact .stay isDirectory stays (ih hdirectory hmissing)
  | up isDirectory others ih => exact .up isDirectory (ih hdirectory hmissing)
  | down isDirectory plain inside short stands noLink others ih =>
    exact .down isDirectory plain (fun _ => hinside _) short stands noLink
      (ih hdirectory hmissing)
  | follow isDirectory plain inside short isLink others ih =>
    refine .follow isDirectory plain (fun _ => hinside _) short isLink ?_
    simpa only [List.append_assoc, List.append_eq] using ih hdirectory hmissing
  | create creates => cases creates

/-- A file at the end of a walk is found there, also when it has been put there since. -/
theorem Leads.keeps {later : FileTree} {creates : Bool}
    (h : Leads tree true links above parts location) (hkeeps : tree.Keeps later)
    (hthere : ∃ content, later.get? location = some (.file content)) :
    Leads later creates links above parts location := by
  induction h with
  | stop => exact .stop
  | stay isDirectory stays others ih =>
    exact .stay (hkeeps.get?_directory isDirectory) stays (ih hthere)
  | up isDirectory others ih => exact .up (hkeeps.get?_directory isDirectory) (ih hthere)
  | down isDirectory plain inside short stands noLink others ih =>
    obtain ⟨node, hnode, hnoLink⟩ := hkeeps.exists_node stands noLink
    exact .down (hkeeps.get?_directory isDirectory) plain (fun _ => inside rfl) short hnode hnoLink
      (ih hthere)
  | follow isDirectory plain inside short isLink others ih =>
    exact .follow (hkeeps.get?_directory isDirectory) plain (fun _ => inside rfl) short
      (hkeeps.get?_eq isLink fun _ => Node.noConfusion) (ih hthere)
  | create creates isDirectory plain short missing =>
    obtain ⟨content, hcontent⟩ := hthere
    exact .down (hkeeps.get?_directory isDirectory) plain (fun _ => rfl) short hcontent
      (fun target => Node.noConfusion) .stop

theorem locate_keeps {later : FileTree} {creates : Bool}
    (h : tree.locate true path = .ok location) (hkeeps : tree.Keeps later)
    (hthere : ∃ content, later.get? location = some (.file content)) :
    later.locate creates path = .ok location := by
  obtain ⟨hnul, hshort, hleads⟩ := locate_eq_ok_iff.mp h
  exact locate_eq_ok_iff.mpr ⟨hnul, hshort, hleads.keeps hkeeps hthere⟩

end Leads

/-! ### Opening and writing files -/

/-- What opening a file for output leaves of what it holds. -/
def Opening.kept : Opening → Bytes → Bytes
  | .truncate, _ => []
  | .append, content => content

theorem read_of_fileAt (h : tree.fileAt path = .ok location) :
    tree.read path = .ok (tree.contentAt location) := by
  rw [read, h]
  rfl

theorem read_of_locate {bytes : Bytes} (hlocate : tree.locate false path = .ok location)
    (hfile : tree.get? location = some (.file bytes)) : tree.read path = .ok bytes := by
  have hfileAt : tree.fileAt path = .ok location := by
    rw [fileAt, hlocate]
    simp only [bind, Except.bind, hfile]
    rfl
  rw [read_of_fileAt hfileAt, contentAt, hfile]

theorem openOutput_of_locate (opening : Opening)
    (hlocate : tree.locate true path = .ok location) (htakes : tree.TakesFile location) :
    ∃ files, tree.openOutput opening path = .ok (location, files) := by
  unfold openOutput
  rw [hlocate]
  rcases htakes with hmissing | ⟨content, hfile⟩
  · simp only [bind, Except.bind, hmissing]
    exact ⟨_, rfl⟩
  · cases opening <;> simp only [bind, Except.bind, hfile] <;> exact ⟨_, rfl⟩

theorem openOutput_ok {opening : Opening} {files : FileTree}
    (h : tree.openOutput opening path = .ok (location, files)) :
    tree.locate true path = .ok location ∧
      tree.Puts location (opening.kept (tree.contentAt location)) files := by
  obtain ⟨found, hlocate, hopens⟩ := bind_eq_ok.mp h
  obtain ⟨-, hnoLink⟩ := reaches_of_locate hlocate
  cases hnode : tree.get? found with
  | none =>
    have hkept : opening.kept (tree.contentAt found) = [] := by
      cases opening <;> simp [Opening.kept, contentAt, hnode]
    simp only [hnode] at hopens
    obtain ⟨rfl, rfl⟩ := Prod.mk.inj (Except.ok.inj hopens)
    rw [hkept]
    exact ⟨hlocate, .insert (.inl hnode) []⟩
  | some node =>
    cases node with
    | directory =>
      simp only [hnode] at hopens
      cases hopens
    | link target => exact absurd hnode (hnoLink target)
    | file content =>
      cases opening with
      | truncate =>
        simp only [hnode] at hopens
        obtain ⟨rfl, rfl⟩ := Prod.mk.inj (Except.ok.inj hopens)
        exact ⟨hlocate, .insert (.inr ⟨content, hnode⟩) []⟩
      | append =>
        simp only [hnode] at hopens
        obtain ⟨rfl, rfl⟩ := Prod.mk.inj (Except.ok.inj hopens)
        refine ⟨hlocate, .of_get? ?_⟩
        simp [Opening.kept, contentAt, hnode]

end FileTree

/-! ### Sinks -/

namespace Sink

variable {files later : FileTree} {sink : Sink}

/-- What the sink writes to is there. -/
def Stands (files : FileTree) : Sink → Prop
  | .memory _ _ => True
  | .file location _ => ∃ content, files.get? location = some (.file content)

theorem Stands.mono (h : sink.Stands files) (hkeeps : files.Keeps later) : sink.Stands later := by
  cases sink with
  | memory written limit => trivial
  | file location position => exact hkeeps.exists_file h

/-- A write through a sink changes the one file at most that the sink writes to. -/
theorem Stands.accept (h : sink.Stands files) (bytes : Bytes) :
    files.Keeps (sink.accept files bytes).2 ∧
      (sink.accept files bytes).1.Stands (sink.accept files bytes).2 := by
  rcases sink with ⟨written, limit⟩ | ⟨location, _ | position⟩
  · exact ⟨.refl files, trivial⟩
  · have hputs := FileTree.Puts.insert (.inr h) (files.contentAt location ++ bytes)
    exact ⟨hputs.keeps, _, hputs.there⟩
  · have hputs := FileTree.Puts.insert (.inr h)
      (FileTree.overlay (files.contentAt location) position bytes)
    exact ⟨hputs.keeps, _, hputs.there⟩

end Sink

end LineShell
