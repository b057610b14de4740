import Mathlib
import LineShell.Proofs.Sequences
import LineShell.Proofs.Walks

/-!
# What is written to an output

Writing on behind what has been written is writing both at once, to a buffer as to a file that is
there. A write changes one file at most, and this in its content alone, so that every path leads
where it led. Where the output is none of some files, these are read after a write as before it.
-/

namespace LineShell

namespace FileTree

variable {before after : FileTree} {location : Location} {bytes : Bytes} {creating : Bool}

/-- Walks do not depend on what a file holds. -/
theorem walkFrom_of_puts (hputs : before.Puts location bytes after)
    (hfile : ∃ content, before.get? location = some (.file content))
    {follow other : Location → List String → Except IoFault Location}
    (hfollow : ∀ above parts, follow above parts = other above parts) (above : Location)
    (parts : List String) :
    walkFrom after creating follow above parts = walkFrom before creating other above parts := by
  obtain ⟨content, hcontent⟩ := hfile
  have hsame (place : Location) : after.get? place = before.get? place ∨
      after.get? place = some (.file bytes) ∧ before.get? place = some (.file content) := by
    by_cases hplace : place = location
    · subst hplace
      exact .inr ⟨hputs.there, hcontent⟩
    · exact .inl (hputs.others place hplace)
  induction parts generalizing above with
  | nil => rfl
  | cons part rest ih =>
    rw [walkFrom, walkFrom]
    rcases hsame above with habove | ⟨hafter, hbefore⟩
    · rw [habove]
      rcases hsame (above ++ [part]) with hpart | ⟨hafter, hbefore⟩
      · simp only [hpart, ih, hfollow]
      · simp only [hafter, hbefore, ih]
    · rw [hafter, hbefore]

theorem locate_of_puts (hputs : before.Puts location bytes after)
    (hfile : ∃ content, before.get? location = some (.file content)) (path : String) :
    after.locate creating path = before.locate creating path := by
  have hwalk (links : Nat) (above : Location) (parts : List String) :
      walk after creating links above parts = walk before creating links above parts := by
    induction links generalizing above parts with
    | zero => exact walkFrom_of_puts hputs hfile (fun _ _ => rfl) above parts
    | succ links ih => exact walkFrom_of_puts hputs hfile ih above parts
  rw [locate, locate, hwalk]

theorem fileAt_of_puts (hputs : before.Puts location bytes after)
    (hfile : ∃ content, before.get? location = some (.file content)) (path : String) :
    after.fileAt path = before.fileAt path := by
  obtain ⟨content, hcontent⟩ := hfile
  rw [fileAt, fileAt, locate_of_puts hputs ⟨content, hcontent⟩]
  refine bind_congr fun place => ?_
  by_cases hplace : place = location
  · subst hplace
    rw [hputs.there, hcontent]
  · rw [hputs.others place hplace]

/-- A file elsewhere is read as before. -/
theorem read_of_puts (hputs : before.Puts location bytes after)
    (hfile : ∃ content, before.get? location = some (.file content)) {path : String}
    (helsewhere : before.fileAt path ≠ .ok location) : after.read path = before.read path := by
  rw [read, read, fileAt_of_puts hputs hfile]
  cases hplace : before.fileAt path with
  | error fault => rfl
  | ok place =>
    have hne : place ≠ location := by
      rintro rfl
      exact helsewhere hplace
    have hcontent : after.contentAt place = before.contentAt place := by
      rw [contentAt, contentAt, hputs.others place hne]
    show Except.ok _ = Except.ok _
    rw [hcontent]

end FileTree

namespace Sink

variable {sink : Sink} {files : FileTree} {location : Location} {position : Option Nat}

/-- Where a file is written to, a file can stand. -/
def Placed : Sink → Prop
  | .memory _ _ => True
  | .file location _ => location ≠ []

theorem Stands.placed (h : sink.Stands files) : sink.Placed := by
  cases sink with
  | memory written limit => trivial
  | file location position =>
    obtain ⟨content, hcontent⟩ := h
    rintro rfl
    simp [FileTree.get?] at hcontent

/-- Behind a write, what has been written to is there. -/
theorem Placed.accept (h : sink.Placed) (files : FileTree) (bytes : Bytes) :
    (sink.accept files bytes).1.Stands (sink.accept files bytes).2 := by
  rcases sink with ⟨written, limit⟩ | ⟨location, _ | position⟩
  · trivial
  · exact ⟨_, FileTree.get?_insert_self files _ h⟩
  · exact ⟨_, FileTree.get?_insert_self files _ h⟩

theorem Placed.accept_accept (h : sink.Placed) (files : FileTree) (first second : Bytes) :
    (sink.accept files first).1.accept (sink.accept files first).2 second =
      sink.accept files (first ++ second) := by
  rcases sink with ⟨written, limit⟩ | ⟨location, position⟩
  · simp [Sink.accept]
  · have hne : location ≠ [] := h
    cases position <;> simp [Sink.accept, FileTree.writeAt, FileTree.appendTo, hne,
      FileTree.overlay_overlay, Nat.add_assoc]

/-- Writing nothing leaves a file as it is. -/
theorem Stands.accept_nil (h : sink.Stands files) : sink.accept files [] = (sink, files) := by
  have hplaced := h.placed
  rcases sink with ⟨written, limit⟩ | ⟨location, position⟩
  · simp [Sink.accept]
  · obtain ⟨content, hcontent⟩ := h
    have hsame : files.insert location (.file (files.contentAt location)) = files := by
      rw [FileTree.contentAt, hcontent]
      exact FileTree.insert_of_get? hcontent hplaced
    cases position <;> simp [Sink.accept, FileTree.writeAt, FileTree.appendTo, hsame]

/-- A write to a file puts it there anew. -/
theorem Stands.exists_puts (h : (Sink.file location position).Stands files) (bytes : Bytes) :
    ∃ content, files.Puts location content
      ((Sink.file location position).accept files bytes).2 := by
  cases position <;> exact ⟨_, .insert (.inr h) _⟩

end Sink

namespace Run

variable {run : Run}

theorem wrote_nil (h : run.output.Stands run.job.world.files) : run.wrote [] = run := by
  rw [wrote, h.accept_nil]

theorem wrote_wrote (h : run.output.Placed) (first second : Bytes) :
    (run.wrote first).wrote second = run.wrote (first ++ second) := by
  have haccept : (run.wrote first).output.accept (run.wrote first).job.world.files second =
      run.output.accept run.job.world.files (first ++ second) := h.accept_accept _ first second
  rw [wrote, haccept]
  rfl

theorem stands_wrote (h : run.output.Placed) (bytes : Bytes) :
    (run.wrote bytes).output.Stands (run.wrote bytes).job.world.files :=
  h.accept _ bytes

end Run

/-! ### Outputs that are none of the files -/

/-- What the output writes to is there, and is none of the files. -/
def Run.Spares (run : Run) (files : List String) : Prop :=
  run.output.Stands run.job.world.files ∧
    ∀ location position, run.output = .file location position → ∀ file ∈ files,
      run.job.world.files.fileAt (run.job.world.environment.resolve file) ≠ .ok location

namespace Run.Spares

variable {files : List String} {run : Run}

theorem memory {written : Bytes} {limit : Option Nat} (h : run.output = .memory written limit)
    (files : List String) : run.Spares files := by
  refine ⟨?_, fun location position hfile => ?_⟩
  · rw [h]
    trivial
  · rw [h] at hfile
    cases hfile

theorem tail {file : String} (h : run.Spares (file :: files)) : run.Spares files :=
  ⟨h.1, fun location position hfile other hother =>
    h.2 location position hfile other (List.mem_cons_of_mem file hother)⟩

/-- Writing to an output that is none of the files changes none of them. -/
theorem read_wrote (h : run.Spares files) (bytes : Bytes) :
    ∀ file ∈ files, (run.wrote bytes).job.world.files.read
        (run.job.world.environment.resolve file) =
      run.job.world.files.read (run.job.world.environment.resolve file) := by
  obtain ⟨hstands, helsewhere⟩ := h
  intro file hfile
  cases houtput : run.output with
  | memory written limit => simp only [Run.wrote, houtput, Sink.accept]
  | file location position =>
    rw [houtput] at hstands
    obtain ⟨content, hputs⟩ := hstands.exists_puts bytes
    simp only [Run.wrote, houtput]
    exact FileTree.read_of_puts hputs hstands (helsewhere location position houtput file hfile)

theorem wrote (h : run.Spares files) (bytes : Bytes) : (run.wrote bytes).Spares files := by
  obtain ⟨hstands, helsewhere⟩ := h
  refine ⟨Run.stands_wrote hstands.placed bytes, fun location next houtput file hfile => ?_⟩
  rw [Run.wrote_output] at houtput
  cases hsink : run.output with
  | memory written limit =>
    rw [hsink] at houtput
    cases houtput
  | file place position =>
    rw [hsink] at houtput hstands
    obtain ⟨rfl, -⟩ := Sink.file.inj houtput
    obtain ⟨content, hputs⟩ := hstands.exists_puts bytes
    have hfiles := FileTree.fileAt_of_puts hputs hstands
      (run.job.world.environment.resolve file)
    simp only [Run.wrote, hsink]
    rw [hfiles]
    exact helsewhere place position hsink file hfile

end Run.Spares

end LineShell
