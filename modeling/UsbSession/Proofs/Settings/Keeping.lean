import UsbSession.Proofs.Files
import UsbSession.Proofs.Settings.Storage
import UsbSession.Tool

/-!
# Writing the default configuration

Unless it is forced, the default configuration is not meant to be written over a file. Whether
anything is there is asked of the path as it was given, and the file is written to the path with `~`
expanded, after the directories on the way to it have been made. So two questions about the files
have to have the same answer, and `Tool.keepsFiles_iff` tells when they have not:

* the path that was asked about is another one than the path that is written to, where `~` is
  expanded;
* the path leads nowhere before the directories are made and to a file after, where one of its names
  leads back (`..`) out of a directory that was not there.

For every other path, the files of a tree are kept. In any case only the place of one file changes.
-/

namespace UsbSession

namespace Files

variable {fs : Files} {path : String}

/-- Whether there is a file already where one is written at the path, once the directories on the
    way there are made. -/
def Occupied (fs : Files) (path : String) : Prop :=
  ∃ p content, (fs.makeParents path).2.locate path = .ok p ∧ fs.node? p = some (.file content)

/-- In a tree, a path without a name that leads back leads to the file it would be written to. -/
theorem IsTree.isThere_of_occupied (h : fs.IsTree) (hnames : ".." ∉ names path)
    (hoccupied : fs.Occupied path) (hwritable : fs.Writable path) : fs.isThere path = true := by
  obtain ⟨p, content, hlocate, hfile⟩ := hoccupied
  obtain ⟨made, written, -, hwrite⟩ := hwritable.exists_write ""
  obtain ⟨-, -, hslash, -⟩ := write_eq_ok_iff.1 hwrite
  have hbefore := h.locate_of_within (within_makeParents fs path) hnames hfile hlocate
  simp [isThere, find, hbefore, hfile, hslash, bind, Except.bind, Except.isOk, Except.toBool]

end Files

/-! ## Saving -/

namespace Settings

variable {env : Environment} {files : Files} {s : Settings} {path : String}

/-- Where no file can be written, saving makes some directories and fails. -/
theorem save_of_not_writable (h : ¬files.Writable (env.expand path)) :
    ∃ f, (save env files s path).value = (.error f, (files.makeParents (env.expand path)).2) := by
  unfold Files.Writable at h
  rw [save]
  rcases hmade : files.makeParents (env.expand path) with ⟨e | _, made⟩
  · exact ⟨.files e, rfl⟩
  · rw [hmade, Files.isOk_write _ _ "" s.sheet.render] at h
    cases hwrite : made.write (env.expand path) s.sheet.render with
    | error e => exact ⟨.files e, by simp [hwrite]⟩
    | ok written => exact absurd ⟨rfl, by rw [hwrite]; rfl⟩ h

/-- Saving changes one place at most, that of the file, and only if it can be written. -/
theorem node?_save {p : Place} {n : Node} (hp : files.node? p = some n) :
    (save env files s path).value.2.node? p = some n ∨
      (files.Writable (env.expand path) ∧
        (files.makeParents (env.expand path)).2.locate (env.expand path) = .ok p) := by
  have hkept := (Files.within_makeParents files (env.expand path)).node p n hp
  by_cases hwritable : files.Writable (env.expand path)
  · obtain ⟨made, written, hmade, hwrite⟩ := hwritable.exists_write s.sheet.render
    rw [save_of_write hmade hwrite]
    rw [hmade] at hkept ⊢
    obtain ⟨target, hlocate, -, hnode, rfl⟩ := Files.write_eq_ok_iff.1 hwrite
    by_cases heq : p = target
    · exact .inr ⟨hwritable, heq ▸ hlocate⟩
    · have htarget : target ≠ [] := fun hroot => hnode (hroot ▸ Files.node?_nil made)
      refine .inl ?_
      rw [Files.node?_put made _ p htarget, if_neg heq]
      exact hkept
  · obtain ⟨f, hsave⟩ := save_of_not_writable (s := s) hwritable
    rw [hsave]
    dsimp only
    exact .inl hkept

end Settings

/-! ## The default configuration -/

namespace Tool

open CommandLine (Globals)

variable {s : Surroundings} {g : Globals}

/-- The path where the default configuration goes, as it was given. -/
def givenPath (s : Surroundings) (g : Globals) : String := g.config.getD s.environment.configPath

/-- The path where the default configuration is written. -/
def writtenPath (s : Surroundings) (g : Globals) : String := s.environment.expand (givenPath s g)

/-- The guarantee that writing the default configuration keeps the files, unless it is forced. -/
structure KeepsFiles (s : Surroundings) (g : Globals) : Prop where
  /-- Every file still holds what it held. -/
  kept : ∀ p content, s.files.node? p = some (.file content) →
    (runCommand s ⟨g, .initConfig false⟩).files.node? p = some (.file content)
  /-- The run fails if there is a file where it would write one. -/
  refused : s.files.Occupied (writtenPath s g) → (runCommand s ⟨g, .initConfig false⟩).exit = 1

/-- Without force, nothing is written if the given path leads to anything. -/
theorem initConfig_of_isThere (h : s.files.isThere (givenPath s g) = true) :
    (runCommand s ⟨g, .initConfig false⟩).files = s.files ∧
      (runCommand s ⟨g, .initConfig false⟩).exit = 1 := by
  rw [givenPath] at h
  simp [runCommand, initConfig, h, failed]

section Nowhere

variable (h : s.files.isThere (givenPath s g) = false)

include h

/-- If it leads nowhere, the default settings are saved. -/
theorem files_initConfig : (runCommand s ⟨g, .initConfig false⟩).files =
    (Settings.save s.environment s.files {} (givenPath s g)).value.2 := by
  rw [givenPath] at h ⊢
  simp only [runCommand, initConfig, h, Bool.false_and, if_neg Bool.false_ne_true]
  split
  next heq => rw [heq, failed]
  next heq => rw [heq]

/-- The run then fails only where no file can be written. -/
theorem exit_initConfig :
    (runCommand s ⟨g, .initConfig false⟩).exit = 1 ↔ ¬s.files.Writable (writtenPath s g) := by
  rw [givenPath] at h
  simp only [runCommand, initConfig, h, Bool.false_and, if_neg Bool.false_ne_true]
  rw [← givenPath]
  by_cases hwritable : s.files.Writable (writtenPath s g)
  · obtain ⟨made, written, hmade, hwrite⟩ := hwritable.exists_write ({} : Settings).sheet.render
    rw [Settings.save_of_write hmade hwrite]
    simp [hwritable]
  · obtain ⟨f, hsave⟩ := Settings.save_of_not_writable (s := {}) hwritable
    rw [hsave]
    simp [hwritable, failed]

end Nowhere

/-- Only the place of the file that is written changes. -/
theorem node?_initConfig {p : Place} {n : Node} (hp : s.files.node? p = some n) :
    (runCommand s ⟨g, .initConfig false⟩).files.node? p = some n ∨
      (s.files.Writable (writtenPath s g) ∧
        (s.files.makeParents (writtenPath s g)).2.locate (writtenPath s g) = .ok p) := by
  cases hthere : s.files.isThere (givenPath s g) with
  | true =>
    rw [(initConfig_of_isThere hthere).1]
    exact .inl hp
  | false =>
    rw [files_initConfig hthere]
    exact Settings.node?_save hp

theorem KeepsFiles.of_isThere (h : s.files.isThere (givenPath s g) = true) : KeepsFiles s g where
  kept p content hp := by
    rw [(initConfig_of_isThere h).1]
    exact hp
  refused _ := (initConfig_of_isThere h).2

theorem KeepsFiles.of_not_occupied
    (h : ¬(s.files.Occupied (writtenPath s g) ∧ s.files.Writable (writtenPath s g))) :
    KeepsFiles s g where
  kept p content hp := by
    refine (node?_initConfig hp).resolve_right fun ⟨hwritable, hlocate⟩ => ?_
    exact h ⟨⟨p, content, hlocate, hp⟩, hwritable⟩
  refused hoccupied := by
    cases hthere : s.files.isThere (givenPath s g) with
    | true => exact (initConfig_of_isThere hthere).2
    | false =>
      exact (exit_initConfig hthere).2 fun hwritable => h ⟨hoccupied, hwritable⟩

/-- Files are kept exactly if the given path leads to something, or nothing would be written over
    where the expanded path leads to once its directories are made. That is so in every tree for
    paths that are not expanded and have no name that leads back. Whatever the path, all else that
    was there stays. -/
theorem keepsFiles_iff (s : Surroundings) (g : Globals) :
    (KeepsFiles s g ↔ s.files.isThere (givenPath s g) = true ∨
      ¬(s.files.Occupied (writtenPath s g) ∧ s.files.Writable (writtenPath s g))) ∧
    (s.files.IsTree → writtenPath s g = givenPath s g → ".." ∉ Files.names (givenPath s g) →
      KeepsFiles s g) ∧
    ∀ p n, s.files.node? p = some n →
      (runCommand s ⟨g, .initConfig false⟩).files.node? p = some n ∨
        (s.files.makeParents (writtenPath s g)).2.locate (writtenPath s g) = .ok p := by
  refine ⟨⟨fun h => ?_, fun h => h.elim .of_isThere .of_not_occupied⟩, fun htree hpath hnames => ?_,
    fun p n hp => (node?_initConfig hp).imp_right And.right⟩
  · rw [Classical.or_iff_not_imp_left, Bool.not_eq_true]
    rintro hthere ⟨hoccupied, hwritable⟩
    exact (exit_initConfig hthere).1 (h.refused hoccupied) hwritable
  · by_cases hover : s.files.Occupied (writtenPath s g) ∧ s.files.Writable (writtenPath s g)
    · rw [hpath] at hover
      exact .of_isThere (htree.isThere_of_occupied hnames hover.1 hover.2)
    · exact .of_not_occupied hover

/-- A file of the working directory, given with a name that leads nowhere else. -/
theorem keepsFiles_dotted :
    KeepsFiles
      { environment := { home := "/home" }
        files := { nodes := [(["etc", "w.toml"], .file (.text "x")), (["etc"], .directory)]
                   working := ["etc"] }
        host := .error .io }
      { config := some "./w.toml" } :=
  (keepsFiles_iff _ _).2.1 (by decide) (by decide) (by decide)

/-- A file of the home directory is written over, and so is one beside a directory that is made. -/
theorem not_keepsFiles_home :
    CommandLine.read ["-c", "~/w.toml", "init-config"] =
        .ok ⟨{ config := some "~/w.toml" }, .initConfig false⟩ ∧
      ¬KeepsFiles
        { environment := { home := "/home" }
          files := { nodes := [(["home", "w.toml"], .file (.text "x")), (["home"], .directory)] }
          host := .error .io }
        { config := some "~/w.toml" } ∧
      ¬KeepsFiles
        { environment := { home := "/home" }
          files := { nodes := [(["w.toml"], .file (.text "x"))] }
          host := .error .io }
        { config := some "new/../w.toml" } := by
  refine ⟨rfl, fun h => ?_, fun h => ?_⟩
  · exact (exit_initConfig rfl).1 (h.refused ⟨["home", "w.toml"], .text "x", rfl, rfl⟩)
      (by decide +kernel)
  · exact (exit_initConfig rfl).1 (h.refused ⟨["w.toml"], .text "x", rfl, rfl⟩)
      (by decide +kernel)

end Tool

end UsbSession
