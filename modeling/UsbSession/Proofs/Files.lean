import Mathlib.Data.List.Induction
import UsbSession.Files

/-!
# Files that are read again, and files that stay

A file that was written is read again (`Files.read_of_write`), and it can be written once more
(`Files.Writable.of_write`).

A path is located by going along directories (`Files.walk`). Writing changes a place that was none,
so whatever was located before is located at the same place after (`Files.locate_put`), and what was
a directory still is one (`Files.HasDirectory.put`). With that, directories that were made once are
there for good (`Files.makeAll_of_hasDirectory`).

Making directories leaves all that was there (`Files.within_makeAll`). A path may still lead to more
than before, but not to a file that was there: as long as no name leads back, all directories on the
way to it are there as well (`Files.IsTree.locate_of_within`).
-/

namespace UsbSession.Files

variable {fs made written : Files} {p q : Place} {n : Node} {path other : String}

/-! ## Places -/

theorem node?_nil (fs : Files) : fs.node? [] = some .directory := rfl

theorem node?_put_of_directory (h : fs.node? p ≠ some .directory)
    (hq : fs.node? q = some .directory) : (fs.put p n).node? q = some .directory := by
  have hp : p ≠ [] := fun hp => h (hp ▸ node?_nil fs)
  have hne : q ≠ p := fun heq => h (heq ▸ hq)
  rw [node?_put fs n q hp, if_neg hne, hq]

theorem node?_put_self (h : fs.node? p ≠ some .directory) : (fs.put p n).node? p = some n := by
  have hp : p ≠ [] := fun hp => h (hp ▸ node?_nil fs)
  rw [node?_put fs n p hp, if_pos rfl]

/-- Names lead to the same place as before, because only directories are on the way. -/
theorem walk_put (h : fs.node? p ≠ some .directory) {start goal : Place} {names : List String}
    (hwalk : fs.walk start names = .ok goal) : (fs.put p n).walk start names = .ok goal := by
  induction names generalizing start with
  | nil => exact hwalk
  | cons name names ih =>
    rw [walk] at hwalk ⊢
    cases hnode : fs.node? start with
    | none => simp [hnode] at hwalk
    | some node =>
      cases node with
      | file content => simp [hnode] at hwalk
      | directory =>
        rw [hnode] at hwalk
        rw [node?_put_of_directory h hnode]
        dsimp only at hwalk ⊢
        split at hwalk
        · cases hwalk
        · next hlength => rw [if_neg hlength]; exact ih hwalk

/-- Of the files, it matters only where the names of a path lead to. -/
theorem locate_eq_ok_iff : fs.locate path = .ok p ↔
    path.toList.contains '\x00' = false ∧ path ≠ "" ∧ path.utf8ByteSize ≤ pathLimit ∧
      fs.walk (fs.start path) (names path) = .ok p := by
  unfold locate
  cases path.toList.contains '\x00' with
  | true => simp
  | false =>
    by_cases hempty : path = ""
    · simp [hempty]
    · by_cases hlong : pathLimit < path.utf8ByteSize
      · simp [hempty, hlong, Nat.not_le.2 hlong]
      · simp [hempty, hlong, Nat.le_of_not_lt hlong]

theorem locate_put (h : fs.node? p ≠ some .directory) (hlocate : fs.locate path = .ok q) :
    (fs.put p n).locate path = .ok q := by
  obtain ⟨hzero, hempty, hlong, hwalk⟩ := locate_eq_ok_iff.1 hlocate
  exact locate_eq_ok_iff.2 ⟨hzero, hempty, hlong, walk_put h hwalk⟩

/-! ## Reading and writing -/

/-- Writing puts a text where there is no directory. -/
theorem write_eq_ok_iff {text : String} : fs.write path text = .ok written ↔
    ∃ p, fs.locate path = .ok p ∧ endsInSlash path = false ∧ fs.node? p ≠ some .directory ∧
      written = fs.put p (.file (.text text)) := by
  unfold write
  cases fs.locate path with
  | error e => simp [bind, Except.bind]
  | ok p =>
    simp only [bind, Except.bind, Except.ok.injEq, exists_eq_left']
    cases hslash : endsInSlash path with
    | true => simp
    | false =>
      by_cases hnode : fs.node? p = some .directory
      · simp [hnode]
      · simpa [hnode] using eq_comm

theorem read_of_write {text : String} (h : fs.write path text = .ok written) :
    written.read path = .ok text := by
  obtain ⟨p, hlocate, hslash, hnode, rfl⟩ := write_eq_ok_iff.1 h
  have hfind : (fs.put p (.file (.text text))).find path = .ok (.file (.text text)) := by
    unfold find
    rw [locate_put hnode hlocate]
    simp [bind, Except.bind, node?_put_self hnode, hslash]
  unfold read
  rw [hfind]
  rfl

/-! ## Directories -/

/-- Whether a path leads to a directory. -/
def HasDirectory (fs : Files) (path : String) : Prop :=
  ∃ p, fs.locate path = .ok p ∧ fs.node? p = some .directory

theorem HasDirectory.put (h : fs.HasDirectory path) (hp : fs.node? p ≠ some .directory) :
    (fs.put p n).HasDirectory path := by
  obtain ⟨q, hlocate, hnode⟩ := h
  exact ⟨q, locate_put hp hlocate, node?_put_of_directory hp hnode⟩

theorem HasDirectory.make (h : fs.HasDirectory path) : fs.make path = .ok fs := by
  obtain ⟨p, hlocate, hnode⟩ := h
  unfold Files.make
  simp [hlocate, bind, Except.bind, hnode]

/-- A directory is made where there was nothing, or it is there already. -/
theorem make_cases (h : fs.make path = .ok made) :
    (∃ p, fs.locate path = .ok p ∧ fs.node? p = none ∧ made = fs.put p .directory) ∨
      (fs.HasDirectory path ∧ made = fs) := by
  unfold make at h
  cases hlocate : fs.locate path with
  | error e => simp [hlocate, bind, Except.bind] at h
  | ok p =>
    simp only [hlocate, bind, Except.bind] at h
    split at h
    next hnode =>
      cases h
      exact .inl ⟨p, rfl, hnode, rfl⟩
    next hnode =>
      cases h
      exact .inr ⟨⟨p, hlocate, hnode⟩, rfl⟩
    · cases h

theorem hasDirectory_of_make (h : fs.make path = .ok made) : made.HasDirectory path := by
  obtain ⟨p, hlocate, hnode, rfl⟩ | ⟨hthere, rfl⟩ := make_cases h
  · have hnew : fs.node? p ≠ some .directory := by simp [hnode]
    exact ⟨p, locate_put hnew hlocate, node?_put_self hnew⟩
  · exact hthere

/-- Of the directories that were made, the longest one is there. -/
theorem hasDirectory_of_makeAll {paths : List String}
    (h : fs.makeAll paths = (.ok (), made)) : ∀ path ∈ paths.head?, made.HasDirectory path := by
  cases paths with
  | nil => exact nofun
  | cons path above =>
    rintro _ ⟨rfl⟩
    rw [makeAll] at h
    split at h
    next hmake =>
      cases h
      exact hasDirectory_of_make hmake
    · split at h
      · cases h
      · split at h
        next hmake =>
          cases h
          exact hasDirectory_of_make hmake
        · cases h
    · cases h

/-- Where the longest directory is there, all are. -/
theorem makeAll_of_hasDirectory {paths : List String}
    (h : ∀ path ∈ paths.head?, fs.HasDirectory path) : fs.makeAll paths = (.ok (), fs) := by
  cases paths with
  | nil => rfl
  | cons path above => rw [makeAll, (h path rfl).make]

/-! ## What stays -/

/-- Whether all that is in the files is in others too, which are seen from the same directory. -/
structure Within (fs made : Files) : Prop where
  node : ∀ p n, fs.node? p = some n → made.node? p = some n
  working : made.working = fs.working

theorem Within.refl (fs : Files) : fs.Within fs := ⟨fun _ _ h => h, rfl⟩

theorem Within.trans (h : fs.Within made) (h' : made.Within written) : fs.Within written :=
  ⟨fun p n hp => h'.node p n (h.node p n hp), h'.working.trans h.working⟩

theorem within_put (h : fs.node? p = none) : fs.Within (fs.put p n) where
  node q m hq := by
    have hp : p ≠ [] := fun hp => by simp [hp, node?_nil] at h
    have hne : q ≠ p := fun heq => by simp [heq, h] at hq
    rw [node?_put fs n q hp, if_neg hne, hq]
  working := rfl

theorem within_make (h : fs.make path = .ok made) : fs.Within made := by
  obtain ⟨p, -, hnode, rfl⟩ | ⟨-, rfl⟩ := make_cases h
  · exact within_put hnode
  · exact .refl made

/-- Making directories leaves all that was there, also where it fails in the middle. -/
theorem within_makeAll (fs : Files) (paths : List String) : fs.Within (fs.makeAll paths).2 := by
  induction paths with
  | nil => exact .refl fs
  | cons path above ih =>
    rw [makeAll]
    split
    next hmake => exact within_make hmake
    · split
      next heq => simpa [heq] using ih
      next heq =>
        rw [heq] at ih
        split
        next hmake => exact ih.trans (within_make hmake)
        · exact ih
    · exact .refl fs

theorem within_makeParents (fs : Files) (path : String) : fs.Within (fs.makeParents path).2 :=
  within_makeAll fs (parents path)

/-! ## Trees -/

/-- Whether all that is there is in a directory. -/
def IsTree (fs : Files) : Prop :=
  ∀ entry ∈ fs.nodes, fs.node? entry.1.dropLast = some .directory

instance (fs : Files) : Decidable fs.IsTree := inferInstanceAs (Decidable (∀ _ ∈ _, _))

theorem IsTree.node?_dropLast (h : fs.IsTree) (hp : fs.node? p = some n) :
    fs.node? p.dropLast = some .directory := by
  by_cases hroot : p = []
  · rw [hroot]
    rfl
  · rw [node?, if_neg hroot, List.lookup_eq_some_iff] at hp
    obtain ⟨before, after, hnodes, -⟩ := hp
    exact h (p, n) (by simp [hnodes])

/-- In a tree, directories are on the way to whatever is there. -/
theorem IsTree.node?_of_prefix (h : fs.IsTree) (hq : fs.node? q = some n) (hpq : p <+: q)
    (hne : p ≠ q) : fs.node? p = some .directory := by
  obtain ⟨below, rfl⟩ := hpq
  induction below using List.reverseRecOn generalizing n with
  | nil => simp at hne
  | append_singleton below name ih =>
    have habove := h.node?_dropLast hq
    rw [← List.append_assoc, List.dropLast_concat] at habove
    cases below with
    | nil => simpa using habove
    | cons first rest => exact ih habove (by simp)

/-- Names lead down, unless one of them leads back. -/
theorem prefix_of_walk {names : List String} (hnames : ".." ∉ names)
    (hwalk : fs.walk p names = .ok q) : p <+: q := by
  induction names generalizing p with
  | nil =>
    cases hwalk
    exact List.prefix_rfl
  | cons name names ih =>
    rw [List.mem_cons, not_or] at hnames
    rw [walk] at hwalk
    split at hwalk
    · cases hwalk
    · cases hwalk
    · split at hwalk
      · cases hwalk
      · have hnext : p <+: next p name := by
          rw [next, if_neg (Ne.symm hnames.1)]
          split
          · exact List.prefix_rfl
          · exact List.prefix_append p [name]
        exact hnext.trans (ih hnames.2 hwalk)

/-- Names that lead down to a file of a tree need no more directories than the tree has. -/
theorem IsTree.walk_of_within (h : fs.IsTree) (hmade : fs.Within made) {names : List String}
    {content : Content} (hnames : ".." ∉ names) (hq : fs.node? q = some (.file content))
    (hwalk : made.walk p names = .ok q) : fs.walk p names = .ok q := by
  induction names generalizing p with
  | nil => exact hwalk
  | cons name names ih =>
    have hprefix := prefix_of_walk hnames hwalk
    rw [walk] at hwalk
    cases hnode : made.node? p with
    | none => simp [hnode] at hwalk
    | some node =>
      cases node with
      | file _ => simp [hnode] at hwalk
      | directory =>
        -- A file has nothing below it, so the names have not come to the end of their way.
        have hne : p ≠ q := fun heq => by
          rw [heq, hmade.node _ _ hq] at hnode
          cases hnode
        rw [walk, h.node?_of_prefix hq hprefix hne]
        rw [hnode] at hwalk
        dsimp only at hwalk ⊢
        split at hwalk
        · cases hwalk
        next hlength =>
          rw [if_neg hlength]
          exact ih (fun hmem => hnames (.tail _ hmem)) hwalk

theorem IsTree.locate_of_within (h : fs.IsTree) (hmade : fs.Within made) {content : Content}
    (hnames : ".." ∉ names path) (hq : fs.node? q = some (.file content))
    (hlocate : made.locate path = .ok q) : fs.locate path = .ok q := by
  obtain ⟨hzero, hempty, hlong, hwalk⟩ := locate_eq_ok_iff.1 hlocate
  have hstart : made.start path = fs.start path := by rw [start, start, hmade.working]
  rw [hstart] at hwalk
  exact locate_eq_ok_iff.2 ⟨hzero, hempty, hlong, h.walk_of_within hmade hnames hq hwalk⟩

/-! ## Paths of files -/

/-- Whether a file can be written at the path, once the directories on the way there are made. -/
def Writable (fs : Files) (path : String) : Prop :=
  (fs.makeParents path).1.isOk = true ∧ ((fs.makeParents path).2.write path "").isOk = true

instance (fs : Files) (path : String) : Decidable (fs.Writable path) :=
  inferInstanceAs (Decidable (_ ∧ _))

/-- It does not matter which text is written. -/
theorem isOk_write (fs : Files) (path text other : String) :
    (fs.write path text).isOk = (fs.write path other).isOk := by
  unfold write
  cases fs.locate path with
  | error e => rfl
  | ok p =>
    simp only [bind, Except.bind]
    split <;> rfl

theorem Writable.exists_write (h : fs.Writable path) (text : String) :
    ∃ made written, fs.makeParents path = (.ok (), made) ∧ made.write path text = .ok written := by
  obtain ⟨hmade, hwrite⟩ := h
  rcases heq : fs.makeParents path with ⟨_ | _, made⟩
  · rw [heq] at hmade
    cases hmade
  · rw [heq, isOk_write _ _ "" text] at hwrite
    cases htext : made.write path text with
    | error e =>
      rw [htext] at hwrite
      cases hwrite
    | ok written => exact ⟨made, written, rfl, htext⟩

/-- A file that was written can be written again. -/
theorem Writable.of_write {text : String} (hmade : fs.makeParents path = (.ok (), made))
    (h : made.write path text = .ok written) : written.Writable path := by
  obtain ⟨p, hlocate, hslash, hnode, rfl⟩ := write_eq_ok_iff.1 h
  have hagain : (made.put p (.file (.text text))).makeParents path =
      (.ok (), made.put p (.file (.text text))) :=
    makeAll_of_hasDirectory fun d hd => (hasDirectory_of_makeAll hmade d hd).put hnode
  have hfile : (made.put p (.file (.text text))).node? p ≠ some .directory := by
    rw [node?_put_self hnode]
    exact nofun
  have hwrite : (made.put p (.file (.text text))).write path "" = .ok _ :=
    write_eq_ok_iff.2 ⟨p, locate_put hnode hlocate, hslash, hfile, rfl⟩
  rw [Writable, hagain, hwrite]
  exact ⟨rfl, rfl⟩

end UsbSession.Files
