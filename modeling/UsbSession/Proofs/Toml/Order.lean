import Mathlib.Data.List.Pairwise
import UsbSession.Proofs.Toml.Records
import UsbSession.Proofs.Toml.Sound

/-!
# Records that are read in any order

The fields of a record are read in the order in which they stand in the text. It is the same as
going through the fields of the record, in its own order, and reading the value that the table has
for each (`Field.readAll_eq_ok_iff`). That needs fields that do not meddle with one another
(`Field.Apart`), and a table that tells no key twice. Which of several values that do not fit is
told is then another matter; whether there is one, and what comes out otherwise, is not.

Whether the values fit and what they make of a record is worked out field by field
(`Field.Yields.cons`), and then holds of the table (`Field.Yields.readAll`).
-/

namespace UsbSession.Toml

/-! ## Computations that may fail -/

theorem bind_eq_ok_iff {ε α β : Type} {x : Except ε α} {f : α → Except ε β} {b : β} :
    x >>= f = .ok b ↔ ∃ a, x = .ok a ∧ f a = .ok b := by
  cases x with
  | error e => exact ⟨nofun, fun ⟨_, h, _⟩ => nomatch h⟩
  | ok a => exact ⟨fun h => ⟨a, rfl, h⟩, fun ⟨_, h, hb⟩ => by cases h; exact hb⟩

namespace Fields

variable {key other : String} {fs : Fields}

theorem get?_erase_of_ne (h : other ≠ key) : get? other (erase key fs) = get? other fs := by
  induction fs with
  | nil => rfl
  | cons f fs ih =>
    rw [erase]
    split
    · rename_i heq
      rw [get?, if_neg (heq ▸ h.symm)]
    · rw [get?, get?, ih]

theorem notMem_erase (h : (fs.map Prod.fst).Nodup) : key ∉ (erase key fs).map Prod.fst := by
  induction fs with
  | nil => exact List.not_mem_nil
  | cons f fs ih =>
    obtain ⟨hf, hfs⟩ := List.nodup_cons.1 h
    rw [erase]
    split
    · rename_i heq
      exact heq ▸ hf
    · rename_i hne
      exact fun hmem => (List.mem_cons.1 hmem).elim (Ne.symm hne) (ih hfs)

end Fields

namespace Field

variable {σ : Type} {field g : Field σ} {fields all : List (Field σ)} {fs : Fields} {s t u : σ}

/-! ## Field by field -/

/-- Reads the value that a table has for the field, if it has one. -/
def readKey (field : Field σ) (fs : Fields) (s : σ) : Except Misfit σ :=
  match fs.get? field.key with
  | none => .ok s
  | some v => field.read v s

/-- Reads the values that a table has for the fields, in the order of the fields. -/
def readKeys : List (Field σ) → Fields → σ → Except Misfit σ
  | [], _, s => .ok s
  | field :: fields, fs, s => field.readKey fs s >>= readKeys fields fs

/-- Two fields can be read in either order. -/
def Apart (field g : Field σ) : Prop :=
  ∀ v w s t, (field.read v s >>= g.read w) = .ok t ↔ (g.read w s >>= field.read v) = .ok t

instance : Std.Symm (@Apart σ) := ⟨fun _ _ h v w s t => (h w v s t).symm⟩

/-- Fields are apart where each changes a part that the other does not look at. -/
theorem apart_of_map {α β : Type} {read : Value → Except Misfit α} {set : α → σ → σ}
    {read' : Value → Except Misfit β} {set' : β → σ → σ}
    (h : ∀ v s, field.read v s = (read v).map (set · s))
    (h' : ∀ v s, g.read v s = (read' v).map (set' · s))
    (hset : ∀ a b s, set' b (set a s) = set a (set' b s)) : Apart field g := by
  intro v w s t
  simp only [bind_eq_ok_iff, h, h']
  cases read v with
  | error e => cases read' w <;> simp [Except.map]
  | ok a =>
    cases read' w with
    | error e => simp [Except.map]
    | ok b => simp [Except.map, hset]

/-! ## In any order -/

/-- A field can be read before all others, wherever its value stands. -/
theorem readAll_front (hapart : all.Pairwise Apart) (hfind : find? field.key all = some field) :
    readAll all s fs = .ok t ↔
      ∃ u, field.readKey fs s = .ok u ∧ readAll all u (fs.erase field.key) = .ok t := by
  induction fs generalizing s with
  | nil => exact ⟨fun h => ⟨s, rfl, h⟩, fun ⟨_, h, ht⟩ => by cases h; exact ht⟩
  | cons f fs ih =>
    obtain ⟨k, v⟩ := f
    by_cases hk : k = field.key
    · subst hk
      simp only [readAll, hfind, readKey, Fields.get?, Fields.erase, if_true]
      exact bind_eq_ok_iff
    · have hget : readKey field ((k, v) :: fs) = readKey field fs := by
        funext s
        rw [readKey, readKey, Fields.get?, if_neg hk]
      rw [hget, Fields.erase, if_neg hk]
      cases hg : find? k all with
      | none => simp only [readAll_unknown hg, ih]
      | some g =>
        have hread (s : σ) (rest : Fields) : readAll all s ((k, v) :: rest) = .ok t ↔
            ∃ u, g.read v s = .ok u ∧ readAll all u rest = .ok t := by
          simp only [readAll, hg]
          exact bind_eq_ok_iff
        -- Both are read, and then the rest.
        have hswap (w : σ) : (∃ u, g.read v s = .ok u ∧ field.readKey fs u = .ok w) ↔
            ∃ u, field.readKey fs s = .ok u ∧ g.read v u = .ok w := by
          rw [← bind_eq_ok_iff, ← bind_eq_ok_iff]
          unfold readKey
          split
          · simp [bind_eq_ok_iff]
          · have hgkey : g.key = k := by simpa using List.find?_some hg
            have hne : g ≠ field := fun heq => hk (hgkey.symm.trans (congrArg key heq))
            exact hapart.forall (List.mem_of_find?_eq_some hg) (List.mem_of_find?_eq_some hfind)
              hne v _ s w
        simp only [hread, ih]
        constructor
        · rintro ⟨u, hu, w, hw, ht⟩
          obtain ⟨u', hu', hw'⟩ := (hswap w).1 ⟨u, hu, hw⟩
          exact ⟨u', hu', w, hw', ht⟩
        · rintro ⟨u', hu', w, hw', ht⟩
          obtain ⟨u, hu, hw⟩ := (hswap w).2 ⟨u', hu', hw'⟩
          exact ⟨u, hu, w, hw, ht⟩

/-- What has no field of the record changes nothing. -/
theorem readAll_of_unknown (h : ∀ f ∈ fs, find? f.1 all = none) : readAll all s fs = .ok s := by
  induction fs with
  | nil => rfl
  | cons f fs ih =>
    obtain ⟨hf, hfs⟩ := List.forall_mem_cons.1 h
    exact (readAll_unknown hf s f.2 fs).trans (ih hfs)

theorem readKeys_congr {gs : Fields} (h : ∀ field ∈ fields, fs.get? field.key = gs.get? field.key) :
    readKeys fields fs s = readKeys fields gs s := by
  induction fields generalizing s with
  | nil => rfl
  | cons field fields ih =>
    obtain ⟨hfield, hfields⟩ := List.forall_mem_cons.1 h
    have hkey : field.readKey fs s = field.readKey gs s := by rw [readKey, readKey, hfield]
    rw [readKeys, readKeys, hkey, show readKeys fields fs = readKeys fields gs from
      funext fun s => ih hfields]

/-- The fields of a part of the record are read one by one, while the others are left out. -/
theorem readAll_eq_ok_iff_of_subset (hall : (all.map key).Nodup) (hapart : all.Pairwise Apart)
    (hfields : (fields.map key).Nodup) (hsubset : fields ⊆ all)
    (hnodup : (fs.map Prod.fst).Nodup)
    (hknown : ∀ f ∈ fs, (find? f.1 all).isSome = true → f.1 ∈ fields.map key) :
    readAll all s fs = .ok t ↔ readKeys fields fs s = .ok t := by
  induction fields generalizing fs s with
  | nil =>
    rw [readAll_of_unknown, readKeys]
    intro f hf
    exact Option.not_isSome_iff_eq_none.1 fun hsome => List.not_mem_nil (hknown f hf hsome)
  | cons field fields ih =>
    obtain ⟨hmem, hsubset⟩ := List.cons_subset.1 hsubset
    obtain ⟨hfield, hfields⟩ := List.nodup_cons.1 hfields
    rw [readAll_front hapart (find?_of_nodup hall hmem), readKeys, bind_eq_ok_iff]
    have herase := Fields.erase_sublist field.key fs
    refine exists_congr fun u => and_congr_right fun _ => ?_
    rw [ih hfields hsubset (hnodup.sublist (herase.map Prod.fst)) ?_]
    · refine iff_of_eq (congrArg (· = _) (readKeys_congr fun g hg => ?_))
      refine Fields.get?_erase_of_ne fun heq => hfield ?_
      exact heq ▸ List.mem_map_of_mem hg
    · intro f hf hsome
      refine (List.mem_cons.1 (hknown f (herase.subset hf) hsome)).resolve_left fun heq => ?_
      exact Fields.notMem_erase hnodup (heq ▸ List.mem_map_of_mem hf)

/-- Reading a table that tells no key twice comes to the same as reading field by field. -/
theorem readAll_eq_ok_iff (hall : (all.map key).Nodup) (hapart : all.Pairwise Apart)
    (hnodup : (fs.map Prod.fst).Nodup) :
    readAll all s fs = .ok t ↔ readKeys all fs s = .ok t := by
  refine readAll_eq_ok_iff_of_subset hall hapart hall (fun _ h => h) hnodup fun f _ hsome => ?_
  obtain ⟨field, hfield⟩ := Option.isSome_iff_exists.1 hsome
  have hkey : field.key = f.1 := by simpa using List.find?_some hfield
  exact hkey ▸ List.mem_map_of_mem (List.mem_of_find?_eq_some hfield)

/-! ## What comes out -/

/-- Reading succeeds exactly if something is so, and then with this record. -/
def Yields (x : Except Misfit σ) (fits : Prop) (t : σ) : Prop := ∀ u, x = .ok u ↔ fits ∧ u = t

/-- What a value makes of a record, if there is one. -/
theorem yields_readKey {α : Type} {raw : Option α} {value : α → Value}
    (h : fs.get? field.key = raw.map value) {fits : α → Prop} {next : α → σ}
    (hread : ∀ a, Yields (field.read (value a) s) (fits a) (next a)) :
    Yields (field.readKey fs s) (∀ a ∈ raw, fits a) (raw.elim s next) := by
  intro u
  rw [readKey, h]
  cases raw with
  | none => simp [eq_comm]
  | some a => simpa using hread a u

theorem yields_nil (fs : Fields) (s : σ) : Yields (readKeys [] fs s) True s := by
  intro u
  rw [readKeys, Except.ok.injEq, true_and, eq_comm]

theorem Yields.cons {p q : Prop} (h : Yields (field.readKey fs s) p t)
    (h' : Yields (readKeys fields fs t) q u) :
    Yields (readKeys (field :: fields) fs s) (p ∧ q) u := by
  intro w
  rw [readKeys, bind_eq_ok_iff]
  constructor
  · rintro ⟨a, ha, hw⟩
    obtain ⟨hp, rfl⟩ := (h a).1 ha
    obtain ⟨hq, rfl⟩ := (h' w).1 hw
    exact ⟨⟨hp, hq⟩, rfl⟩
  · rintro ⟨⟨hp, hq⟩, rfl⟩
    exact ⟨t, (h t).2 ⟨hp, rfl⟩, (h' w).2 ⟨hq, rfl⟩⟩

/-- What field by field makes of a record, a table does. -/
theorem Yields.readAll {p q : Prop} (h : Yields (readKeys all fs s) p t) (hpq : p ↔ q)
    (hall : (all.map key).Nodup) (hapart : all.Pairwise Apart) (hnodup : (fs.map Prod.fst).Nodup) :
    Yields (readAll all s fs) q t := by
  intro u
  rw [readAll_eq_ok_iff hall hapart hnodup, h u, hpq]

end Field

end UsbSession.Toml
