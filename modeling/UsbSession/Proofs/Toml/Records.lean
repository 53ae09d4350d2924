import UsbSession.Proofs.Toml.Sheets
import UsbSession.Toml.Record

/-!
# Records that are read again

The fields of a record that were written are read on top of another record one after the other. What
each of them makes of it is a matter of that field alone (`Field.Restores`), and a whole record goes
through them in their order (`Field.RestoresAll`).

* `Field.readAll_writeAll`: what is read from the fields that were written;
* `Field.tidy_writeAll`: the fields that were written can stand in a document.
-/

namespace UsbSession.Toml.Field

variable {σ : Type} {field : Field σ} {fields : List (Field σ)} {s t u : σ}

/-- The field of `s`, read on top of `t`, makes `u` of it. -/
structure Restores (field : Field σ) (s t u : σ) : Prop where
  absent : field.write s = none → u = t
  readable : ∀ v, field.write s = some v → v.Readable
  present : ∀ v, field.write s = some v → field.read v.value t = .ok u

/-- The fields of `s`, read one after the other on top of `t`, make `u` of it. -/
inductive RestoresAll (s : σ) : List (Field σ) → σ → σ → Prop
  | nil {t : σ} : RestoresAll s [] t t
  | cons {field : Field σ} {fields : List (Field σ)} {t u w : σ} :
    field.Restores s t u → RestoresAll s fields u w → RestoresAll s (field :: fields) t w

theorem mem_writeAll {f : String × Scalar} (h : f ∈ writeAll fields s) :
    ∃ field ∈ fields, field.key = f.1 ∧ field.write s = some f.2 := by
  obtain ⟨field, hfield, heq⟩ := List.mem_filterMap.1 h
  obtain ⟨v, hv, rfl⟩ := Option.map_eq_some_iff.1 heq
  exact ⟨field, hfield, rfl, hv⟩

/-- Keys are written in the order of the fields. -/
theorem sublist_keys (fields : List (Field σ)) (s : σ) :
    ((writeAll fields s).map Prod.fst).Sublist (fields.map key) := by
  induction fields with
  | nil => exact List.Sublist.slnil
  | cons field fields ih =>
    rw [writeAll, List.filterMap_cons, List.map_cons]
    cases field.write s with
    | none => exact ih.cons _
    | some v => exact ih.cons_cons _

theorem RestoresAll.readable (h : RestoresAll s fields t u) :
    ∀ field ∈ fields, ∀ v, field.write s = some v → v.Readable := by
  induction h with
  | nil => exact nofun
  | cons hfield _ ih => exact List.forall_mem_cons.2 ⟨hfield.readable, ih⟩

/-- Fields that were written have different keys without quotes if all fields have. -/
theorem tidy_writeAll (h : RestoresAll s fields t u) (hkeys : ∀ field ∈ fields, IsKey field.key)
    (hnodup : (fields.map key).Nodup) : Tidy (writeAll fields s) where
  keys f hf := by
    obtain ⟨field, hfield, hkey, -⟩ := mem_writeAll hf
    exact hkey ▸ hkeys field hfield
  values f hf := by
    obtain ⟨field, hfield, -, hv⟩ := mem_writeAll hf
    exact h.readable field hfield f.2 hv
  nodup := hnodup.sublist (sublist_keys fields s)

theorem find?_of_nodup (hnodup : (fields.map key).Nodup) (h : field ∈ fields) :
    find? field.key fields = some field := by
  induction fields with
  | nil => cases h
  | cons first fields ih =>
    obtain ⟨hfirst, hnodup⟩ := List.nodup_cons.1 hnodup
    rw [find?, List.find?_cons]
    rcases List.mem_cons.1 h with rfl | hmem
    · rw [beq_self_eq_true]
    · have hne : first.key ≠ field.key := fun heq => hfirst (heq ▸ List.mem_map_of_mem hmem)
      rw [beq_eq_false_iff_ne.2 hne]
      exact ih hnodup hmem

/-- Reading what was written goes through the fields, each of which is looked up among all. -/
theorem readAll_writeAll_of_subset {all : List (Field σ)} (hnodup : (all.map key).Nodup)
    (hsubset : fields ⊆ all) (h : RestoresAll s fields t u) :
    readAll all t (contents (writeAll fields s)) = .ok u := by
  induction h with
  | nil => rfl
  | @cons field fields t u w hfield _ ih =>
    obtain ⟨hmem, hsubset⟩ := List.cons_subset.1 hsubset
    have hmore := ih hsubset
    cases hwrite : field.write s with
    | none =>
      rw [writeAll, List.filterMap_cons_none (by rw [hwrite]; rfl), ← hfield.absent hwrite]
      exact hmore
    | some v =>
      rw [writeAll, List.filterMap_cons_some (by rw [hwrite]; rfl)]
      change readAll all t ((field.key, v.value) :: contents (writeAll fields s)) = _
      rw [readAll, find?_of_nodup hnodup hmem]
      change (field.read v.value t >>= fun s' => readAll all s' _) = _
      rw [hfield.present v hwrite]
      exact hmore

theorem readAll_writeAll (hnodup : (fields.map key).Nodup) (h : RestoresAll s fields t u) :
    readAll fields t (contents (writeAll fields s)) = .ok u :=
  readAll_writeAll_of_subset hnodup (fun _ hmem => hmem) h

end UsbSession.Toml.Field
