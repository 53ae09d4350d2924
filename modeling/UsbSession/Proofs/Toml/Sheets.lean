import UsbSession.Proofs.Toml.Scalars
import UsbSession.Toml.Document

/-!
# Documents that are read again

The text of a sheet is read as the document that the sheet stands for: its fields, and a table for
each section (`Sheet.parse?_render`).

The text is a line for each field, and for each section an empty line and one with the header. A
line that was written is read as what it says (`Reader.line_field`, `Reader.line_header`), so the
text is read as these lines (`Reader.Reads`), and they put the document together again, table by
table (`Builder.foldlM_fields`, `Builder.foldlM_sections`). For that the keys of a table have to be
different ones that need no quotes (`Sheet.WellFormed`).
-/

namespace UsbSession.Toml

/-- Whether a text can stand as a key without quotes. -/
def IsKey (key : String) : Prop := key.toList ≠ [] ∧ ∀ c ∈ key.toList, Reader.isBare c = true

instance (key : String) : Decidable (IsKey key) :=
  decidable_of_iff (key.toList ≠ [] ∧ key.toList.all Reader.isBare = true) (by
    rw [IsKey, List.all_eq_true])

/-- The fields of a table, as they are read. -/
def contents (fields : List (String × Scalar)) : Fields := fields.map fun f => (f.1, f.2.value)

namespace Reader

variable {rest : List Char}

/-! ## Lines -/

theorem spaces_of_head? {cs : List Char} (h : ∀ c ∈ cs.head?, isSpace c = false) :
    spaces cs = some ((), cs) :=
  bind_of_some (takeWhile_append [] nofun h)

theorem spaces_one {cs : List Char} (h : ∀ c ∈ cs.head?, isSpace c = false) :
    spaces (' ' :: cs) = some ((), cs) :=
  bind_of_some (takeWhile_append [' '] (List.all_eq_true.1 rfl) h)

theorem isSpace_of_isBare {c : Char} (h : isBare c = true) : isSpace c = false := by
  have hne {d : Char} (hd : isBare d = false) : c ≠ d := by
    rintro rfl
    rw [h] at hd
    cases hd
  rw [isSpace, beq_eq_false_iff_ne.2 (hne rfl), beq_eq_false_iff_ne.2 (hne rfl)]
  rfl

/-- There is nothing more on a line that ends here. -/
theorem lineRest_newline : lineRest ('\n' :: rest) = some ((), rest) := by
  have hspaces : spaces ('\n' :: rest) = some ((), '\n' :: rest) :=
    spaces_of_head? (by simp [isSpace])
  unfold lineRest
  rw [bind_of_some hspaces]
  rfl

/-- An empty line says nothing. -/
theorem line_newline : line ('\n' :: rest) = some (none, rest) := by
  have hspaces : spaces ('\n' :: rest) = some ((), '\n' :: rest) :=
    spaces_of_head? (by simp [isSpace])
  unfold line
  rw [bind_of_some hspaces, bind_peek]
  exact bind_of_some lineRest_newline

/-- A scalar is read as a value. -/
theorem value_render {v : Scalar} (h : v.Readable) :
    value (depthLimit - 1) (v.render.toList ++ '\n' :: rest) = some (v.value, '\n' :: rest) := by
  obtain ⟨c, cs, hcs, hc⟩ := Scalar.exists_render h
  rw [← scalar_render h rest, hcs]
  change (peek >>= _) _ = _
  rw [bind_peek]
  refine congrFun ?_ _
  rw [List.cons_append, List.head?_cons]
  dsimp only
  split
  case h_3 => rfl
  all_goals
    rename_i heq
    cases heq
    simp at hc

section Key

variable {name : String} (h : IsKey name) (after : List Char)

include h

theorem head?_of_isKey : ∃ c, (name.toList ++ after).head? = some c ∧ isBare c = true := by
  obtain ⟨c, cs, hcs⟩ := List.exists_cons_of_ne_nil h.1
  rw [hcs]
  exact ⟨c, rfl, h.2 c (hcs ▸ List.mem_cons_self)⟩

theorem spaces_of_isKey : spaces (name.toList ++ after) = some ((), name.toList ++ after) := by
  obtain ⟨c, hc, hbare⟩ := head?_of_isKey h after
  refine spaces_of_head? fun d hd => ?_
  rw [hc] at hd
  exact isSpace_of_isBare (Option.some.inj hd ▸ hbare)

variable {after}

theorem simpleKey_of_isKey (hafter : ∀ c ∈ after.head?, isBare c = false) :
    simpleKey (name.toList ++ after) = some (name, after) := by
  obtain ⟨c, hc, hbare⟩ := head?_of_isKey h after
  have htake := takeWhile_append name.toList h.2 hafter
  have hplain : (do
      let cs ← takeWhile isBare
      if cs.isEmpty then failure
      return String.ofList cs : Reader String) (name.toList ++ after) = some (name, after) := by
    rw [bind_of_some htake, List.isEmpty_eq_false_iff.2 h.1]
    simp only [Bool.false_eq_true, if_false, String.ofList_toList]
    rfl
  unfold simpleKey
  rw [bind_peek, hc]
  refine (congrFun ?_ _).trans hplain
  split
  case h_3 => rfl
  all_goals
    rename_i heq
    cases heq
    cases hbare

/-- A key of one part is taken, up to what stands behind it. -/
theorem key_of_isKey (hafter : ∀ c ∈ after.head?, isBare c = false)
    (hspaces : spaces after = some ((), rest)) (hdot : rest.head? ≠ some '.') :
    key (name.toList ++ after) = some (([], name), rest) := by
  have hparts : keyParts (depthLimit - 1) rest = some ([], rest) := by
    change (peek >>= _) rest = _
    rw [bind_peek, if_neg hdot]
    rfl
  unfold key
  rw [bind_of_some (spaces_of_isKey h _), bind_of_some (simpleKey_of_isKey h hafter),
    bind_of_some hspaces, bind_of_some hparts]
  rfl

/-- A written key and value are read as a pair, up to the line end behind them. -/
theorem pair_field {v : Scalar} (hv : v.Readable) (rest : List Char) :
    pair (value (depthLimit - 1))
        (name.toList ++ ' ' :: '=' :: ' ' :: (v.render.toList ++ '\n' :: rest)) =
      some (([], name, v.value), '\n' :: rest) := by
  have hkey : key (name.toList ++ ' ' :: '=' :: ' ' :: (v.render.toList ++ '\n' :: rest)) =
      some (([], name), '=' :: ' ' :: (v.render.toList ++ '\n' :: rest)) :=
    key_of_isKey h (by simp [isBare]) (spaces_one (by simp [isSpace])) (by simp)
  have hequals : char '=' ('=' :: ' ' :: (v.render.toList ++ '\n' :: rest)) =
      some ((), ' ' :: (v.render.toList ++ '\n' :: rest)) := rfl
  have hspaces : spaces (' ' :: (v.render.toList ++ '\n' :: rest)) =
      some ((), v.render.toList ++ '\n' :: rest) := by
    refine spaces_one fun d hd => ?_
    obtain ⟨c, cs, hcs, hc⟩ := Scalar.exists_render hv
    rw [hcs, List.cons_append, List.head?_cons] at hd
    cases hd
    simp only [List.mem_cons, not_or] at hc
    simp [isSpace, hc]
  have hvalue : value (depthLimit - 1) (v.render.toList ++ '\n' :: rest) =
      some (v.value, '\n' :: rest) := value_render hv
  unfold pair
  rw [bind_of_some hkey]
  dsimp only
  rw [bind_of_some hequals, bind_of_some hspaces, bind_of_some hvalue]
  rfl

/-- The line of a field says what was written. -/
theorem line_field {v : Scalar} (hv : v.Readable) (rest : List Char) :
    line (name.toList ++ ' ' :: '=' :: ' ' :: (v.render.toList ++ '\n' :: rest)) =
      some (some (.field [] name v.value), rest) := by
  obtain ⟨c, hc, hbare⟩ :=
    head?_of_isKey h (' ' :: '=' :: ' ' :: (v.render.toList ++ '\n' :: rest))
  have hplain : (do
      let p ← pair (value (depthLimit - 1))
      lineRest
      return some (.field p.1 p.2.1 p.2.2) : Reader (Option Line))
        (name.toList ++ ' ' :: '=' :: ' ' :: (v.render.toList ++ '\n' :: rest)) =
          some (some (.field [] name v.value), rest) := by
    rw [bind_of_some (pair_field h hv rest), bind_of_some lineRest_newline]
    rfl
  unfold line
  rw [bind_of_some (spaces_of_isKey h _), bind_peek, hc]
  refine (congrFun ?_ _).trans hplain
  split
  case h_6 => rfl
  all_goals
    rename_i heq
    cases heq
    try cases hbare

/-- The line of a header says what was written. -/
theorem line_header (rest : List Char) : line ('[' :: (name.toList ++ ']' :: '\n' :: rest)) =
    some (some (.header [] name), rest) := by
  have hspaces : spaces ('[' :: (name.toList ++ ']' :: '\n' :: rest)) =
      some ((), '[' :: (name.toList ++ ']' :: '\n' :: rest)) :=
    spaces_of_head? (by simp [isSpace])
  have hkey : key (name.toList ++ ']' :: '\n' :: rest) = some (([], name), ']' :: '\n' :: rest) :=
    key_of_isKey h (by simp [isBare]) (spaces_of_head? (by simp [isSpace])) (by simp)
  have hopening : char '[' ('[' :: (name.toList ++ ']' :: '\n' :: rest)) =
      some ((), name.toList ++ ']' :: '\n' :: rest) := rfl
  have hclosing : char ']' (']' :: '\n' :: rest) = some ((), '\n' :: rest) := rfl
  have hsingle : (name.toList ++ ']' :: '\n' :: rest).head? ≠ some '[' := by
    obtain ⟨c, hc, hbare⟩ := head?_of_isKey h (']' :: '\n' :: rest)
    rw [hc]
    rintro ⟨rfl⟩
    cases hbare
  unfold line
  rw [bind_of_some hspaces, bind_peek]
  refine (bind_of_some hopening).trans ?_
  rw [bind_peek, if_neg hsingle, bind_of_some hkey]
  dsimp only
  rw [bind_of_some hclosing, bind_of_some lineRest_newline]
  rfl

end Key

/-- The text is read as the lines, however much longer one might go on. -/
def Reads (cs : List Char) (ls : List Line) : Prop :=
  ∀ fuel, cs.length ≤ fuel → lines fuel cs = some ls

theorem reads_nil : Reads [] [] := by
  intro fuel _
  cases fuel <;> rfl

theorem Reads.line {c : Char} {cs : List Char} {ls : List Line} (first : Option Line)
    (h : Reads rest ls) (hline : line (c :: cs ++ rest) = some (first, rest)) :
    Reads (c :: cs ++ rest) (first.toList ++ ls) := by
  intro fuel hfuel
  rw [List.cons_append, List.length_cons, List.length_append] at hfuel
  obtain ⟨fuel, rfl⟩ : ∃ n, fuel = n + 1 := ⟨fuel - 1, by omega⟩
  rw [List.cons_append] at hline ⊢
  rw [lines, hline]
  · change (lines fuel rest >>= fun others => some (first.toList ++ others)) = _
    rw [h fuel (by omega)]
    rfl
  · nofun

end Reader

/-! ## Texts -/

/-- Whether fields have different keys without quotes, and values that are read again. -/
structure Tidy (fields : List (String × Scalar)) : Prop where
  keys : ∀ f ∈ fields, IsKey f.1
  values : ∀ f ∈ fields, f.2.Readable
  nodup : (fields.map Prod.fst).Nodup

/-- The lines of fields. -/
def fieldLines (fields : List (String × Scalar)) : List Line :=
  fields.map fun f => .field [] f.1 f.2.value

/-- The lines of sections. -/
def sectionLines (sections : List (String × List (String × Scalar))) : List Line :=
  sections.flatMap fun s => .header [] s.1 :: fieldLines s.2

namespace Reader

variable {rest : List Char} {ls : List Line}

theorem reads_fields {fields : List (String × Scalar)} (hkeys : ∀ f ∈ fields, IsKey f.1)
    (hvalues : ∀ f ∈ fields, f.2.Readable) (h : Reads rest ls) :
    Reads ((Sheet.renderFields fields).toList ++ rest) (fieldLines fields ++ ls) := by
  induction fields with
  | nil => exact h
  | cons f fields ih =>
    obtain ⟨hkey, hkeys⟩ := List.forall_mem_cons.1 hkeys
    obtain ⟨hvalue, hvalues⟩ := List.forall_mem_cons.1 hvalues
    have hmore := ih hkeys hvalues
    have hline := line_field hkey hvalue ((Sheet.renderFields fields).toList ++ rest)
    obtain ⟨c, cs, hcs⟩ := List.exists_cons_of_ne_nil hkey.1
    have htext : (Sheet.renderFields (f :: fields)).toList ++ rest =
        c :: (cs ++ ' ' :: '=' :: ' ' :: (f.2.render.toList ++ ['\n'])) ++
          ((Sheet.renderFields fields).toList ++ rest) := by
      simp [Sheet.renderFields, toString, hcs]
    rw [htext]
    exact hmore.line (some (.field [] f.1 f.2.value)) (by simpa [hcs] using hline)

/-- A section starts below an empty line. -/
theorem reads_sections {sections : List (String × List (String × Scalar))}
    (h : ∀ s ∈ sections, IsKey s.1 ∧ Tidy s.2) :
    Reads (String.join (sections.map fun (name, fields) =>
      s!"\n[{name}]\n" ++ Sheet.renderFields fields)).toList (sectionLines sections) := by
  induction sections with
  | nil => exact reads_nil
  | cons s sections ih =>
    obtain ⟨⟨hname, htidy⟩, hsections⟩ := List.forall_mem_cons.1 h
    have hfields := reads_fields htidy.keys htidy.values (ih hsections)
    generalize htext : (Sheet.renderFields s.2).toList ++ _ = text at hfields
    have hheader : Reads ('[' :: (s.1.toList ++ [']', '\n']) ++ text) _ :=
      hfields.line (some (.header [] s.1)) (by simpa using line_header hname text)
    have hempty : Reads ('\n' :: [] ++ ('[' :: (s.1.toList ++ [']', '\n']) ++ text)) _ :=
      hheader.line none line_newline
    simpa [sectionLines, toString, ← htext] using hempty

end Reader

/-! ## Tables -/

namespace Fields

variable {key : String} {v : Value} {fs : Fields}

/-- A new key comes last. -/
theorem insert?_of_notMem (h : key ∉ fs.map Prod.fst) :
    insert? key v fs = some (fs ++ [(key, v)]) := by
  induction fs with
  | nil => rfl
  | cons f fs ih =>
    rw [List.map_cons, List.mem_cons, not_or] at h
    change (if f.1 = key then _ else (insert? key v fs).map _) = _
    rw [if_neg (Ne.symm h.1), ih h.2]
    rfl

theorem get?_of_notMem (h : key ∉ fs.map Prod.fst) : get? key fs = none := by
  induction fs with
  | nil => rfl
  | cons f fs ih =>
    rw [List.map_cons, List.mem_cons, not_or] at h
    rw [get?, if_neg (Ne.symm h.1), ih h.2]

theorem erase_of_notMem (h : key ∉ fs.map Prod.fst) : erase key fs = fs := by
  induction fs with
  | nil => rfl
  | cons f fs ih =>
    rw [List.map_cons, List.mem_cons, not_or] at h
    rw [erase, if_neg (Ne.symm h.1), ih h.2]

end Fields

theorem map_fst_contents (fields : List (String × Scalar)) :
    (contents fields).map Prod.fst = fields.map Prod.fst := by
  rw [contents, List.map_map]
  rfl

namespace Builder

variable {b : Builder} {root : Fields}

/-- Fields with new keys are added to the current table. -/
theorem foldlM_fields {fields : List (String × Scalar)}
    (h : (b.current.map Prod.fst ++ fields.map Prod.fst).Nodup) :
    (fieldLines fields).foldlM add? b =
      some { b with current := b.current ++ contents fields } := by
  induction fields generalizing b with
  | nil => simp [fieldLines, contents]
  | cons f fields ih =>
    have hnew : f.1 ∉ b.current.map Prod.fst := fun hmem =>
      (List.nodup_append.1 h).2.2 _ hmem _ List.mem_cons_self rfl
    have hput : b.current.put? [] f.1 f.2.value = some (b.current ++ [(f.1, f.2.value)]) := by
      rw [Fields.put?, Fields.descend?, if_neg (by simp), Fields.insert?_of_notMem hnew]
    have hadd : b.add? (.field [] f.1 f.2.value) =
        some { b with current := b.current ++ [(f.1, f.2.value)] } := by
      rw [add?, hput]
      rfl
    rw [fieldLines, List.map_cons, List.foldlM_cons, hadd]
    change (fieldLines fields).foldlM add? _ = _
    rw [ih (by simpa using h)]
    simp [contents]

/-- Sections with new names become tables of the root. -/
theorem foldlM_sections {sections : List (String × List (String × Scalar))}
    (hroot : b.finish? = some root) (hfields : ∀ s ∈ sections, (s.2.map Prod.fst).Nodup)
    (h : (root.map Prod.fst ++ sections.map Prod.fst).Nodup) :
    ((sectionLines sections).foldlM add? b).bind finish? =
      some (root ++ sections.map fun s => (s.1, .table .header (contents s.2))) := by
  induction sections generalizing b root with
  | nil => simpa [sectionLines] using hroot
  | cons s sections ih =>
    obtain ⟨hnodup, hmore⟩ := List.forall_mem_cons.1 hfields
    have hnew : s.1 ∉ root.map Prod.fst := fun hmem =>
      (List.nodup_append.1 h).2.2 _ hmem _ List.mem_cons_self rfl
    have hheader : b.add? (.header [] s.1) = some { root, place := some ([], s.1) } := by
      rw [add?, hroot]
      change header? [] s.1 root = _
      rw [header?, List.nil_append, Fields.find?, Fields.get?_of_notMem hnew]
      simp [Fields.descend?, Fields.erase_of_notMem hnew]
    have hsection := foldlM_fields (b := { root, place := some ([], s.1) })
      (show (_ ++ s.2.map Prod.fst).Nodup by simpa using hnodup)
    have hfinish : finish? { root, current := [] ++ contents s.2, place := some ([], s.1) } =
        some (root ++ [(s.1, .table .header (contents s.2))]) := by
      simp [finish?, Fields.descend?, place?, Fields.insert?_of_notMem hnew]
    have hrest := ih hfinish hmore (by simpa using h)
    rw [sectionLines, List.flatMap_cons, List.cons_append, List.foldlM_cons, hheader]
    change ((fieldLines s.2 ++ sectionLines sections).foldlM add? _).bind finish? = _
    rw [List.foldlM_append, hsection]
    simpa using hrest

end Builder

namespace Sheet

variable {s : Sheet}

/-- The document that a sheet stands for. -/
def document (s : Sheet) : Fields :=
  contents s.fields ++ s.sections.map fun t => (t.1, .table .header (contents t.2))

/-- Whether all fields are tidy, and the keys and the sections have different names. -/
structure WellFormed (s : Sheet) : Prop where
  fields : Tidy s.fields
  sections : ∀ t ∈ s.sections, IsKey t.1 ∧ Tidy t.2
  nodup : (s.fields.map Prod.fst ++ s.sections.map Prod.fst).Nodup

/-- A text starts with a key or a line end. -/
theorem dropMark_render (h : s.WellFormed) : dropMark s.render.toList = s.render.toList := by
  obtain ⟨fields, sections⟩ := s
  cases fields with
  | cons f fields =>
    obtain ⟨hne, hbare⟩ := h.fields.keys f List.mem_cons_self
    obtain ⟨c, cs, hcs⟩ := List.exists_cons_of_ne_nil hne
    have hc : c ≠ byteOrderMark := by
      rintro rfl
      exact absurd (hbare _ (hcs ▸ List.mem_cons_self)) (by decide)
    simp [render, renderFields, toString, hcs, dropMark, hc]
  | nil =>
    cases sections with
    | nil => rfl
    | cons t sections => simp [render, renderFields, toString, dropMark, byteOrderMark]

/-- A document that was written is read again. -/
theorem parse?_render (h : s.WellFormed) : parse? s.render = some s.document := by
  have htext : s.render.toList = (renderFields s.fields).toList ++
      (String.join (s.sections.map fun (name, fields) =>
        s!"\n[{name}]\n" ++ renderFields fields)).toList := by
    rw [render, String.toList_append]
  have hreads : Reader.Reads s.render.toList (fieldLines s.fields ++ sectionLines s.sections) := by
    rw [htext]
    exact Reader.reads_fields h.fields.keys h.fields.values (Reader.reads_sections h.sections)
  have hnames : ((contents s.fields).map Prod.fst ++ s.sections.map Prod.fst).Nodup := by
    rw [map_fst_contents]
    exact h.nodup
  have hbuilt := Builder.foldlM_sections (b := { current := contents s.fields }) rfl
    (fun t ht => (h.sections t ht).2.nodup) hnames
  have hcurrent := Builder.foldlM_fields (b := {}) h.fields.nodup
  unfold parse?
  dsimp only
  rw [dropMark_render h, hreads _ (Nat.le_refl _)]
  change ((fieldLines s.fields ++ sectionLines s.sections).foldlM Builder.add? {}).bind _ = _
  rw [List.foldlM_append, hcurrent]
  exact hbuilt

end Sheet

end UsbSession.Toml
