import UsbSession.Proofs.Numerals
import UsbSession.Toml.Document

/-!
# What a document can hold

A text that is read as a document gives tables that tell no key twice, and whole numbers of 64 bits
with a sign (`Toml.Value.Sound`), at every depth.

* `Reader.sound_value`: so does a value, however deep;
* `Fields.Sound.descend`: changing a table at the end of a path keeps it so;
* `Builder.Sound.add`: a line more keeps it so, and by induction all lines do (`sound_parse?`).
-/

namespace UsbSession.Toml

/-- Whether a number has 64 bits with a sign. -/
def IsWhole (n : Int) : Prop := -(Text.bitLimit 63 : Int) ≤ n ∧ n < Text.bitLimit 63

/-- Whether no table in a value tells a key twice, and all numbers in it have 64 bits. -/
inductive Value.Sound : Value → Prop
  | text {s : String} : Value.Sound (.text s)
  | integer {n : Int} : IsWhole n → Value.Sound (.integer n)
  | float {x : Double} : Value.Sound (.float x)
  | boolean {b : Bool} : Value.Sound (.boolean b)
  | time : Value.Sound .time
  | array {isOpen : Bool} {items : List Value} :
      (∀ v ∈ items, Value.Sound v) → Value.Sound (.array isOpen items)
  | table {origin : Origin} {fields : List (String × Value)} : (fields.map Prod.fst).Nodup →
      (∀ f ∈ fields, Value.Sound f.2) → Value.Sound (.table origin fields)

/-! ## Tables -/

namespace Fields

/-- Whether fields have different keys and sound values. -/
structure Sound (fs : Fields) : Prop where
  nodup : (fs.map Prod.fst).Nodup
  values : ∀ f ∈ fs, f.2.Sound

variable {key : String} {f : Option Value → Option Value} {fs gs : Fields} {v : Value}

theorem sound_nil : Sound [] := ⟨List.nodup_nil, nofun⟩

theorem Sound.table (h : Sound fs) (origin : Origin) : (Value.table origin fs).Sound :=
  .table h.nodup h.values

theorem sound_of_table {origin : Origin} (h : (Value.table origin fs).Sound) : Sound fs := by
  cases h with
  | table hnodup hvalues => exact ⟨hnodup, hvalues⟩

theorem Sound.sublist (h : Sound fs) (hsub : gs.Sublist fs) : Sound gs :=
  ⟨h.nodup.sublist (hsub.map Prod.fst), fun f hf => h.values f (hsub.subset hf)⟩

theorem erase_sublist (key : String) (fs : Fields) : (erase key fs).Sublist fs := by
  induction fs with
  | nil => exact .slnil
  | cons f fs ih =>
    rw [erase]
    split
    · exact List.sublist_cons_self _ _
    · exact ih.cons_cons _

theorem mem_of_get? (h : get? key fs = some v) : (key, v) ∈ fs := by
  induction fs with
  | nil => cases h
  | cons f fs ih =>
    rw [get?] at h
    split at h
    · rename_i heq
      cases h
      exact heq ▸ List.mem_cons_self
    · exact List.mem_cons_of_mem _ (ih h)

theorem Sound.get (h : Sound fs) (hget : get? key fs = some v) : v.Sound :=
  h.values _ (mem_of_get? hget)

/-- Changing one key adds no other. -/
theorem mem_keys_alter? (h : alter? key f fs = some gs) {k : String}
    (hk : k ∈ gs.map Prod.fst) : k = key ∨ k ∈ fs.map Prod.fst := by
  induction fs generalizing gs with
  | nil =>
    obtain ⟨w, -, rfl⟩ := Option.map_eq_some_iff.1 h
    exact .inl (List.mem_singleton.1 hk)
  | cons g fs ih =>
    rw [alter?] at h
    split at h
    · obtain ⟨w, -, rfl⟩ := Option.map_eq_some_iff.1 h
      exact .inr hk
    · obtain ⟨hs, hhs, rfl⟩ := Option.map_eq_some_iff.1 h
      rcases List.mem_cons.1 hk with rfl | hk
      · exact .inr List.mem_cons_self
      · exact (ih hhs hk).imp_right (List.mem_cons_of_mem _)

/-- Changing one value keeps a table sound if the new value is. -/
theorem Sound.alter (h : Sound fs)
    (hf : ∀ old w, f old = some w → (∀ v ∈ old, v.Sound) → w.Sound)
    (halter : alter? key f fs = some gs) : Sound gs := by
  induction fs generalizing gs with
  | nil =>
    obtain ⟨w, hw, rfl⟩ := Option.map_eq_some_iff.1 halter
    exact ⟨List.nodup_cons.2 ⟨List.not_mem_nil, .nil⟩,
      List.forall_mem_singleton.2 (hf none w hw nofun)⟩
  | cons g fs ih =>
    obtain ⟨hkey, hnodup⟩ := List.nodup_cons.1 h.nodup
    obtain ⟨hvalue, hvalues⟩ := List.forall_mem_cons.1 h.values
    rw [alter?] at halter
    split at halter
    · obtain ⟨w, hw, rfl⟩ := Option.map_eq_some_iff.1 halter
      have hnew := hf (some g.2) w hw fun v hv => Option.mem_some.1 hv ▸ hvalue
      exact ⟨h.nodup, List.forall_mem_cons.2 ⟨hnew, hvalues⟩⟩
    · rename_i hne
      obtain ⟨hs, hhs, rfl⟩ := Option.map_eq_some_iff.1 halter
      have hrest := ih ⟨hnodup, hvalues⟩ hhs
      refine ⟨List.nodup_cons.2 ⟨fun hmem => ?_, hrest.nodup⟩,
        List.forall_mem_cons.2 ⟨hvalue, hrest.values⟩⟩
      exact (mem_keys_alter? hhs hmem).elim hne hkey

theorem Sound.insert (h : Sound fs) (hv : v.Sound) (hinsert : insert? key v fs = some gs) :
    Sound gs := by
  refine h.alter (fun old w hw _ => ?_) hinsert
  cases old with
  | none =>
    cases hw
    exact hv
  | some => cases hw

theorem Sound.find (h : Sound fs) {path : List String} (hfind : find? path fs = some v) :
    v.Sound := by
  fun_induction find? path fs with
  | case1 => cases hfind
  | case2 key fs => exact h.get hfind
  | case3 key path fs _ origin inner hget ih => exact ih (sound_of_table (h.get hget)) hfind
  | case4 key path fs _ items hget origin inner hlast ih =>
    cases h.get hget with
    | array hitems => exact ih (sound_of_table (hitems _ (List.mem_of_getLast? hlast))) hfind
  | case5 => cases hfind
  | case6 => cases hfind

/-- What is done to the table at the end of a path keeps the whole sound if it keeps that table
    so. -/
theorem Sound.descend {made : Origin} {f : Origin → Fields → Option Fields}
    (hf : ∀ origin fs gs, f origin fs = some gs → Sound fs → Sound gs) {path : List String}
    {origin : Origin} (h : Sound fs) (hdescend : descend? made f path origin fs = some gs) :
    Sound gs := by
  induction path generalizing origin fs gs with
  | nil => exact hf origin fs gs hdescend h
  | cons key path ih =>
    rw [descend?] at hdescend
    refine h.alter (fun old w hw hold => ?_) hdescend
    split at hw
    · obtain ⟨inner, hinner, rfl⟩ := Option.map_eq_some_iff.1 hw
      exact (ih sound_nil hinner).table made
    · rename_i origin' inner
      split at hw
      · cases hw
      · obtain ⟨changed, hchanged, rfl⟩ := Option.map_eq_some_iff.1 hw
        exact (ih (sound_of_table (hold _ rfl)) hchanged).table origin'
    · rename_i items
      have hitems : ∀ v ∈ items, v.Sound := by
        cases hold _ rfl with
        | array hitems => exact hitems
      split at hw
      · rename_i origin' inner hlast
        obtain ⟨changed, hchanged, rfl⟩ := Option.map_eq_some_iff.1 hw
        have hinner := sound_of_table (hitems _ (List.mem_of_getLast? hlast))
        refine .array (List.forall_mem_append.2 ⟨fun v hv => ?_, ?_⟩)
        · exact hitems v ((List.dropLast_sublist items).subset hv)
        · exact List.forall_mem_singleton.2 ((ih hinner hchanged).table origin')
      · cases hw
    · cases hw

theorem Sound.put (h : Sound fs) (hv : v.Sound) {path : List String}
    (hput : put? path key v fs = some gs) : Sound gs := by
  refine h.descend (fun origin inner changed hchanged hinner => ?_) hput
  split at hchanged
  · cases hchanged
  · exact hinner.insert hv hchanged

end Fields

/-! ## Readers -/

namespace Reader

variable {α β : Type} {r : Reader α} {P : α → Prop} {Q : β → Prop}

/-- Whatever a reader takes off a text has a property. -/
def Gives (r : Reader α) (P : α → Prop) : Prop := ∀ cs a rest, r cs = some (a, rest) → P a

theorem gives_true (r : Reader α) : Gives r fun _ => True := fun _ _ _ _ => trivial

theorem gives_pure {a : α} (h : P a) : Gives (pure a) P := by
  rintro cs _ _ ⟨⟩
  exact h

theorem gives_failure : Gives (failure : Reader α) P := nofun

theorem Gives.bind {f : α → Reader β} (h : Gives r P) (hf : ∀ a, P a → Gives (f a) Q) :
    Gives (r >>= f) Q := by
  intro cs b rest heq
  obtain ⟨⟨a, after⟩, ha, hb⟩ := Option.bind_eq_some_iff.1 heq
  exact hf a (h cs a after ha) after b rest hb

/-- What is taken first does not matter. -/
theorem gives_bind {f : α → Reader β} (hf : ∀ a, Gives (f a) Q) : Gives (r >>= f) Q :=
  (gives_true r).bind fun a _ => hf a

theorem Gives.orElse {s : Reader α} (h : Gives r P) (h' : Gives s P) : Gives (orElse r s) P := by
  intro cs a rest heq
  rw [Reader.orElse] at heq
  split at heq
  · rename_i done hdone
    exact h cs a rest (hdone.trans heq)
  · exact h' cs a rest heq

/-! ### Scalars -/

theorem sound_based (base : Nat) : Gives (based base (Text.bitLimit 63)) Value.Sound := by
  refine gives_bind fun ds => ?_
  split
  · rename_i n hn
    have hlt := ((Text.readDigits_eq_ok_iff (by decide)).1 hn).2.2
    exact gives_pure (.integer ⟨by omega, by omega⟩)
  · exact gives_failure

theorem sound_integer : Gives integer Value.Sound := by
  intro cs v rest h
  unfold integer at h
  split at h
  · exact sound_based 16 _ _ _ h
  · exact sound_based 8 _ _ _ h
  · exact sound_based 2 _ _ _ h
  · refine gives_bind (fun negative => gives_bind fun ds => ?_) _ _ _ h
    split
    · rename_i n hn
      have hpos : 0 < Text.bitLimit 63 := by decide
      have hlt := ((Text.readDigits_eq_ok_iff (Nat.add_pos_left hpos _)).1 hn).2.2
      refine gives_pure (.integer ?_)
      cases negative <;> simp only [Bool.false_eq_true, if_true, if_false] at hlt ⊢ <;>
        exact ⟨by omega, by omega⟩
    · exact gives_failure

theorem sound_decimal : Gives decimal Value.Sound := by
  refine gives_bind fun negative => gives_bind fun whole => gives_bind fun part =>
    gives_bind fun power => ?_
  dsimp only
  split
  · exact Gives.bind (P := fun _ => False) gives_failure nofun
  · split
    · exact gives_failure
    · exact gives_pure .float

theorem sound_scalar : Gives scalar Value.Sound := by
  refine gives_bind fun c => ?_
  split
  · exact gives_bind fun _ => gives_pure .text
  · exact gives_bind fun _ => gives_pure .text
  · exact gives_bind fun _ => gives_pure .boolean
  · exact gives_bind fun _ => gives_pure .boolean
  · refine .orElse (gives_bind fun _ => gives_pure .time) (.orElse sound_decimal (.orElse ?_
      sound_integer))
    refine gives_bind fun negative => .orElse ?_ ?_
    · exact gives_bind fun _ => gives_pure .float
    · exact gives_bind fun _ => gives_pure .float

/-! ### Values and lines -/

section Nested

variable {value : Reader Value} (h : Gives value Value.Sound)

include h

theorem sound_items (fuel : Nat) : Gives (items value fuel) fun vs => ∀ v ∈ vs, v.Sound := by
  induction fuel with
  | zero => exact gives_failure
  | succ fuel ih =>
    refine gives_bind fun _ => gives_bind fun c => ?_
    split
    · exact gives_bind fun _ => gives_pure nofun
    · refine h.bind fun v hv => gives_bind fun _ => gives_bind fun c => ?_
      split
      · exact gives_bind fun _ => ih.bind fun vs hvs =>
          gives_pure (List.forall_mem_cons.2 ⟨hv, hvs⟩)
      · exact gives_bind fun _ => gives_pure (List.forall_mem_singleton.2 hv)

theorem sound_pair : Gives (pair value) fun p => p.2.2.Sound :=
  gives_bind fun _ => gives_bind fun _ => gives_bind fun _ => h.bind fun _ hv => gives_pure hv

theorem sound_braced (fuel : Nat) {fs : Fields} (hfs : Fields.Sound fs) :
    Gives (braced value fuel fs) Fields.Sound := by
  induction fuel generalizing fs with
  | zero => exact gives_failure
  | succ fuel ih =>
    refine (sound_pair h).bind fun p hp => ?_
    dsimp only
    split
    · rename_i more hmore
      have hput := hfs.put hp hmore
      refine gives_bind fun _ => gives_bind fun c => ?_
      split
      · exact gives_bind fun _ => ih hput
      · exact gives_bind fun _ => gives_pure hput
    · exact gives_failure

theorem sound_nested : Gives (nested value) Value.Sound := by
  intro cs v rest hread
  refine gives_bind (fun c => ?_) cs v rest hread
  split
  · exact gives_bind fun _ => (sound_items h _).bind fun vs hvs => gives_pure (.array hvs)
  · refine gives_bind fun _ => gives_bind fun _ => gives_bind fun c => ?_
    split
    · exact gives_bind fun _ => gives_pure (Fields.sound_nil.table .inline)
    · exact (sound_braced h _ Fields.sound_nil).bind fun fs hfs => gives_pure (hfs.table .inline)

end Nested

theorem sound_value (depth : Nat) : Gives (value depth) Value.Sound := by
  induction depth with
  | zero => exact sound_scalar
  | succ depth ih =>
    refine gives_bind fun c => ?_
    split
    · exact sound_nested ih
    · exact sound_nested ih
    · exact sound_scalar

end Reader

/-- Whether the value that a line tells is sound. -/
def Line.Sound : Line → Prop
  | field _ _ v => v.Sound
  | header .. | item .. => True

namespace Reader

theorem sound_line : Gives line fun l => ∀ said ∈ l, said.Sound := by
  refine gives_bind fun _ => gives_bind fun c => ?_
  split
  case h_5 =>
    refine gives_bind fun _ => gives_bind fun c => ?_
    split
    · exact gives_bind fun _ => gives_bind fun _ => gives_bind fun _ => gives_bind fun _ =>
        gives_bind fun _ => gives_pure fun said hsaid => Option.mem_some.1 hsaid ▸ trivial
    · exact gives_bind fun _ => gives_bind fun _ => gives_bind fun _ =>
        gives_pure fun said hsaid => Option.mem_some.1 hsaid ▸ trivial
  case h_6 =>
    exact (sound_pair (sound_value _)).bind fun p hp => gives_bind fun _ =>
      gives_pure fun said hsaid => Option.mem_some.1 hsaid ▸ hp
  all_goals exact gives_bind fun _ => gives_pure nofun

theorem sound_lines {fuel : Nat} {cs : List Char} {ls : List Line} (h : lines fuel cs = some ls) :
    ∀ l ∈ ls, l.Sound := by
  fun_induction lines fuel cs generalizing ls with
  | case1 =>
    cases h
    exact nofun
  | case2 => cases h
  | case3 fuel cs _ ih =>
    obtain ⟨⟨first, rest⟩, hfirst, h⟩ := Option.bind_eq_some_iff.1 h
    obtain ⟨others, hothers, h⟩ := Option.bind_eq_some_iff.1 h
    cases h
    refine List.forall_mem_append.2 ⟨fun l hl => ?_, ih rest hothers⟩
    exact sound_line _ _ _ hfirst l (Option.mem_toList.1 hl)

end Reader

/-! ## Documents -/

namespace Builder

/-- Whether the tables that are being put together are sound. -/
structure Sound (b : Builder) : Prop where
  root : Fields.Sound b.root
  current : Fields.Sound b.current

variable {b : Builder} {root outer fields gs : Fields} {path : List String} {key : String}

theorem sound_place (houter : Fields.Sound outer) (hfields : Fields.Sound fields) {isItem : Bool}
    (h : place? isItem key fields outer = some gs) : Fields.Sound gs := by
  have htable := hfields.table .header
  rw [place?] at h
  split at h
  · refine houter.alter (fun old w hw hold => ?_) h
    split at hw
    · cases hw
      exact .array (List.forall_mem_singleton.2 htable)
    · cases hw
      cases hold _ rfl with
      | array hitems =>
        exact .array (List.forall_mem_append.2 ⟨hitems, List.forall_mem_singleton.2 htable⟩)
    · cases hw
  · exact houter.insert htable h

theorem Sound.finish (hb : b.Sound) (h : b.finish? = some gs) : Fields.Sound gs := by
  rw [finish?] at h
  split at h
  · cases h
    exact hb.current
  · exact hb.root.descend (fun _ outer gs hplace houter =>
      sound_place houter hb.current hplace) h

theorem sound_header (hroot : Fields.Sound root) (h : header? path key root = some b) :
    b.Sound := by
  have hrest {root' : Fields} (h : root.descend? .implied (fun _ fs => some (fs.erase key)) path
      .header = some root') : Fields.Sound root' := by
    refine hroot.descend (fun _ fs gs hgs hfs => ?_) h
    cases hgs
    exact hfs.sublist (Fields.erase_sublist key fs)
  unfold header? at h
  dsimp only at h
  split at h
  · obtain ⟨_, ⟨⟩, h⟩ := Option.bind_eq_some_iff.1 h
    obtain ⟨root', hroot', h⟩ := Option.bind_eq_some_iff.1 h
    cases h
    exact ⟨hrest hroot', Fields.sound_nil⟩
  · rename_i hfind
    obtain ⟨_, ⟨⟩, h⟩ := Option.bind_eq_some_iff.1 h
    obtain ⟨root', hroot', h⟩ := Option.bind_eq_some_iff.1 h
    cases h
    exact ⟨hrest hroot', Fields.sound_of_table (hroot.find hfind)⟩
  · cases h

theorem sound_item (hroot : Fields.Sound root) (h : item? path key root = some b) : b.Sound := by
  obtain ⟨root', hroot', h⟩ := Option.bind_eq_some_iff.1 h
  cases h
  refine ⟨hroot.descend (fun _ outer gs hgs houter => ?_) hroot', Fields.sound_nil⟩
  refine houter.alter (fun old w hw hold => ?_) hgs
  split at hw
  · cases hw
    exact .array nofun
  · cases hw
    exact hold _ rfl
  · cases hw

/-- A line more keeps the tables sound. -/
theorem Sound.add (hb : b.Sound) {l : Line} (hl : l.Sound) {b' : Builder}
    (h : b.add? l = some b') : b'.Sound := by
  cases l with
  | field path key v =>
    obtain ⟨current, hcurrent, h⟩ := Option.bind_eq_some_iff.1 h
    cases h
    exact ⟨hb.root, hb.current.put hl hcurrent⟩
  | header path key =>
    obtain ⟨root, hroot, h⟩ := Option.bind_eq_some_iff.1 h
    exact sound_header (hb.finish hroot) h
  | item path key =>
    obtain ⟨root, hroot, h⟩ := Option.bind_eq_some_iff.1 h
    exact sound_item (hb.finish hroot) h

theorem Sound.addAll (hb : b.Sound) {ls : List Line} (hls : ∀ l ∈ ls, l.Sound) {b' : Builder}
    (h : ls.foldlM add? b = some b') : b'.Sound := by
  induction ls generalizing b with
  | nil =>
    cases h
    exact hb
  | cons l ls ih =>
    obtain ⟨hl, hls⟩ := List.forall_mem_cons.1 hls
    rw [List.foldlM_cons] at h
    obtain ⟨next, hnext, h⟩ := Option.bind_eq_some_iff.1 h
    exact ih (hb.add hl hnext) hls h

end Builder

/-- Whatever document a text is read as, its tables tell no key twice, and its numbers have 64
    bits. -/
theorem sound_parse? {text : String} {doc : Fields} (h : parse? text = some doc) :
    Fields.Sound doc := by
  obtain ⟨ls, hls, h⟩ := Option.bind_eq_some_iff.1 h
  obtain ⟨built, hbuilt, h⟩ := Option.bind_eq_some_iff.1 h
  have hempty : ({} : Builder).Sound := ⟨Fields.sound_nil, Fields.sound_nil⟩
  exact (hempty.addAll (Reader.sound_lines hls) hbuilt).finish h

end UsbSession.Toml
