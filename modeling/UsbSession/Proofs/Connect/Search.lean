import Mathlib.Data.List.Basic
import UsbSession.Proofs.Connect.Attempt

/-!
# The search for a device

How the candidates for a session are found and tried (`Manager.does_connect`).

The devices are looked at while candidates before them are tried. An attempt changes the device that
it works on only, so it makes no difference whether the candidates (`Prospect`) are found as the
attempts go on or beforehand (`Manager.does_tryEach`). What then comes of them is a matter of their
scripts.

* `Manager.mem_prospects_iff`: what is found are the candidates.
-/

namespace UsbSession

open Traced (Does)

/-! ## Candidates -/

/-- The device is a candidate: its descriptor and its active configuration can be read, it is no
    human interface device, and it has the ids and the expected endpoints. -/
structure Device.IsCandidate (d : Device) (vendor product : Id) (o : Options) (c : Candidate) :
    Prop where
  details : d.details = .ok c.details
  notHid : c.details.isHid = false
  vendor : c.details.vendor = vendor
  product : c.details.product = product
  binding : ∃ layout, d.layout = .ok layout ∧ layout.resolve o = some c.binding

namespace Device

variable {d : Device} {vendor product : Id} {o : Options} {c : Candidate}

theorem readDetails_value : d.readDetails.value = d.details.toOption := by
  unfold readDetails
  split <;> rename_i h <;> rw [h] <;> rfl

theorem readBinding_value : (d.readBinding o).value = d.layout.toOption.bind (·.resolve o) := by
  unfold readBinding
  split
  · rename_i layout h
    rw [h]
    change _ = layout.resolve o
    split <;> rename_i hresolve <;> rw [hresolve] <;> rfl
  · rename_i h
    rw [h]
    rfl

theorem candidate?_eq_some_iff :
    (d.candidate? vendor product o).value = some c ↔ d.IsCandidate vendor product o c := by
  unfold candidate?
  rw [Log.Logged.value_bind, readDetails_value]
  constructor
  · -- What is looked at, one after the other, is what a candidate has.
    intro h
    cases hdetails : d.details with
    | error code => rw [hdetails] at h; cases h
    | ok details =>
      rw [hdetails] at h
      simp only [Except.toOption] at h
      split at h
      · cases h
      · rename_i hhid
        split at h
        · cases h
        · rename_i hids
          rw [Log.Logged.value_bind, readBinding_value] at h
          obtain ⟨hvendor, hproduct⟩ : details.vendor = vendor ∧ details.product = product := by
            simpa using hids
          cases hlayout : d.layout with
          | error code => rw [hlayout] at h; cases h
          | ok layout =>
            cases hresolve : layout.resolve o with
            | none => rw [hlayout, Except.toOption, Option.bind_some, hresolve] at h; cases h
            | some binding =>
              rw [hlayout, Except.toOption, Option.bind_some, hresolve] at h
              cases h
              exact ⟨hdetails, by simpa using hhid, hvendor, hproduct, layout, hlayout, hresolve⟩
  · rintro ⟨hdetails, hhid, rfl, rfl, layout, hlayout, hbinding⟩
    have hresolved : (d.readBinding o).value = some c.binding := by
      rw [readBinding_value, hlayout]
      exact hbinding
    simp [hdetails, Except.toOption, hhid, hresolved]

end Device

/-- A candidate as it is found. -/
structure Prospect where
  /-- The place of the device. -/
  place : Nat
  device : Device
  candidate : Candidate

/-- The bus after a list of devices was asked for and, if it was handed out, released. -/
def Bus.listing (bus : Bus) : Bus :=
  if bus.listError.isSome then bus
  else { bus with enumerations := bus.enumerations + 1, listFrees := bus.listFrees + 1 }

theorem Bus.listing_of_error {bus : Bus} {code : Failure} (h : bus.listError = some code) :
    bus.listing = bus :=
  if_pos (by rw [h]; rfl)

theorem Bus.listing_of_none {bus : Bus} (h : bus.listError = none) :
    bus.listing =
      { bus with enumerations := bus.enumerations + 1, listFrees := bus.listFrees + 1 } :=
  if_neg (by rw [h]; exact Bool.false_ne_true)

@[simp] theorem Bus.devices_listing (bus : Bus) : bus.listing.devices = bus.devices := by
  unfold listing
  split <;> rfl

theorem Bus.does_enumerate {bus : Bus} (h : bus.listError = none) :
    Does Mark.call? enumerate bus (.ok ()) []
      { bus with enumerations := bus.enumerations + 1 } := by
  have hlook : Does Mark.call? (Traced.look Bus.listError) bus none [] bus := ⟨h, rfl, rfl⟩
  exact hlook.bind_silent ((Does.change _ _).bind_silent (.pure _ _))

theorem Bus.does_enumerate_of_error {bus : Bus} {code : Failure} (h : bus.listError = some code) :
    Does Mark.call? enumerate bus (.error code) [] bus := by
  have hlook : Does Mark.call? (Traced.look Bus.listError) bus (some code) [] bus := ⟨h, rfl, rfl⟩
  exact hlook.bind_silent (.pure _ _)

namespace Manager

variable (m : Manager) (vendor product : Id) (reset : Bool)

/-- The candidates among the devices at the places. -/
def prospects (bus : Bus) (places : List Nat) : List Prospect :=
  places.filterMap fun place =>
    ((bus.device place).candidate? vendor product m.options).value.map
      (⟨place, bus.device place, ·⟩)

/-- What comes of trying a candidate. -/
def answer (q : Prospect) : Except Error Session := m.attempt q.device.script q.place q.candidate

/-- The candidates that are tried: the first that accepts a session is the last of them. -/
def tried : List Prospect → List Prospect
  | [] => []
  | q :: qs =>
    match m.answer q with
    | .ok _ => [q]
    | .error _ => q :: tried qs

/-- What comes of trying the candidates, where `last` is the failure of the latest. -/
def verdict (last : Error) : List Prospect → Except Error Session
  | [] => .error last
  | q :: qs =>
    match m.answer q with
    | .ok s => .ok s
    | .error e => verdict e qs

/-- The calls to the device when a candidate is tried. -/
def callsAt (q : Prospect) : List (Nat × Call) :=
  (m.attemptCalls q.device.script q.candidate reset).map (q.place, ·)

/-- The devices after a candidate was tried. -/
def afterTrying (devices : List Device) (q : Prospect) : List Device :=
  devices.set q.place (m.attempted q.device q.candidate)

end Manager

theorem Bus.device_after {bus : Bus} {place : Nat} (p : Clocked) (i : Nat)
    (hplace : place < bus.devices.length) :
    (bus.after place p).device i = if i = place then p.device else bus.device i := by
  unfold device after
  rw [List.getD_eq_getElem?_getD, List.getElem?_set]
  split <;> simp_all [eq_comm]

namespace Manager

variable {m : Manager} {vendor product : Id} {reset : Bool} {bus : Bus}

section Cons

variable {q : Prospect} {s : Session} {e : Error}

theorem tried_cons_of_ok (h : m.answer q = .ok s) (qs : List Prospect) :
    m.tried (q :: qs) = [q] := by
  rw [tried, h]

theorem tried_cons_of_error (h : m.answer q = .error e) (qs : List Prospect) :
    m.tried (q :: qs) = q :: m.tried qs := by
  rw [tried, h]

theorem verdict_cons_of_ok (h : m.answer q = .ok s) (last : Error) (qs : List Prospect) :
    m.verdict last (q :: qs) = .ok s := by
  rw [verdict, h]

theorem verdict_cons_of_error (h : m.answer q = .error e) (last : Error) (qs : List Prospect) :
    m.verdict last (q :: qs) = m.verdict e qs := by
  rw [verdict, h]

theorem prospects_cons_of_none {place : Nat} (places : List Nat)
    (h : ((bus.device place).candidate? vendor product m.options).value = none) :
    m.prospects vendor product bus (place :: places) = m.prospects vendor product bus places := by
  rw [prospects, List.filterMap_cons, h]
  rfl

theorem prospects_cons_of_some {place : Nat} {c : Candidate} (places : List Nat)
    (h : ((bus.device place).candidate? vendor product m.options).value = some c) :
    m.prospects vendor product bus (place :: places) =
      ⟨place, bus.device place, c⟩ :: m.prospects vendor product bus places := by
  rw [prospects, List.filterMap_cons, h]
  rfl

end Cons

/-- What is found does not depend on devices at other places. -/
theorem prospects_after {place : Nat} {places : List Nat} (p : Clocked)
    (hplace : place < bus.devices.length) (hnot : place ∉ places) :
    m.prospects vendor product (bus.after place p) places =
      m.prospects vendor product bus places := by
  refine List.filterMap_congr fun i hi => ?_
  have hne : i ≠ place := fun h => hnot (h ▸ hi)
  rw [Bus.device_after p i hplace, if_neg hne]

theorem does_tryEach {places : List Nat} (hnodup : places.Nodup)
    (hbound : ∀ i ∈ places, i < bus.devices.length) (last : Option Error) :
    Does Mark.call? (m.tryEach vendor product reset last places) bus
      (m.verdict (last.getD (.notFound vendor product)) (m.prospects vendor product bus places))
      ((m.tried (m.prospects vendor product bus places)).flatMap (m.callsAt reset))
      { bus with
        devices := (m.tried (m.prospects vendor product bus places)).foldl m.afterTrying
          bus.devices } := by
  induction places generalizing bus last with
  | nil => exact (Bus.does_log _).bind_silent (.pure _ _)
  | cons place places ih =>
    obtain ⟨hplace, hbound⟩ := List.forall_mem_cons.1 hbound
    obtain ⟨hnot, hnodup⟩ := List.nodup_cons.1 hnodup
    refine (Does.look _ _).bind_silent ((Bus.does_logged _).bind_silent ?_)
    cases hc : ((bus.device place).candidate? vendor product m.options).value with
    | none =>
      -- A device that is no candidate is passed over.
      rw [prospects_cons_of_none places hc]
      exact ih hnodup hbound last
    | some c =>
      rw [prospects_cons_of_some places hc]
      have hact := Bus.does_act (m.does_openSession place c reset ⟨bus.device place, bus.now⟩)
      cases hanswer : m.answer ⟨place, bus.device place, c⟩ with
      | ok s =>
        rw [tried_cons_of_ok hanswer, verdict_cons_of_ok hanswer]
        refine hact.bind ?_
        rw [show m.attempt (bus.device place).script place c = .ok s from hanswer]
        exact (Bus.does_log _).bind_silent (.pure _ _)
      | error e =>
        rw [tried_cons_of_error hanswer, verdict_cons_of_error hanswer]
        refine hact.bind ?_
        rw [show m.attempt (bus.device place).script place c = .error e from hanswer]
        refine (Bus.does_log _).bind_silent ?_
        -- The attempt has left the devices further on as they were.
        rw [← prospects_after ⟨m.attempted (bus.device place) c, bus.now⟩ hplace hnot]
        exact ih hnodup (by simpa [Bus.after] using hbound) (some e)

/-! ## Connecting -/

/-- What is found are the candidates. -/
theorem mem_prospects_iff {places : List Nat} {q : Prospect} :
    q ∈ m.prospects vendor product bus places ↔
      q.place ∈ places ∧ q.device = bus.device q.place ∧
        q.device.IsCandidate vendor product m.options q.candidate := by
  unfold prospects
  rw [List.mem_filterMap]
  constructor
  · rintro ⟨place, hplace, hq⟩
    obtain ⟨c, hc, rfl⟩ := Option.map_eq_some_iff.1 hq
    exact ⟨hplace, rfl, Device.candidate?_eq_some_iff.1 hc⟩
  · rintro ⟨hplace, hdevice, hcandidate⟩
    refine ⟨q.place, hplace, Option.map_eq_some_iff.2 ⟨q.candidate, ?_, ?_⟩⟩
    · exact hdevice ▸ Device.candidate?_eq_some_iff.2 hcandidate
    · rw [← hdevice]

/-- They are found in the order of the places. -/
theorem pairwise_prospects {places : List Nat} (h : places.Pairwise (· < ·)) :
    (m.prospects vendor product bus places).Pairwise fun a b => a.place < b.place := by
  refine List.pairwise_filterMap.2 (h.imp fun {i j} hij a ha b hb => ?_)
  obtain ⟨c, -, rfl⟩ := Option.map_eq_some_iff.1 ha
  obtain ⟨c', -, rfl⟩ := Option.map_eq_some_iff.1 hb
  exact hij

/-- A device that is not tried is left as it is. -/
theorem getElem?_foldl_afterTrying {qs : List Prospect} {devices : List Device} {i : Nat}
    (h : ∀ q ∈ qs, q.place ≠ i) : (qs.foldl m.afterTrying devices)[i]? = devices[i]? := by
  induction qs generalizing devices with
  | nil => rfl
  | cons q qs ih =>
    obtain ⟨hq, hqs⟩ := List.forall_mem_cons.1 h
    rw [List.foldl_cons, ih hqs, afterTrying, List.getElem?_set_ne hq]

/-- A device that is tried is left as the attempt leaves it. -/
theorem getElem?_foldl_afterTrying_of_mem {qs : List Prospect} {devices : List Device}
    (hqs : qs.Pairwise fun a b => a.place < b.place) {q : Prospect} (hq : q ∈ qs)
    (hplace : q.place < devices.length) :
    (qs.foldl m.afterTrying devices)[q.place]? = some (m.attempted q.device q.candidate) := by
  induction qs generalizing devices with
  | nil => cases hq
  | cons r qs ih =>
    obtain ⟨hr, hqs⟩ := List.pairwise_cons.1 hqs
    rw [List.foldl_cons]
    -- The candidates after `q` are at other places, and do not touch its device again.
    rcases List.mem_cons.1 hq with rfl | hq
    · rw [getElem?_foldl_afterTrying fun q' hq' => Nat.ne_of_gt (hr q' hq'), afterTrying,
        List.getElem?_set_self hplace]
    · exact ih hqs hq (by rwa [afterTrying, List.length_set])

theorem does_connect_of_error (m : Manager) (vendor product : Id) (reset : Bool) {code : Failure}
    (h : bus.listError = some code) :
    Does Mark.call? (m.connect vendor product reset) bus (.error (.usb code)) [] bus :=
  (Bus.does_enumerate_of_error h).bind_silent (.pure _ _)

theorem does_connect (m : Manager) (vendor product : Id) (reset : Bool) (h : bus.listError = none) :
    let qs := m.prospects vendor product bus (List.range bus.devices.length)
    Does Mark.call? (m.connect vendor product reset) bus (m.verdict (.notFound vendor product) qs)
      ((m.tried qs).flatMap (m.callsAt reset))
      { bus with
        devices := (m.tried qs).foldl m.afterTrying bus.devices
        enumerations := bus.enumerations + 1
        listFrees := bus.listFrees + 1 } := by
  intro qs
  refine (Bus.does_enumerate h).bind_silent ?_
  refine (Does.look _ _).bind_silent ((Bus.does_log _).bind_silent ?_)
  refine (does_tryEach List.nodup_range (fun i hi => List.mem_range.1 hi) none).bind_pure ?_
  exact (Does.change _ _).bind_silent (.pure _ _)

/-- Listing devices makes no calls and leaves them as they are. -/
theorem does_find (vendor product : Id) (bus : Bus) : ∃ value,
    Does Mark.call? (find vendor product) bus value [] bus.listing := by
  cases hlist : bus.listError with
  | some code =>
    rw [Bus.listing_of_error hlist]
    exact ⟨_, (Bus.does_enumerate_of_error hlist).bind_silent (.pure _ _)⟩
  | none =>
    rw [Bus.listing_of_none hlist]
    exact ⟨_, (Bus.does_enumerate hlist).bind_silent ((Does.look _ _).bind_silent
      ((Bus.does_logged _).bind_silent ((Bus.does_log _).bind_silent
        ((Does.change _ _).bind_silent (.pure _ _)))))⟩

end Manager

end UsbSession
