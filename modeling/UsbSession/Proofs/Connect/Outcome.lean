import UsbSession.Proofs.Connect.Search

/-!
# The outcome of connecting

Which candidate gets the session, and what is returned when none does
(`Manager.connect_outcome`). The first that accepts gets it, and nobody after it is troubled; only
the failures of open, set configuration and claim make a candidate refuse.
-/

namespace UsbSession

namespace Manager

variable {m : Manager} {vendor product : Id} {reset : Bool} {bus : Bus}

/-! ## Attempts -/

/-- What the candidates that are tried, and the rest of them, have to do with the value. -/
inductive Attempts (m : Manager) (otherwise : Error) :
    List Prospect → List Prospect → Except Error Session → Prop
  /-- The last that is tried is the first that accepts, and the rest is spared. -/
  | accepted {before rest : List Prospect} {q : Prospect} {s : Session}
      (refused : ∀ r ∈ before, ∃ e, m.answer r = .error e) (accepts : m.answer q = .ok s) :
      Attempts m otherwise (before ++ [q]) rest (.ok s)
  /-- All are tried and refuse, the last of them for the reason that is returned. -/
  | exhausted {before : List Prospect} {q : Prospect} {e : Error}
      (refused : ∀ r ∈ before, ∃ e, m.answer r = .error e) (refuses : m.answer q = .error e) :
      Attempts m otherwise (before ++ [q]) [] (.error e)
  /-- There is none. -/
  | nobody : Attempts m otherwise [] [] (.error otherwise)

theorem attempts (m : Manager) (otherwise : Error) (qs : List Prospect) :
    ∃ rest, qs = m.tried qs ++ rest ∧
      m.Attempts otherwise (m.tried qs) rest (m.verdict otherwise qs) := by
  induction qs generalizing otherwise with
  | nil => exact ⟨[], rfl, .nobody⟩
  | cons q qs ih =>
    cases hanswer : m.answer q with
    | ok s =>
      rw [tried_cons_of_ok hanswer, verdict_cons_of_ok hanswer]
      exact ⟨qs, rfl, Attempts.accepted (List.forall_mem_nil _) hanswer⟩
    | error e =>
      rw [tried_cons_of_error hanswer, verdict_cons_of_error hanswer]
      obtain ⟨rest, hqs, h⟩ := ih e
      refine ⟨rest, congrArg _ hqs, ?_⟩
      -- `q` goes in front of those that refuse, or is the last if there are no others.
      generalize m.tried qs = tried, m.verdict e qs = value at h
      cases h with
      | accepted refused accepts =>
        exact .accepted (List.forall_mem_cons.2 ⟨⟨e, hanswer⟩, refused⟩) accepts
      | exhausted refused refuses =>
        exact .exhausted (List.forall_mem_cons.2 ⟨⟨e, hanswer⟩, refused⟩) refuses
      | nobody => exact Attempts.exhausted (List.forall_mem_nil _) hanswer

/-- The session is open, on the device that was tried. -/
theorem of_answer_ok {q : Prospect} {s : Session} (h : m.answer q = .ok s) :
    s.state = .open ∧ s.device = q.place := by
  unfold answer attempt at h
  split at h
  · cases h
  · cases h
    exact ⟨rfl, rfl⟩

namespace Attempts

variable {otherwise : Error} {tried rest : List Prospect} {value : Except Error Session}
  (h : m.Attempts otherwise tried rest value)

include h

/-- Connecting fails if all candidates refuse. -/
theorem fails_iff :
    (∃ e, value = .error e) ↔ ∀ q ∈ tried ++ rest, ∃ e, m.answer q = .error e := by
  cases h with
  | @accepted before rest q s refused accepts =>
    refine ⟨fun ⟨e, he⟩ => ?_, fun hall => ?_⟩
    · cases he
    · obtain ⟨e, he⟩ := hall q (by simp)
      rw [accepts] at he
      cases he
  | @exhausted before q e refused refuses =>
    refine ⟨fun _ r hr => ?_, fun _ => ⟨e, rfl⟩⟩
    rw [List.append_nil] at hr
    rcases List.mem_append.1 hr with hr | hr
    · exact refused r hr
    · exact ⟨e, List.mem_singleton.1 hr ▸ refuses⟩
  | nobody => exact ⟨fun _ => List.forall_mem_nil _, fun _ => ⟨otherwise, rfl⟩⟩

/-- Nothing is found if there are no candidates. -/
theorem eq_otherwise_iff (hotherwise : ∀ q, m.answer q ≠ .error otherwise) :
    value = .error otherwise ↔ tried ++ rest = [] := by
  cases h with
  | accepted => simp
  | @exhausted before q e refused refuses =>
    refine ⟨fun he => ?_, fun hnil => ?_⟩
    · exact absurd (refuses.trans he) (hotherwise q)
    · simp at hnil
  | nobody => simp

/-- A session comes from a candidate that was tried. -/
theorem exists_of_ok {s : Session} (hvalue : value = .ok s) : ∃ q ∈ tried, m.answer q = .ok s := by
  cases h with
  | @accepted before rest q s' refused accepts =>
    cases hvalue
    exact ⟨q, List.mem_append_right _ List.mem_cons_self, accepts⟩
  | exhausted | nobody => cases hvalue

/-- Of the candidates that were tried, which are all at other places, the one at the place of the
    session accepted it. -/
theorem isSome_answer (hplaces : tried.Pairwise fun a b => a.place < b.place) {q : Prospect}
    (hq : q ∈ tried) :
    (m.answer q).toOption.isSome = value.toOption.any (·.device == q.place) := by
  have hrefuses {q : Prospect} (hq : ∃ e, m.answer q = .error e) :
      (m.answer q).toOption.isSome = false := by
    obtain ⟨e, he⟩ := hq
    rw [he]
    rfl
  cases h with
  | @accepted before rest last s refused accepts =>
    change _ = (s.device == q.place)
    rw [(of_answer_ok accepts).2]
    rcases List.mem_append.1 hq with hq | hq
    · have hlt := (List.pairwise_append.1 hplaces).2.2 q hq last List.mem_cons_self
      rw [hrefuses (refused q hq), beq_eq_false_iff_ne.2 (Nat.ne_of_gt hlt)]
    · rw [List.mem_singleton.1 hq, accepts, beq_self_eq_true]
      rfl
  | @exhausted before last e refused refuses =>
    rcases List.mem_append.1 hq with hq | hq
    · exact hrefuses (refused q hq)
    · exact hrefuses ⟨e, List.mem_singleton.1 hq ▸ refuses⟩
  | nobody => cases hq

end Attempts

theorem answer_ne_notFound (q : Prospect) : m.answer q ≠ .error (.notFound vendor product) := by
  unfold answer attempt refusal? objection?
  cases q.device.script.openError <;> cases m.configurationError? q.device.script <;>
    cases q.device.script.claimError <;> intro h <;> cases h

end Manager

/-! ## Failures that make no difference -/

/-- The buses differ at most in failures that do not keep a session from being opened. -/
structure Bus.Agrees (bus bus' : Bus) : Prop where
  listError : bus.listError = bus'.listError
  length : bus.devices.length = bus'.devices.length
  details : ∀ i, (bus.device i).details = (bus'.device i).details
  layout : ∀ i, (bus.device i).layout = (bus'.device i).layout
  script : ∀ i, (bus.device i).script.Agrees (bus'.device i).script

namespace Manager

variable {m : Manager} {vendor product : Id} {bus : Bus}

/-- A session, or why there is none; whether the session has to give a kernel driver back is left
    out. -/
def outcome (value : Except Error Session) : Except Error Session :=
  value.map fun s => { s with reattach := false }

theorem outcome_attempt {sc sc' : Script} (h : sc.Agrees sc') (place : Nat) (c : Candidate) :
    outcome (m.attempt sc place c) = outcome (m.attempt sc' place c) := by
  unfold attempt
  rw [m.refusal?_of_agrees h c]
  cases m.refusal? sc' c <;> rfl

theorem outcome_verdict {bus' : Bus} (h : bus.Agrees bus') (places : List Nat) (last : Error) :
    outcome (m.verdict last (m.prospects vendor product bus places)) =
      outcome (m.verdict last (m.prospects vendor product bus' places)) := by
  induction places generalizing last with
  | nil => rfl
  | cons place places ih =>
    -- Who is a candidate is not a matter of the script.
    have hcandidate : (bus.device place).candidate? vendor product m.options =
        (bus'.device place).candidate? vendor product m.options := by
      unfold Device.candidate? Device.readDetails Device.readBinding
      rw [h.details place, h.layout place]
    cases hc : ((bus'.device place).candidate? vendor product m.options).value with
    | none =>
      rw [prospects_cons_of_none places hc, prospects_cons_of_none places (hcandidate ▸ hc)]
      exact ih last
    | some c =>
      rw [prospects_cons_of_some places hc, prospects_cons_of_some places (hcandidate ▸ hc)]
      have hsame : outcome (m.answer ⟨place, bus.device place, c⟩) =
          outcome (m.answer ⟨place, bus'.device place, c⟩) :=
        outcome_attempt (h.script place) place c
      -- The candidate accepts in both buses, or refuses in both and for the same reason.
      cases hanswer : m.answer ⟨place, bus.device place, c⟩ with
      | ok s =>
        cases hanswer' : m.answer ⟨place, bus'.device place, c⟩ with
        | ok s' =>
          rw [verdict_cons_of_ok hanswer, verdict_cons_of_ok hanswer', ← hanswer, hsame, hanswer']
        | error e => rw [hanswer, hanswer'] at hsame; cases hsame
      | error e =>
        cases hanswer' : m.answer ⟨place, bus'.device place, c⟩ with
        | ok s' => rw [hanswer, hanswer'] at hsame; cases hsame
        | error e' =>
          rw [hanswer, hanswer'] at hsame
          cases hsame
          rw [verdict_cons_of_error hanswer, verdict_cons_of_error hanswer']
          exact ih e

/-! ## The whole -/

/-- The candidates that are tried are at different places of the bus. -/
theorem tried_prospects (m : Manager) (vendor product : Id) (bus : Bus) :
    let tried := m.tried (m.prospects vendor product bus (List.range bus.devices.length))
    tried.Pairwise (fun a b => a.place < b.place) ∧
      ∀ q ∈ tried, q.place < bus.devices.length ∧ q.device = bus.device q.place := by
  intro tried
  obtain ⟨rest, hqs, -⟩ := m.attempts (.notFound vendor product)
    (m.prospects vendor product bus (List.range bus.devices.length))
  have hordered : (tried ++ rest).Pairwise fun a b => a.place < b.place :=
    hqs ▸ pairwise_prospects List.pairwise_lt_range
  refine ⟨(List.pairwise_append.1 hordered).1, fun q hq => ?_⟩
  obtain ⟨hplace, hdevice, -⟩ := mem_prospects_iff.1 (hqs ▸ List.mem_append_left rest hq)
  exact ⟨List.mem_range.1 hplace, hdevice⟩

/-- A device is left as it is, or as the one attempt leaves it that is made on it. -/
theorem device_connect (m : Manager) (vendor product : Id) (reset : Bool)
    (h : bus.listError = none) (i : Nat) :
    let tried := m.tried (m.prospects vendor product bus (List.range bus.devices.length))
    let after := ((m.connect vendor product reset).run bus).state
    (∀ q ∈ tried, q.place ≠ i) ∧ after.device i = bus.device i ∨
      ∃ q ∈ tried, q.place = i ∧ after.device i = m.attempted (bus.device i) q.candidate := by
  intro tried after
  have hafter : after.devices = tried.foldl m.afterTrying bus.devices :=
    congrArg Bus.devices (m.does_connect vendor product reset h).state
  obtain ⟨hordered, hplaces⟩ := m.tried_prospects vendor product bus
  by_cases hi : ∃ q ∈ tried, q.place = i
  · obtain ⟨q, hq, rfl⟩ := hi
    refine .inr ⟨q, hq, rfl, ?_⟩
    obtain ⟨hplace, hdevice⟩ := hplaces q hq
    rw [Bus.device, hafter, List.getD_eq_getElem?_getD,
      getElem?_foldl_afterTrying_of_mem hordered hq hplace, ← hdevice]
    rfl
  · have hi : ∀ q ∈ tried, q.place ≠ i := fun q hq hplace => hi ⟨q, hq, hplace⟩
    refine .inl ⟨hi, ?_⟩
    rw [Bus.device, Bus.device, hafter, List.getD_eq_getElem?_getD, getElem?_foldl_afterTrying hi,
      List.getD_eq_getElem?_getD]

/-- Connecting takes no device off the bus. -/
theorem length_connect (m : Manager) (vendor product : Id) (reset : Bool) (bus : Bus) :
    ((m.connect vendor product reset).run bus).state.devices.length = bus.devices.length := by
  cases h : bus.listError with
  | some code => rw [(m.does_connect_of_error vendor product reset h).state]
  | none =>
    rw [(m.does_connect vendor product reset h).state]
    dsimp only
    generalize m.tried _ = tried
    generalize bus.devices = devices
    induction tried generalizing devices with
    | nil => rfl
    | cons q tried ih => rw [List.foldl_cons, ih, afterTrying, List.length_set]

/-- Connecting leaves the queues of every device alone. -/
theorem queues_connect (m : Manager) (vendor product : Id) (reset : Bool) (bus : Bus) (i : Nat) :
    let d := ((m.connect vendor product reset).run bus).state.device i
    d.inbound = (bus.device i).inbound ∧ d.outbound = (bus.device i).outbound := by
  intro d
  cases hlist : bus.listError with
  | some code =>
    have hdevice : d = bus.device i :=
      congrArg (·.device i) (m.does_connect_of_error vendor product reset hlist).state
    exact ⟨congrArg _ hdevice, congrArg _ hdevice⟩
  | none =>
    rcases m.device_connect vendor product reset hlist i with ⟨-, hsame⟩ | ⟨q, -, -, hdevice⟩
    · exact ⟨congrArg _ hsame, congrArg _ hsame⟩
    · -- An attempt opens the device and configures it.
      refine ⟨(congrArg _ hdevice).trans ?_, (congrArg _ hdevice).trans ?_⟩ <;>
        unfold attempted <;> split <;> rfl

theorem openHandles_attempted (m : Manager) (q : Prospect) :
    (m.attempted q.device q.candidate).openHandles =
      q.device.openHandles + (m.answer q).toOption.isSome.toNat := by
  unfold attempted answer attempt refusal?
  cases q.device.script.openError with
  | some code => rfl
  | none => cases m.objection? q.device.script q.candidate <;> rfl

/-- Connecting opens the handle of the session that it returns, and leaves no other open. -/
theorem openHandles_connect (m : Manager) (vendor product : Id) (reset : Bool) (bus : Bus) :
    let o := (m.connect vendor product reset).run bus
    (∀ s, o.value = .ok s → s.state = .open ∧ s.device < bus.devices.length) ∧
      ∀ i, (o.state.device i).openHandles = (bus.device i).openHandles +
        (o.value.toOption.any (·.device == i)).toNat := by
  intro o
  cases hlist : bus.listError with
  | some code =>
    have hdoes := m.does_connect_of_error vendor product reset hlist
    have hvalue : o.value = .error (.usb code) := hdoes.value
    have hstate : o.state = bus := hdoes.state
    rw [hvalue, hstate]
    clear_value o
    refine ⟨?_, ?_⟩
    · intro s hs
      cases hs
    · intro i
      rfl
  | none =>
    obtain ⟨hordered, hplaces⟩ := m.tried_prospects vendor product bus
    obtain ⟨rest, -, hattempts⟩ := m.attempts (.notFound vendor product)
      (m.prospects vendor product bus (List.range bus.devices.length))
    have hvalue : o.value = _ := (m.does_connect vendor product reset hlist).value
    rw [← hvalue] at hattempts
    refine ⟨fun s hs => ?_, fun i => ?_⟩
    · obtain ⟨q, hq, hanswer⟩ := hattempts.exists_of_ok hs
      obtain ⟨hopen, hplace⟩ := of_answer_ok hanswer
      exact ⟨hopen, hplace ▸ (hplaces q hq).1⟩
    · rcases m.device_connect vendor product reset hlist i with
        ⟨hnot, hsame⟩ | ⟨q, hq, rfl, hdevice⟩
      · -- The session, if there is one, is on a device that was tried.
        have hnone : o.value.toOption.any (·.device == i) = false := by
          cases hvalue : o.value with
          | error e => rfl
          | ok s =>
            obtain ⟨q, hq, hanswer⟩ := hattempts.exists_of_ok hvalue
            exact beq_eq_false_iff_ne.2 ((of_answer_ok hanswer).2 ▸ hnot q hq)
        rw [hnone]
        exact congrArg _ hsame
      · rw [← hattempts.isSome_answer hordered hq, (hplaces q hq).2.symm, ← openHandles_attempted,
          (hplaces q hq).2]
        exact congrArg _ hdevice

/-- What connecting on a bus that can be enumerated comes to. -/
structure Search (m : Manager) (vendor product : Id) (reset : Bool) (bus : Bus)
    (tried rest : List Prospect) (o : Outcome Bus Mark (Except Error Session)) : Prop where
  /-- Together they are all candidates. -/
  candidates : ∀ q, q ∈ tried ++ rest ↔ q.place < bus.devices.length ∧
    q.device = bus.device q.place ∧ q.device.IsCandidate vendor product m.options q.candidate
  /-- They are in the order of enumeration. -/
  ordered : (tried ++ rest).Pairwise fun a b => a.place < b.place
  /-- The first that accepts gets the session, and the last that refuses tells the reason. -/
  attempts : m.Attempts (.notFound vendor product) tried rest o.value
  fails : (∃ e, o.value = .error e) ↔ ∀ q ∈ tried ++ rest, ∃ e, m.answer q = .error e
  notFound : o.value = .error (.notFound vendor product) ↔ tried ++ rest = []
  /-- The calls are those of the attempts, one attempt after the other. -/
  calls : Mark.calls o.trace = tried.flatMap (m.callsAt reset)
  /-- The devices that are not tried are left as they are. -/
  untouched : ∀ i, (∀ q ∈ tried, q.place ≠ i) → o.state.devices[i]? = bus.devices[i]?

/-- What connecting comes to. -/
structure Connects (m : Manager) (vendor product : Id) (reset : Bool) (bus : Bus) : Prop where
  /-- Without a list of devices nothing is done. -/
  unlisted : ∀ code, bus.listError = some code →
    let o := (m.connect vendor product reset).run bus
    o.value = .error (.usb code) ∧ Mark.calls o.trace = [] ∧ o.state = bus
  listed : bus.listError = none → ∃ tried rest,
    m.Search vendor product reset bus tried rest ((m.connect vendor product reset).run bus)
  /-- Other failures than those of open, set configuration and claim make no difference. -/
  tolerant : ∀ bus', bus.Agrees bus' →
    outcome ((m.connect vendor product reset).run bus).value =
      outcome ((m.connect vendor product reset).run bus').value

/-- Connecting tries the candidates in turn until one accepts, and no more. -/
theorem connect_outcome (m : Manager) (vendor product : Id) (reset : Bool) (bus : Bus) :
    m.Connects vendor product reset bus where
  unlisted code h := by
    have hdoes := m.does_connect_of_error vendor product reset h
    exact ⟨hdoes.value, hdoes.calls, hdoes.state⟩
  listed h := by
    have hdoes := m.does_connect vendor product reset h
    obtain ⟨rest, hqs, hattempts⟩ := m.attempts (.notFound vendor product)
      (m.prospects vendor product bus (List.range bus.devices.length))
    rw [← hdoes.value] at hattempts
    refine ⟨_, rest, ?_, ?_, hattempts, hattempts.fails_iff,
      hattempts.eq_otherwise_iff answer_ne_notFound, hdoes.calls, fun i hi => ?_⟩
    · intro q
      rw [← hqs, mem_prospects_iff, List.mem_range]
    · rw [← hqs]
      exact pairwise_prospects List.pairwise_lt_range
    · rw [hdoes.state]
      exact getElem?_foldl_afterTrying hi
  tolerant bus' h := by
    cases herror : bus.listError with
    | some code =>
      rw [(m.does_connect_of_error vendor product reset herror).value,
        (m.does_connect_of_error vendor product reset (h.listError ▸ herror)).value]
    | none =>
      rw [(m.does_connect vendor product reset herror).value,
        (m.does_connect vendor product reset (h.listError ▸ herror)).value, h.length]
      exact outcome_verdict h _ _

/-- A failure to tell the active configuration makes a difference if the configuration, though it is
    active, cannot be selected. -/
theorem connect_getConfiguration_failed :
    let endpoints := [.ofAddress 0x81 .bulk, .ofAddress 0x01 .bulk]
    let refusing : Device := {
      details := .ok { (default : Details) with vendor := ⟨0x0483⟩, product := ⟨0xa27e⟩ }
      layout := .ok ⟨1, [⟨0, 0, 255, endpoints⟩]⟩
      script := { setConfigurationError := some .io } }
    let puzzling : Device := { refusing with script.getConfigurationError := some .pipe }
    let m : Manager := { options := { configuration := some 1 } }
    (∃ s, ((m.connect ⟨0x0483⟩ ⟨0xa27e⟩ false).run { devices := [refusing] }).value = .ok s) ∧
      ((m.connect ⟨0x0483⟩ ⟨0xa27e⟩ false).run { devices := [puzzling] }).value =
        .error (.usb .io) :=
  ⟨⟨_, rfl⟩, rfl⟩

end Manager

end UsbSession
