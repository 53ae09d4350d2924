import UsbSession.Proofs.Overlap.Handle

/-!
# Threads come to their ends

Threads on a session do not wait for each other for ever, unless a transfer has to wait for a read
or write that is made meanwhile (`Interlude.gentle`): that one may need a lock which is not given
back before the transfer returns. Where there is nothing of the kind, all threads come to the ends
of their operations (`Session.returns_of_gentle`).

When the threads have come to rest, no transfer waits inside the host any more. Then whoever has the
handle for itself, shares it or holds a lock could go on; so there is nobody, and nobody has to
wait.

* `Schedule.Attended`: what a transfer waits for is going to happen;
* `Point.step?_of_free`: a thread goes on where neither the handle nor a lock is taken.
-/

namespace UsbSession

/-- No transfer has to wait for the end of a read or write. -/
def Interlude.gentle : Interlude → Bool
  | run r => !r.isTransfer
  | queue _ => true

/-- A session that is not open does not open again. -/
theorem Passage.ne_open {c c' : Common} {p q : Point} (h : Passage c p q c')
    (hopen : c.state ≠ .open) : c'.state ≠ .open := by
  cases h with
  | lock | unlock => rwa [Common.state_setHeld]
  | flip _ isOpen => exact absurd isOpen hopen
  | store => exact Session.State.noConfusion
  | _ => exact hopen

namespace Point

variable {s : Session} {c : Common} {m : Moment} {p : Point} {mv : Move}

/-- The lock that a thread at the point waits for. -/
def lock? : Point → Option Direction
  | queued what _ => some what.direction
  | drainQueued => some .incoming
  | _ => none

/-- Where the handle can be shared a thread goes on, unless it waits for a lock or the handle. -/
theorem step?_of_free (hexclusive : c.exclusive = false) (hadmits : m.admits = true)
    (hlock : ∀ d, p.lock? = some d → c.held d = false)
    (hhandle : p.awaitsHandle = true → c.sharers = 0) (hreply : p.reply? = none) :
    ∃ mv, p.step? s c m = some mv := by
  have hfree : (c.exclusive || !m.admits) = false := by rw [hexclusive, hadmits]; rfl
  cases p with
  | queued what timeout => exact ⟨_, if_neg (by rw [hlock _ rfl]; exact Bool.false_ne_true)⟩
  | drainQueued => exact ⟨_, if_neg (by rw [hlock _ rfl]; exact Bool.false_ne_true)⟩
  | checking x =>
    rw [step?]
    split <;> exact ⟨_, rfl⟩
  | sharing x | cancelSharing | drainSharing =>
    exact ⟨_, if_neg (by rw [hfree]; exact Bool.false_ne_true)⟩
  | moved x answer => cases answer <;> exact ⟨_, rfl⟩
  | flipping disconnected =>
    rw [step?]
    split <;> exact ⟨_, rfl⟩
  | draining reads answer => cases answer <;> exact ⟨_, rfl⟩
  | taking => exact ⟨_, if_neg (by simp [hexclusive, hhandle rfl])⟩
  | attaching answer => cases answer <;> exact ⟨_, rfl⟩
  | looking request => cases request <;> exact ⟨_, rfl⟩
  | finished reply => cases hreply
  | _ => exact ⟨_, rfl⟩

theorem step?_of_owns (h : p.owns = true) (s : Session) (c : Common) (m : Moment) :
    ∃ mv, p.step? s c m = some mv := by
  cases p with
  | took => exact ⟨_, rfl⟩
  | _ => cases h

/-- A thread at the point waits neither for a lock nor for the handle, and is not at its end. -/
structure Busy (p : Point) : Prop where
  lock : p.lock? = none
  handle : p.awaitsHandle = false
  reply : p.reply? = none

theorem busy_of_shares (h : p.shares = true) : p.Busy := by
  cases p <;> first | exact ⟨rfl, rfl, rfl⟩ | cases h

theorem busy_of_holds {d : Direction} (h : p.holds d = true) : p.Busy := by
  cases p <;> first | exact ⟨rfl, rfl, rfl⟩ | cases h

end Point

namespace Schedule

variable {sch next : Schedule} {n i : Nat} {t : Thread} {c : Crowd}

/-! ## What transfers wait for -/

/-- What a transfer waits for has come about, or some thread has yet to make it come about. -/
def Due (sch : Schedule) : Hold → Prop
  | .leftOpen => sch.common.state ≠ .open ∨
      ∃ t ∈ sch.threads, ∃ disconnected, t.point = .flipping disconnected
  | .finished thread => ∃ t, sch.threads[thread]? = some t ∧
      ((∃ r, t.point = .looking r) ∨ ∃ reply, t.point = .finished reply)
  | .pause => True

/-- Every transfer that waits does so for something that is going to happen. -/
structure Attended (sch : Schedule) : Prop where
  gentle : sch.here.device.Only Interlude.gentle
  due : ∀ t ∈ sch.threads, ∀ hold, t.hold = some hold → sch.Due hold

/-- What holds of the device before a move holds of it afterwards. -/
theorem preserves_shift {P : Device → Prop} (hP : Device.Enduring P) (hshift : sch.Shift i next)
    (h : P sch.here.device) : P next.here.device := by
  have hserve (p : Point) : P (sch.serve p).2.2.here.device := by
    cases p with
    | starting x => exact hP.enter _ x.what h
    | drainStarting reads => exact hP.enter _ (.read Session.drainSize) h
    | moving x answer => exact hP.leave _ x.what answer h
    | handleClosing => exact hP.handles sch.here.device _ h
    | _ => exact h
  cases hshift with
  | freed thread held session common device => exact device ▸ h
  | stepped thread free step session common device => exact device ▸ hserve _
  | interrupted thread free step during session common device => exact device ▸ hserve _

/-- What happens meanwhile is of the kind that the device knows. -/
theorem serve_during {f : Interlude → Bool} (h : sch.here.device.Only f) {p : Point} {x : Interlude}
    (hx : (sch.serve p).2.1 = some x) : f x = true := by
  cases p with
  | starting y => exact (Device.only_enter h y.what).1 x hx
  | drainStarting reads => exact (Device.only_enter h (.read Session.drainSize)).1 x hx
  | _ => cases hx

/-- A thread stays where it is, or makes a step. -/
theorem Shift.point (hshift : sch.Shift i next) {k : Nat} (ht : sch.threads[k]? = some t) :
    ∃ t', next.threads[k]? = some t' ∧ (t'.point = t.point ∨ ∃ m mv,
      t.point.step? sch.session sch.common m = some mv ∧ t'.point = mv.point ∧
        next.common = mv.common) := by
  have hk := (List.getElem?_eq_some_iff.1 ht).1
  -- Only the thread that moves is replaced.
  have hset (new : Thread) : (sch.threads.set i new)[k]? = some (if i = k then new else t) := by
    rw [List.getElem?_set]
    split
    · rename_i hik
      rw [if_pos (hik ▸ hk)]
    · exact ht
  have hmoved {moving : Thread} {mv : Move} {m : Moment} (hold : Option Hold)
      (hi : sch.threads[i]? = some moving)
      (hstep : moving.point.step? sch.session sch.common m = some mv)
      (hcommon : next.common = mv.common) :
      (if i = k then ⟨mv.point, hold⟩ else t : Thread).point = t.point ∨ ∃ m mv',
        t.point.step? sch.session sch.common m = some mv' ∧
          (if i = k then ⟨mv.point, hold⟩ else t : Thread).point = mv'.point ∧
          next.common = mv'.common := by
    split
    · rename_i hik
      subst hik
      rw [ht] at hi
      cases hi
      exact .inr ⟨m, mv, hstep, rfl, hcommon⟩
    · exact .inl rfl
  cases hshift with
  | @freed moving thread held session common device threads =>
    refine ⟨_, threads ▸ hset _, .inl ?_⟩
    split
    · rename_i hik
      subst hik
      rw [ht] at thread
      exact congrArg (·.point) (Option.some.inj thread).symm
    · rfl
  | stepped thread free step session common device threads =>
    exact ⟨_, threads ▸ hset _, hmoved none thread step common⟩
  | @interrupted moving mv x thread free step during session common device threads =>
    refine ⟨_, ?_, hmoved (some (x.hold sch.threads.length)) thread step common⟩
    rw [threads, List.getElem?_append_left (by rwa [List.length_set]), hset]

theorem Shift.ne_open (hshift : sch.Shift i next) (hopen : sch.common.state ≠ .open) :
    next.common.state ≠ .open := by
  cases hshift with
  | freed thread held session common => exact common ▸ hopen
  | stepped thread free step session common =>
    exact common ▸ (Point.passage_of_step step).ne_open hopen
  | interrupted thread free step during session common =>
    exact common ▸ (Point.passage_of_step step).ne_open hopen

/-- Nobody gives up what a transfer waits for. -/
theorem Due.shift {hold : Hold} (h : sch.Due hold) (hshift : sch.Shift i next) : next.Due hold := by
  cases hold with
  | leftOpen =>
    rcases h with hopen | ⟨t, ht, disconnected, hpoint⟩
    · exact .inl (hshift.ne_open hopen)
    · obtain ⟨k, hk⟩ := List.getElem?_of_mem ht
      obtain ⟨t', ht', hsame | ⟨m, mv, hstep, hpoint', hcommon⟩⟩ := hshift.point hk
      · exact .inr ⟨t', List.mem_of_getElem? ht', disconnected, hsame.trans hpoint⟩
      · -- The thread takes the session into closing, if nobody has yet.
        rw [hpoint, Point.step?] at hstep
        split at hstep
        · cases hstep
          exact .inl (hcommon ▸ Session.State.noConfusion)
        · rename_i hopen
          exact .inl (hshift.ne_open hopen)
  | finished thread =>
    obtain ⟨t, ht, hpoint⟩ := h
    obtain ⟨t', ht', hsame | ⟨m, mv, hstep, hpoint', -⟩⟩ := hshift.point ht
    · exact ⟨t', ht', hsame ▸ hpoint⟩
    · rcases hpoint with ⟨r, hpoint⟩ | ⟨reply, hpoint⟩ <;> rw [hpoint] at hstep
      · refine ⟨t', ht', .inr ?_⟩
        rw [hpoint']
        cases r <;> cases hstep <;> exact ⟨_, rfl⟩
      · cases hstep
  | pause => trivial

/-- What is started meanwhile is not the read or write that a transfer would have to wait for. -/
theorem due_of_gentle {x : Interlude} (hx : x.gentle = true) {before : List Thread}
    (hthreads : next.threads = before ++ [⟨.ofRequest sch.session x.request, none⟩]) :
    next.Due (x.hold before.length) := by
  have hlast : next.threads[before.length]? = some ⟨.ofRequest sch.session x.request, none⟩ := by
    rw [hthreads]
    exact List.getElem?_concat_length
  cases x with
  | run r =>
    cases r with
    | read | write => cases hx
    | close disconnected => exact .inr ⟨_, List.mem_of_getElem? hlast, disconnected, rfl⟩
    | state | details | debug => exact ⟨_, hlast, .inl ⟨_, rfl⟩⟩
  | queue r => trivial

theorem Attended.shift (h : sch.Attended) (hshift : sch.Shift i next) : next.Attended := by
  refine ⟨preserves_shift (Device.byQueues_only _).enduring hshift h.gentle,
    fun t ht hold hhold => ?_⟩
  -- A thread that waited before goes on to, for the same thing.
  have hold_of_mem (ht : t ∈ sch.threads) : next.Due hold := (h.due t ht hold hhold).shift hshift
  cases hshift with
  | freed thread held session common device threads =>
    rcases List.mem_or_eq_of_mem_set (threads ▸ ht) with ht | rfl
    · exact hold_of_mem ht
    · cases hhold
  | stepped thread free step session common device threads =>
    rcases List.mem_or_eq_of_mem_set (threads ▸ ht) with ht | rfl
    · exact hold_of_mem ht
    · cases hhold
  | @interrupted moving mv x thread free step during session common device threads =>
    have hdue := due_of_gentle (serve_during h.gentle during) threads
    rcases List.mem_append.1 (threads ▸ ht) with ht | ht
    · rcases List.mem_or_eq_of_mem_set ht with ht | rfl
      · exact hold_of_mem ht
      · cases hhold
        rwa [List.length_set] at hdue
    · cases List.mem_singleton.1 ht
      cases hhold

/-! ## Rest -/

/-- A transfer goes on if what it waits for has come about. -/
theorem move?_of_letGo? {hold : Hold} (ht : sch.threads[i]? = some t) (hhold : t.hold = some hold)
    (hgo : sch.letGo? i t.point hold ≠ none) : sch.move? i ≠ none := by
  obtain ⟨freed, hfreed⟩ := Option.ne_none_iff_exists'.1 hgo
  simp only [move?, ht, hhold, hfreed, Option.bind_eq_bind, Option.bind_some]
  exact Option.some_ne_none _

section Rest

variable (hb : sch.Backed n c) (hrest : ∀ i, sch.move? i = none)

include hrest

/-- Nobody who waits for no transfer can make a step any more. -/
theorem step?_of_rest (ht : t ∈ sch.threads) (hfree : t.hold = none) :
    t.point.step? sch.session sch.common
      { now := sch.here.now, answer := (sch.serve t.point).1 } = none := by
  obtain ⟨i, hi⟩ := List.getElem?_of_mem ht
  by_contra hstep
  obtain ⟨mv, hmv⟩ := Option.ne_none_iff_exists'.1 hstep
  exact move?_ne_none hi hfree hmv (hrest i)

include hb

/-- No transfer waits any more. -/
theorem hold_of_rest (h : sch.Attended) (ht : t ∈ sch.threads) : t.hold = none := by
  cases hhold : t.hold with
  | none => rfl
  | some hold =>
    obtain ⟨i, hi⟩ := List.getElem?_of_mem ht
    -- What it waits for would let the transfer go, or the thread that brings it about could move.
    exfalso
    cases hold with
    | leftOpen =>
      rcases h.due t ht .leftOpen hhold with hopen | ⟨t', ht', disconnected, hpoint⟩
      · refine move?_of_letGo? hi hhold ?_ (hrest i)
        rw [letGo?, if_neg hopen]
        exact Option.some_ne_none _
      · have hfree := hb.hold_eq_none ht' (by rw [hpoint]; rfl)
        have hstep := step?_of_rest hrest ht' hfree
        rw [hpoint, Point.step?] at hstep
        split at hstep <;> cases hstep
    | finished thread =>
      obtain ⟨t', hthread, ⟨r, hpoint⟩ | ⟨reply, hpoint⟩⟩ := h.due t ht (.finished thread) hhold
      · have ht' := List.mem_of_getElem? hthread
        have hfree := hb.hold_eq_none ht' (by rw [hpoint]; rfl)
        have hstep := step?_of_rest hrest ht' hfree
        rw [hpoint] at hstep
        cases r <;> cases hstep
      · refine move?_of_letGo? hi hhold ?_ (hrest i)
        simp [letGo?, hthread, hpoint, Point.reply?]
    | pause => exact move?_of_letGo? hi hhold (Option.some_ne_none _) (hrest i)

/-- All threads have come to the ends of their operations. -/
theorem reply_of_rest (h : sch.Attended) (ht : t ∈ sch.threads) : t.point.reply?.isSome = true := by
  have hstuck {t : Thread} (ht : t ∈ sch.threads) :=
    step?_of_rest hrest ht (hold_of_rest hb hrest h ht)
  -- Nobody has the handle for itself, since the owner can always go on.
  have hexclusive : sch.common.exclusive = false := Bool.eq_false_iff.2 fun hex => by
    obtain ⟨t, ht, howns⟩ := hb.exists_thread (f := Point.owns)
      (by rw [hb.sound.owners, hb.common, hex]; exact Nat.one_pos)
    obtain ⟨mv, hstep⟩ := Point.step?_of_owns howns sch.session sch.common
      { now := sch.here.now, answer := (sch.serve t.point).1 }
    rw [hstuck ht] at hstep
    cases hstep
  have hwaits {t : Thread} (ht : t ∈ sch.threads)
      (hlock : ∀ d, t.point.lock? = some d → sch.common.held d = false)
      (hhandle : t.point.awaitsHandle = true → sch.common.sharers = 0) :
      t.point.reply?.isSome = true := by
    cases hreply : t.point.reply? with
    | some reply => rfl
    | none =>
      obtain ⟨mv, hstep⟩ := Point.step?_of_free (s := sch.session)
        (m := { now := sch.here.now, answer := (sch.serve t.point).1 }) hexclusive rfl hlock hhandle
        hreply
      rw [hstuck ht] at hstep
      cases hstep
  -- Nobody shares it or holds a lock either, since these wait for nobody else.
  have hbusy {t : Thread} (ht : t ∈ sch.threads) (hp : t.point.Busy) : False := by
    have hreply := hwaits ht (by rw [hp.lock]; exact nofun) (by rw [hp.handle]; exact nofun)
    rw [hp.reply] at hreply
    cases hreply
  refine hwaits ht (fun d _ => Bool.eq_false_iff.2 fun hheld => ?_) fun _ => ?_
  · obtain ⟨t, ht, hholds⟩ := hb.exists_thread (f := Point.holds d)
      (by rw [hb.sound.locks, hb.common, hheld]; exact Nat.one_pos)
    exact hbusy ht (Point.busy_of_holds hholds)
  · by_contra hsharers
    obtain ⟨t, ht, hshares⟩ := hb.exists_thread (f := Point.shares)
      (by rw [hb.sound.sharers, hb.common]; exact Nat.pos_of_ne_zero hsharers)
    exact hbusy ht (Point.busy_of_shares hshares)

end Rest

end Schedule

/-- What holds of the device before the threads take turns holds of it afterwards. -/
theorem Session.preserves_overlapping {P : Device → Prop} (hP : Device.Enduring P) (s : Session)
    (r : Request) : Preserves P (s.overlapping r) := by
  intro p h
  change P (s.rested r p).here.device
  exact Schedule.run_induction (P := fun sch => P sch.here.device)
    (fun _ _ _ h hshift => Schedule.preserves_shift hP hshift h) _ h

/-- All threads come to the ends of their operations, if no transfer has to wait for the end of a
    read or write. -/
theorem Session.returns_of_gentle {s : Session} (r : Request) {p : Clocked}
    (hwhole : s.state ≠ .closing) (h : s.state.handles ≤ p.device.openHandles)
    (hgentle : p.device.Only Interlude.gentle) :
    ∀ t ∈ (s.rested r p).threads, t.point.reply?.isSome = true := by
  obtain ⟨c, hbacked⟩ := backed_rested r hwhole h
  have hattended : (s.rested r p).Attended :=
    Schedule.run_induction (P := Schedule.Attended) (fun _ _ _ h hshift => h.shift hshift) _
      ⟨hgentle, fun t ht hold hhold => by cases List.mem_singleton.1 ht; cases hhold⟩
  exact fun t ht => Schedule.reply_of_rest hbacked (s.move?_rested r p) hattended ht

end UsbSession
