import Mathlib.Data.List.Basic
import UsbSession.Overlap.Point
import UsbSession.Proofs.Calls

/-!
# Crowds

Any number of threads on one session, under any schedule. A request that some thread makes of the
session is a *visit*: what is asked for, and the point where the thread stands. A thread that makes
several requests one after the other makes several visits. A *crowd* is the visits so far and what
the threads have in common; it moves by one *stride* of one visit at a time, with whatever time,
host answer and admission to the handle the stride meets (`Crowd.Run`).

A stride changes what the threads have in common in one of nine ways, each of which goes with what
the thread has before and after it (`Passage`, `Point.passage_of_step`). Every invariant of crowds
is read off these nine, not off the points.

* `Crowd.Sound`: locks are held, and the handle is shared, taken and torn down, by the threads that
  stand at such points and by nobody else;
* `Crowd.Run.sound`: it holds after every run.
-/

namespace UsbSession

namespace Common

variable (c : Common) (value : Bool) (d d' : Direction)

@[simp] theorem held_setHeld :
    (c.setHeld value d).held d' = if d = d' then value else c.held d' := by
  cases d <;> cases d' <;> rfl

@[simp] theorem state_setHeld : (c.setHeld value d).state = c.state := by cases d <;> rfl

@[simp] theorem sharers_setHeld : (c.setHeld value d).sharers = c.sharers := by cases d <;> rfl

@[simp] theorem exclusive_setHeld : (c.setHeld value d).exclusive = c.exclusive := by
  cases d <;> rfl

@[simp] theorem handle_setHeld : (c.setHeld value d).handle = c.handle := by cases d <;> rfl

@[simp] theorem held_share : c.share.held d = c.held d := by cases d <;> rfl

@[simp] theorem held_unshare : c.unshare.held d = c.held d := by cases d <;> rfl

end Common

namespace Point

/-! ## What a thread has at a point -/

/-- Whether a thread at the point has the handle for itself. -/
def owns : Point → Bool
  | took => true
  | _ => false

/-- Whether a thread at the point works with the handle that it shares. -/
def uses : Point → Bool
  | starting _ | moving .. | moved _ (some _) | cancelStarting | cancelling _ | drainStarting _
  | draining .. => true
  | _ => false

/-- Whether a thread at the point has taken the handle away from the others. -/
def dismantles : Point → Bool
  | releaseStarting | releasing _ | attachStarting | attaching _ | handleClosing | handleClosed
  | storing => true
  | _ => false

/-- Whether a thread at the point has taken the session into closing and is not done with it. -/
def closes : Point → Bool
  | cancelSharing | cancelStarting | cancelling _ | cancelled | drainQueued | drainSharing
  | drainStarting _ | draining .. | drained _ | drainLeaving _ | taking | took => true
  | p => p.dismantles

/-- Whether a thread at the point has a cancel inside the host. -/
def cancels : Point → Bool
  | cancelling _ => true
  | _ => false

/-- Whether a thread at the point has a transfer of the direction inside the host. -/
def moves (d : Direction) (p : Point) : Bool := p.inside?.any (·.direction == d)

theorem holds_of_moves {d : Direction} {p : Point} (h : p.moves d = true) : p.holds d = true := by
  cases p <;> simp_all [moves, inside?, holds, Transfer.direction]

theorem uses_of_cancels {p : Point} (h : p.cancels = true) : p.uses = true := by
  cases p <;> simp_all [cancels, uses]

theorem shares_of_uses {p : Point} (h : p.uses = true) : p.shares = true := by
  cases p <;> simp_all [uses, shares]

theorem closes_of_dismantles {p : Point} (h : p.dismantles = true) : p.closes = true := by
  cases p <;> first | rfl | cases h

end Point

/-! ## What a step does -/

/-- A step from `p` to `q` that changes what the threads have in common from `c` to `c'`. -/
inductive Passage (c : Common) : Point → Point → Common → Prop
  /-- The thread has afterwards what it had before. -/
  | keep {p q : Point} (holds : ∀ d, q.holds d = p.holds d) (shares : q.shares = p.shares)
      (owns : p.owns = false ∧ q.owns = false) (uses : q.uses = true → p.uses = true)
      (closes : q.closes = p.closes) (dismantles : q.dismantles = true → p.dismantles = true) :
      Passage c p q c
  /-- The thread takes the lock of a direction. -/
  | lock {p q : Point} (d : Direction) (free : c.held d = false)
      (holds : ∀ d', p.holds d' = false ∧ q.holds d' = (d == d'))
      (shares : p.shares = false ∧ q.shares = false) (owns : p.owns = false ∧ q.owns = false)
      (closes : q.closes = p.closes) (dismantles : q.dismantles = false) :
      Passage c p q (c.setHeld true d)
  /-- The thread gives the lock of a direction back. -/
  | unlock {p q : Point} (d : Direction) (holds : ∀ d', p.holds d' = (d == d') ∧ q.holds d' = false)
      (shares : p.shares = false ∧ q.shares = false) (owns : p.owns = false ∧ q.owns = false)
      (closes : q.closes = p.closes) (dismantles : q.dismantles = false) :
      Passage c p q (c.setHeld false d)
  /-- The thread begins to share the handle. -/
  | share {p q : Point} (free : c.exclusive = false) (holds : ∀ d, q.holds d = p.holds d)
      (shares : p.shares = false ∧ q.shares = true) (owns : p.owns = false ∧ q.owns = false)
      (uses : q.uses = true → c.handle = true) (closes : q.closes = p.closes)
      (dismantles : q.dismantles = false) : Passage c p q c.share
  /-- The thread leaves the handle to the others. -/
  | unshare {p q : Point} (holds : ∀ d, q.holds d = p.holds d)
      (shares : p.shares = true ∧ q.shares = false) (owns : p.owns = false ∧ q.owns = false)
      (closes : q.closes = p.closes) (dismantles : q.dismantles = false) : Passage c p q c.unshare
  /-- The thread gets the handle for itself. -/
  | seize (free : c.exclusive = false) (unshared : c.sharers = 0) :
      Passage c .taking .took { c with exclusive := true }
  /-- The thread takes the handle away and lets the others look. -/
  | take {q : Point} (dismantles : q.dismantles = true)
      (holds : ∀ d, q.holds d = false) (shares : q.shares = false) (owns : q.owns = false) :
      Passage c .took q { c with exclusive := false, handle := false }
  /-- The thread takes the open session into closing. -/
  | flip {q : Point} (disconnected : Bool) (isOpen : c.state = .open)
      (holds : ∀ d, q.holds d = false) (shares : q.shares = false) (owns : q.owns = false)
      (closes : q.closes = true) (dismantles : q.dismantles = false) :
      Passage c (.flipping disconnected) q { c with state := .closing }
  /-- The thread marks the session as closed. -/
  | store (reply : Reply) : Passage c .storing (.finished reply) { c with state := .closed }

namespace Point

variable {s : Session} {c : Common} {m : Moment}

/-- A step that tries to share the handle shares it. -/
theorem passage_of_enterHandle {p there gone : Point} {mv : Move}
    (h : enterHandle c m there gone = some mv) (hp : p.shares = false)
    (hthere : there.shares = true) (hgone : gone.shares = true ∧ gone.uses = false)
    (holds : ∀ d, there.holds d = p.holds d ∧ gone.holds d = p.holds d)
    (owns : p.owns = false ∧ there.owns = false ∧ gone.owns = false)
    (closes : there.closes = p.closes ∧ gone.closes = p.closes)
    (dismantles : there.dismantles = false ∧ gone.dismantles = false) :
    Passage c p mv.point mv.common := by
  unfold enterHandle at h
  split at h
  · cases h
  · -- Nobody has the handle for itself, so it can be shared, be it there or not.
    rename_i hfree
    obtain ⟨hex, -⟩ : c.exclusive = false ∧ m.admits = true := by simpa using hfree
    cases h
    by_cases hhandle : c.handle = true
    · simp only [hhandle, if_true]
      exact .share hex (fun d => (holds d).1) ⟨hp, hthere⟩ ⟨owns.1, owns.2.1⟩ (fun _ => hhandle)
        closes.1 dismantles.1
    · simp only [hhandle]
      exact .share hex (fun d => (holds d).2) ⟨hp, hgone.1⟩ ⟨owns.1, owns.2.2⟩
        (fun hu => absurd hu (by simp [hgone.2])) closes.2 dismantles.2

/-- Every step is one of the nine. -/
theorem passage_of_step {p : Point} {mv : Move} (h : p.step? s c m = some mv) :
    Passage c p mv.point mv.common := by
  cases p with
  | queued what timeout =>
    simp only [step?] at h
    split at h
    · cases h
    · rename_i hfree
      cases h
      exact .lock what.direction (by simpa using hfree) (fun d => ⟨rfl, rfl⟩) ⟨rfl, rfl⟩ ⟨rfl, rfl⟩
        rfl rfl
  | checking x =>
    simp only [step?] at h
    split at h <;> cases h <;> exact .keep (fun _ => rfl) rfl ⟨rfl, rfl⟩ id rfl id
  | sharing x =>
    exact passage_of_enterHandle h rfl rfl ⟨rfl, rfl⟩ (fun _ => ⟨rfl, rfl⟩) ⟨rfl, rfl, rfl⟩
      ⟨rfl, rfl⟩ ⟨rfl, rfl⟩
  | cancelSharing | drainSharing =>
    exact passage_of_enterHandle h rfl rfl ⟨rfl, rfl⟩ (fun _ => ⟨rfl, rfl⟩) ⟨rfl, rfl, rfl⟩
      ⟨rfl, rfl⟩ ⟨rfl, rfl⟩
  | moved x answer =>
    cases answer with
    | none => cases h; exact .unshare (fun _ => rfl) ⟨rfl, rfl⟩ ⟨rfl, rfl⟩ rfl rfl
    | some answer =>
      simp only [step?, Option.some.injEq] at h
      subst h
      -- The judgement decides where the thread goes, but it leaves the handle either way.
      cases (s.judge x.what x.deadline m.now answer).value <;>
        exact .unshare (fun _ => rfl) ⟨rfl, rfl⟩ ⟨rfl, rfl⟩ rfl rfl
  | leaving d result =>
    cases h
    exact .unlock d (fun d' => ⟨rfl, rfl⟩) ⟨rfl, rfl⟩ ⟨rfl, rfl⟩ rfl rfl
  | flipping disconnected =>
    simp only [step?] at h
    split at h
    · rename_i hopen
      cases h
      cases disconnected <;> exact .flip _ hopen (fun _ => rfl) rfl rfl rfl rfl
    · cases h
      exact .keep (fun _ => rfl) rfl ⟨rfl, rfl⟩ id rfl id
  | cancelled | drained reads =>
    cases h
    exact .unshare (fun _ => rfl) ⟨rfl, rfl⟩ ⟨rfl, rfl⟩ rfl rfl
  | drainQueued =>
    simp only [step?] at h
    split at h
    · cases h
    · rename_i hfree
      cases h
      exact .lock .incoming (by simpa using hfree) (fun d => ⟨rfl, by cases d <;> rfl⟩) ⟨rfl, rfl⟩
        ⟨rfl, rfl⟩ rfl rfl
  | draining reads answer =>
    cases answer with
    | ok bytes =>
      simp only [step?] at h
      split at h <;> cases h <;> exact .keep (fun _ => rfl) rfl ⟨rfl, rfl⟩ (fun _ => rfl) rfl id
    | error code => cases h; exact .keep (fun _ => rfl) rfl ⟨rfl, rfl⟩ (fun _ => rfl) rfl id
  | drainLeaving reads =>
    cases h
    exact .unlock .incoming (fun d => ⟨by cases d <;> rfl, rfl⟩) ⟨rfl, rfl⟩ ⟨rfl, rfl⟩ rfl rfl
  | taking =>
    simp only [step?] at h
    split at h
    · cases h
    · rename_i hfree
      cases h
      have hfree : c.exclusive = false ∧ c.sharers = 0 := by simpa using hfree
      exact .seize hfree.1 hfree.2
  | took =>
    simp only [step?, Option.some.injEq] at h
    subst h
    cases c.handle <;> exact .take rfl (fun _ => rfl) rfl rfl
  | releasing answer =>
    simp only [step?, Option.some.injEq] at h
    subst h
    cases s.reattach <;> exact .keep (fun _ => rfl) rfl ⟨rfl, rfl⟩ id rfl id
  | attaching answer =>
    cases answer <;> cases h <;> exact .keep (fun _ => rfl) rfl ⟨rfl, rfl⟩ id rfl id
  | storing => cases h; exact .store _
  | looking request =>
    cases request <;> cases h <;> exact .keep (fun _ => rfl) rfl ⟨rfl, rfl⟩ id rfl id
  | finished reply => cases h
  | cancelling answer => cases h; exact .keep (fun _ => rfl) rfl ⟨rfl, rfl⟩ (fun _ => rfl) rfl id
  | starting | moving | cancelStarting | drainStarting | releaseStarting | attachStarting
  | handleClosing | handleClosed =>
    cases h
    exact .keep (fun _ => rfl) rfl ⟨rfl, rfl⟩ id rfl id

end Point

/-! ### What is conserved -/

namespace Passage

variable {c c' : Common} {p q : Point} (h : Passage c p q c')

include h

/-- A lock changes as what the thread holds. -/
theorem held {d : Direction} (hp : p.holds d = true → c.held d = true) :
    (c'.held d).toNat + (p.holds d).toNat = (c.held d).toNat + (q.holds d).toNat := by
  cases h with
  | keep holds | share _ holds | unshare holds => simp [holds d]
  | lock d' free holds => by_cases hd : d' = d <;> simp_all
  | unlock d' holds => by_cases hd : d' = d <;> simp_all
  | seize => cases d <;> rfl
  | take _ holds | flip _ _ holds => rw [holds d]; cases d <;> rfl
  | store => cases d <;> rfl

/-- The count of sharers changes as what the thread shares. -/
theorem sharers (hp : p.shares = true → 0 < c.sharers) :
    c'.sharers + p.shares.toNat = c.sharers + q.shares.toNat := by
  cases h with
  | keep _ shares => rw [shares]
  | lock _ _ _ shares | unlock _ _ shares => simp [shares]
  | share _ _ shares => simp [shares, Common.share]
  | unshare _ shares =>
    have := hp shares.1
    simp [shares, Common.unshare]
    omega
  | seize => rfl
  | take _ _ shares | flip _ _ _ shares => rw [shares]; rfl
  | store => rfl

/-- The handle gets an owner, or loses it, with the thread. -/
theorem exclusive (hp : p.owns = true → c.exclusive = true) :
    c'.exclusive.toNat + p.owns.toNat = c.exclusive.toNat + q.owns.toNat := by
  cases h with
  | keep _ _ owns | lock _ _ _ _ owns | unlock _ _ _ owns => simp [owns]
  | share _ _ _ owns | unshare _ _ owns => simp [owns, Common.share, Common.unshare]
  | seize free => rw [free]; rfl
  | take _ _ _ owns => rw [owns, hp rfl]; rfl
  | flip _ _ _ _ owns => rw [owns]; rfl
  | store => rfl

/-- The session begins and ends to be closing with the thread. -/
theorem closing (hp : p.closes = true → c.state = .closing) :
    (c'.state == .closing).toNat + p.closes.toNat =
      (c.state == .closing).toNat + q.closes.toNat := by
  cases h with
  | keep _ _ _ _ closes => rw [closes]
  | lock _ _ _ _ _ closes | unlock _ _ _ _ closes => simp [closes]
  | share _ _ _ _ _ closes | unshare _ _ _ closes => rw [closes]; rfl
  | seize => rfl
  | take dismantles => rw [Point.closes_of_dismantles dismantles]; rfl
  | flip _ isOpen _ _ _ closes => rw [isOpen, closes]; rfl
  | store => rw [hp rfl]; rfl

/-- Who is closing the session goes on until the session is marked as closed. -/
theorem closes (hp : p.closes = true) : q.closes = true ∨ p = .storing := by
  cases h with
  | keep _ _ _ _ closes | lock _ _ _ _ _ closes | unlock _ _ _ _ closes | share _ _ _ _ _ closes
  | unshare _ _ _ closes => exact .inl (closes.trans hp)
  | seize => exact .inl rfl
  | take dismantles => exact .inl (Point.closes_of_dismantles dismantles)
  | flip => cases hp
  | store => exact .inr rfl

/-- Whoever has the handle for itself does not share it with anyone. -/
theorem unshared (hc : c.exclusive = true → c.sharers = 0) (hx : c'.exclusive = true) :
    c'.sharers = 0 := by
  cases h with
  | keep => exact hc hx
  | lock | unlock => simp_all
  | share free => simp_all [Common.share]
  | unshare => simp_all [Common.unshare]
  | seize _ unshared => exact unshared
  | take => cases hx
  | flip => exact hc hx
  | store => exact hc hx

/-- The handle is taken away by its owner only, and does not come back. -/
theorem handle : c'.handle = c.handle ∨ p.owns = true ∧ c'.handle = false := by
  cases h with
  | lock | unlock => simp
  | take => exact .inr ⟨rfl, rfl⟩
  | _ => exact .inl rfl

/-- A handle that the thread works with is there. -/
theorem present (hp : p.uses = true → c.handle = true) (hq : q.uses = true) :
    c'.handle = true := by
  cases h with
  | keep _ _ _ uses => exact hp (uses hq)
  | share _ _ _ _ uses => exact uses hq
  | lock _ _ _ shares | unlock _ _ shares | unshare _ shares =>
    exact absurd (Point.shares_of_uses hq) (by simp [shares])
  | seize | store => cases hq
  | take _ _ shares | flip _ _ _ shares => exact absurd (Point.shares_of_uses hq) (by simp [shares])

/-- A handle that the thread tears down is gone. -/
theorem gone (hp : p.dismantles = true → c.handle = false) (hq : q.dismantles = true) :
    c'.handle = false := by
  cases h with
  | keep _ _ _ _ _ dismantles => exact hp (dismantles hq)
  | take => rfl
  | seize | store => cases hq
  | lock _ _ _ _ _ _ dismantles | unlock _ _ _ _ _ dismantles
  | share _ _ _ _ _ _ dismantles | unshare _ _ _ _ dismantles
  | flip _ _ _ _ _ _ dismantles => exact absurd hq (by simp [dismantles])

end Passage

/-! ## Crowds -/

/-- A request that a thread makes of the session. -/
structure Visit where
  request : Request
  /-- Where the thread stands. -/
  point : Point

/-- The visits of a session, and what the threads that make them have in common. -/
structure Crowd where
  common : Common := {}
  visits : List Visit := []

/-- A step of a visit. -/
structure Stride where
  /-- The place of the visit among the visits. -/
  visit : Nat
  /-- Where the thread stood. -/
  point : Point
  /-- What the threads had in common. -/
  common : Common
  moment : Moment
  /-- What the step left. -/
  move : Move

/-- The host calls that start with the step. -/
def Stride.calls (st : Stride) : List Call := Entry.calls st.move.entries

namespace Crowd

/-- How many threads stand at a point of a kind. -/
def count (c : Crowd) (f : Point → Bool) : Nat := c.visits.countP fun v => f v.point

/-- Another request is made of the session. -/
def arrive (c : Crowd) (s : Session) (r : Request) : Crowd :=
  { c with visits := c.visits ++ [⟨r, .ofRequest s r⟩] }

/-- The visit at a place makes a step. -/
def advance (c : Crowd) (i : Nat) (v : Visit) (mv : Move) : Crowd :=
  ⟨mv.common, c.visits.set i { v with point := mv.point }⟩

/-- The steps that visits of a session make in some order, from when the session was opened, and the
    crowd that they lead to. -/
inductive Run (s : Session) : List Stride → Crowd → Prop
  | start : Run s [] {}
  | arrive {past : List Stride} {c : Crowd} (r : Request) : Run s past c → Run s past (c.arrive s r)
  | move {past : List Stride} {c : Crowd} {i : Nat} {v : Visit} {m : Moment} {mv : Move} :
      Run s past c → c.visits[i]? = some v → v.point.step? s c.common m = some mv →
      Run s (past ++ [⟨i, v.point, c.common, m, mv⟩]) (c.advance i v mv)

/-- Lets visits make steps, in turn; a visit that cannot make its step loses its turn. -/
def play (s : Session) : List (Nat × Moment) → List Stride × Crowd → List Stride × Crowd
  | [], r => r
  | (i, m) :: turns, (past, c) =>
    match c.visits[i]? with
    | none => play s turns (past, c)
    | some v =>
      match v.point.step? s c.common m with
      | none => play s turns (past, c)
      | some mv => play s turns (past ++ [⟨i, v.point, c.common, m, mv⟩], c.advance i v mv)

/-- Every schedule gives a run. -/
theorem Run.play {s : Session} (turns : List (Nat × Moment)) {past : List Stride} {c : Crowd}
    (h : Run s past c) :
    Run s (Crowd.play s turns (past, c)).1 (Crowd.play s turns (past, c)).2 := by
  induction turns generalizing past c with
  | nil => exact h
  | cons turn turns ih =>
    obtain ⟨i, m⟩ := turn
    simp only [Crowd.play]
    split
    · exact ih h
    · rename_i v hv
      split
      · exact ih h
      · rename_i mv hmv
        exact ih (h.move hv hmv)

/-- A session with a bulk endpoint of each direction, and the options as they are by default. -/
def plainSession : Session where
  device := 0
  details := default
  binding := ⟨0, 0, ⟨0x81, .bulk, .incoming⟩, ⟨0x01, .bulk, .outgoing⟩⟩
  options := {}
  reattach := false

/-! ## The invariant -/

/-- What the threads have in common is what they have at their points. -/
structure Sound (c : Crowd) : Prop where
  /-- A lock is held by one thread, or by none. -/
  locks : ∀ d, c.count (Point.holds d) = (c.common.held d).toNat
  /-- The handle is shared by as many threads as it counts. -/
  sharers : c.count Point.shares = c.common.sharers
  /-- The handle is taken exclusively by one thread, or by none. -/
  owners : c.count Point.owns = c.common.exclusive.toNat
  /-- It is then shared by none. -/
  unshared : c.common.exclusive = true → c.common.sharers = 0
  /-- A handle that is worked with is there. -/
  present : ∀ v ∈ c.visits, v.point.uses = true → c.common.handle = true
  /-- A handle that is torn down is gone. -/
  gone : ∀ v ∈ c.visits, v.point.dismantles = true → c.common.handle = false
  /-- A session that is closing is closed by one thread. -/
  closers : c.count Point.closes = (c.common.state == .closing).toNat

variable {c : Crowd} {i : Nat} {v : Visit} {mv : Move}

theorem count_arrive {s : Session} {r : Request} (f : Point → Bool) :
    (c.arrive s r).count f = c.count f + (f (.ofRequest s r)).toNat := by
  rw [arrive, count, List.countP_append, List.countP_singleton]
  cases f (.ofRequest s r) <;> rfl

/-- A step takes its thread out of the count at the old point and into the count at the new. -/
theorem count_advance (mv : Move) (hv : c.visits[i]? = some v) (f : Point → Bool) :
    (c.advance i v mv).count f + (f v.point).toNat = c.count f + (f mv.point).toNat := by
  obtain ⟨hi, rfl⟩ := List.getElem?_eq_some_iff.1 hv
  -- The count is taken down at the old point only if it counts the thread there.
  have hpos : f c.visits[i].point = true → 0 < c.count f := fun h =>
    List.countP_pos_iff.2 ⟨_, List.getElem_mem hi, h⟩
  rw [advance, count, List.countP_set hi]
  cases hnew : f mv.point <;> cases hold : f c.visits[i].point
  · simp [count]
  · have := hpos hold
    simp only [count] at this ⊢
    simp
    omega
  · simp [count]
  · have := hpos hold
    simp only [count] at this ⊢
    simp
    omega

/-- Who stands at a point of a kind is counted. -/
theorem count_pos (hv : v ∈ c.visits) {f : Point → Bool} (h : f v.point = true) : 0 < c.count f :=
  List.countP_pos_iff.2 ⟨v, hv, h⟩

theorem mem_advance {w : Visit} (hw : w ∈ (c.advance i v mv).visits) :
    w ∈ c.visits ∨ w = { v with point := mv.point } :=
  List.mem_or_eq_of_mem_set hw

namespace Sound

/-- A session that was just opened is at rest. -/
theorem start : Sound {} where
  locks d := by cases d <;> rfl
  sharers := rfl
  owners := rfl
  unshared h := absurd h Bool.false_ne_true
  present _ hv := absurd hv List.not_mem_nil
  gone _ hv := absurd hv List.not_mem_nil
  closers := rfl

/-- Who only makes a request has nothing yet. -/
theorem arrive (hc : c.Sound) (s : Session) (r : Request) : (c.arrive s r).Sound where
  locks d := by rw [count_arrive, ← Nat.add_zero (Bool.toNat _), hc.locks d]; cases r <;> rfl
  sharers := by rw [count_arrive, hc.sharers]; cases r <;> rfl
  owners := by rw [count_arrive, hc.owners]; cases r <;> rfl
  unshared := hc.unshared
  present w hw h := by
    rcases List.mem_append.1 hw with hw | hw
    · exact hc.present w hw h
    · rw [List.mem_singleton.1 hw] at h; cases r <;> cases h
  gone w hw h := by
    rcases List.mem_append.1 hw with hw | hw
    · exact hc.gone w hw h
    · rw [List.mem_singleton.1 hw] at h; cases r <;> cases h
  closers := by rw [count_arrive, hc.closers]; cases r <;> rfl

/-- What is counted by a flag and counts someone is set. -/
theorem eq_true_of_count {f : Point → Bool} {b : Bool} (hcount : c.count f = b.toNat)
    (hv : v ∈ c.visits) (h : f v.point = true) : b = true := by
  have := count_pos hv h
  rw [hcount, Nat.pos_iff_ne_zero, Ne, Bool.toNat_eq_zero] at this
  simpa using this

theorem closing_of_closes (hc : c.Sound) (hv : v ∈ c.visits) (h : v.point.closes = true) :
    c.common.state = .closing := by
  simpa using eq_true_of_count hc.closers hv h

/-- The owner of the handle is alone with it. -/
theorem not_uses_of_owns (hc : c.Sound) (hv : v ∈ c.visits) (h : v.point.owns = true) {w : Visit}
    (hw : w ∈ c.visits) : w.point.uses = false := by
  have hnone : c.count Point.shares = 0 := by
    rw [hc.sharers, hc.unshared (eq_true_of_count hc.owners hv h)]
  by_contra huse
  have := count_pos hw (Point.shares_of_uses (Bool.not_eq_false _ ▸ huse))
  omega

/-- Nobody works with the handle while it is torn down. -/
theorem not_uses_of_dismantles (hc : c.Sound) (hv : v ∈ c.visits)
    (h : v.point.dismantles = true) {w : Visit} (hw : w ∈ c.visits) : w.point.uses = false := by
  by_contra huse
  have := hc.present w hw (Bool.not_eq_false _ ▸ huse)
  rw [hc.gone v hv h] at this
  cases this

theorem advance (hc : c.Sound) (hv : c.visits[i]? = some v)
    (h : Passage c.common v.point mv.point mv.common) : (c.advance i v mv).Sound := by
  have hmem := List.mem_of_getElem? hv
  have hcount := count_advance mv hv
  exact {
    -- The counts change with the points, and what is counted changes with them too.
    locks := fun d => by
      have := hcount (Point.holds d)
      have := h.held (eq_true_of_count (hc.locks d) hmem)
      have := hc.locks d
      show _ = (mv.common.held d).toNat
      omega
    sharers := by
      have := hcount Point.shares
      have := h.sharers fun hp => hc.sharers ▸ count_pos hmem hp
      have := hc.sharers
      show _ = mv.common.sharers
      omega
    owners := by
      have := hcount Point.owns
      have := h.exclusive (eq_true_of_count hc.owners hmem)
      have := hc.owners
      show _ = mv.common.exclusive.toNat
      omega
    unshared := h.unshared hc.unshared
    present := fun w hw huse => by
      rcases mem_advance hw with hw | rfl
      · -- The handle was there for `w`, and nobody takes it away from a thread that uses it.
        rcases h.handle with hsame | ⟨howns, -⟩
        · exact hsame.trans (hc.present w hw huse)
        · exact absurd huse (by simp [hc.not_uses_of_owns hmem howns hw])
      · exact h.present (hc.present v hmem) huse
    gone := fun w hw hdis => by
      rcases mem_advance hw with hw | rfl
      · -- A handle that is gone stays so.
        rcases h.handle with hsame | ⟨-, hgone⟩
        · exact hsame.trans (hc.gone w hw hdis)
        · exact hgone
      · exact h.gone (hc.gone v hmem) hdis
    closers := by
      have := hcount Point.closes
      have := h.closing (hc.closing_of_closes hmem)
      have := hc.closers
      show _ = (mv.common.state == .closing).toNat
      omega }

end Sound

/-- What the threads have in common is what they have at their points, after every run. -/
theorem Run.sound {s : Session} {past : List Stride} {c : Crowd} (h : Run s past c) : c.Sound := by
  induction h with
  | start => exact .start
  | arrive r _ ih => exact ih.arrive s r
  | move _ hv hstep ih => exact ih.advance hv (Point.passage_of_step hstep)

end Crowd

end UsbSession
