import UsbSession.Trace
import UsbSession.Error
import UsbSession.Log.Event

/-!
# Audits

A failure is told of if the text of its code is a part of the text of a log event or of the error
that is returned. To find out whether all failures are told of, the calls of a computation are made
again beside its trace (`Audit`): those that fail are the mishaps, each with its code
(`Responder.mishaps`).

While a computation goes on, at most one failure is still to be told of: its debt. What is not told
of at the end is owed by the value (`Audit.Settles`).

* `Audit.Settles.bind`: what the first part of a sequence owes is the debt of the second;
* `Audit.Settles.bind_tolerated`: the value holds no failure of a part that was tolerated.
-/

namespace UsbSession

/-! ## Texts -/

/-- The text of the code is a part of the text. -/
def Failure.OccursIn (code : Failure) (text : String) : Prop :=
  ∃ before after, text = before ++ code.message ++ after

theorem Failure.occursIn_message (code : Failure) : code.OccursIn code.message :=
  ⟨"", "", by rw [String.empty_append, String.append_empty]⟩

theorem Failure.OccursIn.after {code : Failure} {text : String} (h : code.OccursIn text)
    (before : String) : code.OccursIn (before ++ text) := by
  obtain ⟨middle, after, rfl⟩ := h
  exact ⟨before ++ middle, after, by simp only [String.append_assoc]⟩

theorem Error.occursIn_message {e : Error} {code : Failure} (h : e.code? = some code) :
    code.OccursIn e.message := by
  cases e with
  | initialization c | claim i c | usb c =>
    cases h
    exact code.occursIn_message.after _
  | notFound v p => cases h
  | closed => cases h
  | disconnected => cases h

/-- The failure that the event tells of. -/
def Log.Event.code? : Event → Option Failure
  | descriptorUnreadable code | layoutUnreadable code | resetFailed code
  | configurationUnreadable code | configurationRefused _ code | detachFailed _ code
  | driverUnknown _ code | claimFailed _ code | restoreFailed _ code | transferFailed _ _ _ code
  | cancelFailed code | drainFinished code | releaseFailed _ code | reattachFailed _ code =>
    some code
  | connectFailed _ _ _ _ cause => cause.code?
  | _ => none

theorem Log.Event.occursIn_message {e : Event} {code : Failure} (h : e.code? = some code) :
    code.OccursIn e.message := by
  cases e with
  | connectFailed v p bus addr cause => exact (Error.occursIn_message h).after _
  | descriptorUnreadable | layoutUnreadable | resetFailed | configurationUnreadable
  | configurationRefused | detachFailed | driverUnknown | claimFailed | restoreFailed
  | transferFailed | cancelFailed | drainFinished | releaseFailed | reattachFailed =>
    cases h
    exact code.occursIn_message.after _
  | _ => cases h

/-- The failure that a result is, if it is one. -/
def failureOf {β : Type} : Except Failure β → Option Failure
  | .error code => some code
  | .ok _ => none

/-- The failure that the error of a result holds. -/
def codeOf {β : Type} : Except Error β → Option Failure
  | .error e => e.code?
  | .ok _ => none

/-- Where there is nothing, anything may be said of it. -/
theorem forall_none {α : Type} {P : α → Prop} (a : α) (h : none = some a) : P a := by
  cases h

/-! ## Audits -/

variable {σ ε δ κ α β : Type}

/-- How calls are answered. -/
structure Responder (δ κ : Type) where
  /-- Why a call fails, if it does. -/
  failure? : δ → κ → Option Failure
  /-- What is left by a call. -/
  after : δ → κ → δ

namespace Responder

variable (A : Responder δ κ)

/-- What is left by the calls. -/
def replay (d : δ) (cs : List κ) : δ := cs.foldl A.after d

/-- The calls that fail, each with its code. -/
def mishaps (d : δ) : List κ → List (κ × Failure)
  | [] => []
  | c :: cs => (A.failure? d c).toList.map (c, ·) ++ mishaps (A.after d c) cs

theorem mishaps_append (d : δ) (cs ds : List κ) :
    A.mishaps d (cs ++ ds) = A.mishaps d cs ++ A.mishaps (A.replay d cs) ds := by
  induction cs generalizing d with
  | nil => rfl
  | cons c cs ih => rw [List.cons_append, mishaps, mishaps, ih, List.append_assoc]; rfl

end Responder

/-- How the calls of a trace are made again, and what the trace tells. -/
structure Audit (σ ε δ κ : Type) extends Responder δ κ where
  /-- What calls act on. -/
  view : σ → δ
  /-- The call of an entry. -/
  call? : ε → Option κ
  /-- The log event of an entry. -/
  event? : ε → Option Log.Event

namespace Audit

section Outcomes

variable (A : Audit σ ε δ κ)

/-- The calls of an outcome that fail, on the way from a state. -/
def mishapsOf (s : σ) (o : Outcome σ ε α) : List (κ × Failure) :=
  A.mishaps (A.view s) (o.trace.filterMap A.call?)

/-- The log events of an outcome tell of the failure. -/
def Tells (o : Outcome σ ε α) (code : Failure) : Prop :=
  ∃ e ∈ o.trace.filterMap A.event?, e.code? = some code

theorem tells_bind {A : Audit σ ε δ κ} {x : Traced σ ε α} {f : α → Traced σ ε β} {s : σ}
    {code : Failure} : A.Tells ((x >>= f).run s) code ↔
      A.Tells (x.run s) code ∨ A.Tells ((f (x.run s).value).run (x.run s).state) code := by
  simp only [Tells, Traced.run_bind, List.filterMap_append, List.mem_append, or_and_right,
    exists_or]

end Outcomes

/-- From the state `s` on, `x` makes calls that, made again, leave what it leaves.

    Its log events tell of each of them that fails, and of the debt, or the value owes them. What is
    owed is something that the value may hold, or a failure of a call that is to blame for it. -/
structure Settles (A : Audit σ ε δ κ) (blames : κ → Prop) (may : Failure → Prop)
    (debt : Option Failure) (x : Traced σ ε α) (s : σ) (owed : α → Option Failure) : Prop where
  replay : A.view (x.run s).state = A.replay (A.view s) ((x.run s).trace.filterMap A.call?)
  told : ∀ code, debt = some code ∨ (∃ c, (c, code) ∈ A.mishapsOf s (x.run s)) →
    owed (x.run s).value = some code ∨ A.Tells (x.run s) code
  held : ∀ code, owed (x.run s).value = some code →
    may code ∨ ∃ c, (c, code) ∈ A.mishapsOf s (x.run s) ∧ blames c

namespace Settles

variable {A : Audit σ ε δ κ} {blames blames' : κ → Prop} {may may' may'' : Failure → Prop}
  {debt : Option Failure} {s : σ} {owed : α → Option Failure} {owed' : β → Option Failure}
  {x : Traced σ ε α} {f : α → Traced σ ε β}

/-- What makes no calls leaves the debt to the value, unless it is told of. -/
theorem of_silent (hview : A.view (x.run s).state = A.view s)
    (hcalls : (x.run s).trace.filterMap A.call? = [])
    (htold : ∀ code, debt = some code → owed (x.run s).value = some code ∨ A.Tells (x.run s) code)
    (hheld : ∀ code, owed (x.run s).value = some code → may code) :
    A.Settles blames may debt x s owed where
  replay := by
    rw [hview, hcalls]
    rfl
  told code h := by
    rcases h with h | ⟨c, hc⟩
    · exact htold code h
    · rw [mishapsOf, hcalls] at hc
      cases hc
  held code h := .inl (hheld code h)

theorem pure {a : α} (htold : ∀ code, debt = some code → owed a = some code)
    (hheld : ∀ code, owed a = some code → may code) :
    A.Settles blames may debt (pure a : Traced σ ε α) s owed :=
  of_silent rfl rfl (fun code h => .inl (htold code h)) hheld

/-- The value owes the debt, and may hold it. -/
theorem passed {a : α} (h : owed a = debt) :
    A.Settles blames (fun code => may code ∨ debt = some code) debt
      (Pure.pure a : Traced σ ε α) s owed :=
  .pure (fun _ hcode => h.trans hcode) fun _ hcode => .inr (h.symm.trans hcode)

/-- Nothing is left to be told of. -/
theorem done {a : α} (h : owed a = none) :
    A.Settles blames may none (Pure.pure a : Traced σ ε α) s owed :=
  .pure forall_none fun code hcode => by rw [h] at hcode; cases hcode

theorem look {g : σ → α} :
    A.Settles blames may none (Traced.look g : Traced σ ε α) s fun _ => none :=
  of_silent rfl rfl forall_none forall_none

theorem of_run {y : Traced σ ε α} (h : x.run s = y.run s)
    (hy : A.Settles blames may debt y s owed) : A.Settles blames may debt x s owed := by
  obtain ⟨hreplay, htold, hheld⟩ := hy
  rw [← h] at hreplay htold hheld
  exact ⟨hreplay, htold, hheld⟩

theorem change {g : σ → σ} (h : A.view (g s) = A.view s)
    (hdebt : ∀ code, debt = some code → may code) :
    A.Settles blames may debt (Traced.change g : Traced σ ε Unit) s fun _ => debt :=
  of_silent h rfl (fun _ => .inl) hdebt

/-- Log events may tell of the debt. -/
theorem tell {es : List ε} (hcalls : es.filterMap A.call? = [])
    (h : ∀ code, debt = some code → ∃ e ∈ es.filterMap A.event?, e.code? = some code) :
    A.Settles blames may debt (Traced.tell es : Traced σ ε Unit) s fun _ => none :=
  of_silent rfl hcalls (fun code hcode => .inr (h code hcode)) forall_none

/-- The calls of a sequence are those of its parts, and so are the calls that fail. -/
theorem mishapsOf_bind (hx : A.view (x.run s).state =
    A.replay (A.view s) ((x.run s).trace.filterMap A.call?)) :
    A.mishapsOf s ((x >>= f).run s) = A.mishapsOf s (x.run s) ++
      A.mishapsOf (x.run s).state ((f (x.run s).value).run (x.run s).state) := by
  rw [mishapsOf, Traced.run_bind, List.filterMap_append, Responder.mishaps_append, ← hx]
  rfl

/-- What may be held at the end is what could be held before, or the failure of a call of the first
    part that is to blame. -/
theorem bind_of (hx : A.Settles blames' may' debt x s owed)
    (hf : A.Settles blames may'' (owed (x.run s).value) (f (x.run s).value) (x.run s).state owed')
    (hmay : ∀ code, may'' code →
      may code ∨ ∃ c, (c, code) ∈ A.mishapsOf s (x.run s) ∧ blames c) :
    A.Settles blames may debt (x >>= f) s owed' where
  replay := by
    rw [Traced.run_bind, List.filterMap_append, Responder.replay, List.foldl_append]
    exact hf.replay.trans (congrArg (A.replay · _) hx.replay)
  told code h := by
    rw [mishapsOf_bind hx.replay] at h
    rw [tells_bind]
    -- What the first part does not tell of it owes, and the second part has it as its debt.
    have hfirst : (debt = some code ∨ ∃ c, (c, code) ∈ A.mishapsOf s (x.run s)) →
        owed' ((x >>= f).run s).value = some code ∨ A.Tells (x.run s) code ∨
          A.Tells ((f (x.run s).value).run (x.run s).state) code := by
      intro h
      rcases hx.told code h with howed | htold
      · exact (hf.told code (.inl howed)).imp_right .inr
      · exact .inr (.inl htold)
    rcases h with h | ⟨c, hc⟩
    · exact hfirst (.inl h)
    · rcases List.mem_append.1 hc with hc | hc
      · exact hfirst (.inr ⟨c, hc⟩)
      · exact (hf.told code (.inr ⟨c, hc⟩)).imp_right .inr
  held code h := by
    rw [mishapsOf_bind hx.replay]
    rcases hf.held code h with h | ⟨c, hc, hblames⟩
    · rcases hmay code h with h | ⟨c, hc, hblames⟩
      · exact .inl h
      · exact .inr ⟨c, List.mem_append_left _ hc, hblames⟩
    · exact .inr ⟨c, List.mem_append_right _ hc, hblames⟩

/-- What the first part owes is the debt of the second part, and may be held by its value. -/
theorem bind_at (hx : A.Settles blames may debt x s owed)
    (hf : A.Settles blames (fun code => may code ∨ owed (x.run s).value = some code)
      (owed (x.run s).value) (f (x.run s).value) (x.run s).state owed') :
    A.Settles blames may debt (x >>= f) s owed' :=
  hx.bind_of hf fun code h => h.elim .inl (hx.held code)

theorem bind (hx : A.Settles blames may debt x s owed)
    (hf : ∀ a s', A.Settles blames (fun code => may code ∨ owed a = some code) (owed a) (f a) s'
      owed') : A.Settles blames may debt (x >>= f) s owed' :=
  hx.bind_at (hf _ _)

/-- A failure that is tolerated has to be told of, and the value must not hold it. -/
theorem bind_tolerated (hx : A.Settles blames' may' debt x s owed)
    (hf : A.Settles blames may (owed (x.run s).value) (f (x.run s).value) (x.run s).state owed') :
    A.Settles blames may debt (x >>= f) s owed' :=
  hx.bind_of hf fun _ => .inl

/-- A first part that owes nothing leaves no debt. -/
theorem bind_settled_at (hx : A.Settles blames may debt x s fun _ => none)
    (hf : A.Settles blames may none (f (x.run s).value) (x.run s).state owed') :
    A.Settles blames may debt (x >>= f) s owed' :=
  hx.bind_tolerated hf

theorem bind_settled (hx : A.Settles blames may debt x s fun _ => none)
    (hf : ∀ a s', A.Settles blames may none (f a) s' owed') :
    A.Settles blames may debt (x >>= f) s owed' :=
  hx.bind_tolerated (hf _ _)

/-- Log events may tell of the debt before anything else is done. -/
theorem tell_bind {es : List ε} {f : Unit → Traced σ ε β}
    (hcalls : es.filterMap A.call? = [])
    (h : ∀ code, debt = some code → ∃ e ∈ es.filterMap A.event?, e.code? = some code)
    (hf : A.Settles blames may none (f ()) s owed') :
    A.Settles blames may debt (Traced.tell es >>= f) s owed' := by
  have htell : A.Settles blames may debt (Traced.tell es : Traced σ ε Unit) s fun _ => none :=
    .tell hcalls h
  exact htell.bind_settled_at hf

end Settles

end Audit

end UsbSession
