/-!
# Traced computations

A computation (`Traced`) that changes a state and leaves a trace behind it. It cannot look at what
was traced before, so its trace is a function of the state alone.

* `Traced.run_bind`: a sequence of computations leaves the traces one behind the other;
* the instance of `LawfulMonad`: how computations are grouped makes no difference.
-/

namespace UsbSession

/-- What a traced computation leaves. -/
structure Outcome (σ ε α : Type) where
  /-- The result. -/
  value : α
  /-- The state after it. -/
  state : σ
  /-- What was traced, in order. -/
  trace : List ε := []

/-- A computation that changes a state `σ` and traces entries `ε`. -/
def Traced (σ ε α : Type) := σ → Outcome σ ε α

namespace Traced

variable {σ ε α β : Type}

/-- Runs a computation. -/
def run (x : Traced σ ε α) (s : σ) : Outcome σ ε α := x s

@[ext] theorem ext {x y : Traced σ ε α} (h : ∀ s, x.run s = y.run s) : x = y := funext h

instance : Monad (Traced σ ε) where
  pure a := fun s => ⟨a, s, []⟩
  bind x f := fun s =>
    let first := x s
    let second := f first.value first.state
    ⟨second.value, second.state, first.trace ++ second.trace⟩

@[simp] theorem run_pure (a : α) (s : σ) : (pure a : Traced σ ε α).run s = ⟨a, s, []⟩ := rfl

@[simp] theorem run_bind (x : Traced σ ε α) (f : α → Traced σ ε β) (s : σ) :
    (x >>= f).run s =
      ⟨((f (x.run s).value).run (x.run s).state).value,
        ((f (x.run s).value).run (x.run s).state).state,
        (x.run s).trace ++ ((f (x.run s).value).run (x.run s).state).trace⟩ := rfl

instance : LawfulMonad (Traced σ ε) :=
  LawfulMonad.mk' _
    (fun x => by
      ext s
      change (⟨(x s).value, (x s).state, (x s).trace ++ []⟩ : Outcome σ ε _) = x s
      rw [List.append_nil])
    (fun a f => by ext s; simp)
    (fun x f g => by ext s; simp)

/-- Traces entries. -/
def tell (es : List ε) : Traced σ ε Unit := fun s => ⟨(), s, es⟩

/-- Changes the state. -/
def change (f : σ → σ) : Traced σ ε Unit := fun s => ⟨(), f s, []⟩

/-- Reads the state. -/
def look (f : σ → α) : Traced σ ε α := fun s => ⟨f s, s, []⟩

@[simp] theorem run_tell (es : List ε) (s : σ) : (tell es : Traced σ ε Unit).run s = ⟨(), s, es⟩ :=
  rfl

@[simp] theorem run_change (f : σ → σ) (s : σ) :
    (change f : Traced σ ε Unit).run s = ⟨(), f s, []⟩ := rfl

@[simp] theorem run_look (f : σ → α) (s : σ) : (look f : Traced σ ε α).run s = ⟨f s, s, []⟩ := rfl

end Traced

end UsbSession
