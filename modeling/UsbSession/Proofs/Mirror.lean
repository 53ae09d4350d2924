import UsbSession.Trace

/-!
# Runs that mirror each other

Two computations may run alike on different states: what the one does from a state, the other does
from the image of the state, image by image (`Traced.Mirrors`). Entries of the trace may have no
image; they are left out.

This is how two runs are compared that shall differ in some respect only: the respect is what the
images do not show.

* `Traced.Mirrors.bind`: sequences mirror each other if their parts do.
-/

namespace UsbSession

variable {σ τ ε δ α α' β β' : Type}

/-- An outcome by the images of its parts. -/
def Outcome.image (S : σ → τ) (E : ε → Option δ) (A : α → β) (o : Outcome σ ε α) :
    Outcome τ δ β where
  value := A o.value
  state := S o.state
  trace := o.trace.filterMap E

namespace Traced

/-- From the image of the state `s`, `y` does what `x` does from `s`, image by image. -/
def Mirrors (S : σ → τ) (E : ε → Option δ) (A : α → β) (x : Traced σ ε α) (y : Traced τ δ β)
    (s : σ) : Prop :=
  y.run (S s) = (x.run s).image S E A

namespace Mirrors

variable {S : σ → τ} {E : ε → Option δ} {A : α → β} {B : α' → β'} {s : σ}
  {x : Traced σ ε α} {y : Traced τ δ β}

theorem pure {a : α} {b : β} (h : b = A a) :
    Mirrors S E A (pure a : Traced σ ε α) (pure b : Traced τ δ β) s := by
  rw [h]
  rfl

/-- What comes second has to be alike only after what comes first. -/
theorem bind_at {f : α → Traced σ ε α'} {g : β → Traced τ δ β'} (hx : Mirrors S E A x y s)
    (hf : Mirrors S E B (f (x.run s).value) (g (A (x.run s).value)) (x.run s).state) :
    Mirrors S E B (x >>= f) (y >>= g) s := by
  have hx : y.run (S s) = (x.run s).image S E A := hx
  have hf : (g (A (x.run s).value)).run (S (x.run s).state) = _ := hf
  rw [Mirrors, run_bind, run_bind, hx]
  simp only [Outcome.image] at hf ⊢
  rw [hf, List.filterMap_append]

theorem bind {f : α → Traced σ ε α'} {g : β → Traced τ δ β'} (hx : Mirrors S E A x y s)
    (hf : ∀ a s', Mirrors S E B (f a) (g (A a)) s') : Mirrors S E B (x >>= f) (y >>= g) s :=
  hx.bind_at (hf _ _)

theorem tell {es : List ε} {ds : List δ} (h : ds = es.filterMap E) :
    Mirrors S E id (tell es : Traced σ ε Unit) (tell ds : Traced τ δ Unit) s := by
  rw [h]
  rfl

theorem look {f : σ → α} {g : τ → β} (h : g (S s) = A (f s)) :
    Mirrors S E A (look f : Traced σ ε α) (look g : Traced τ δ β) s := by
  rw [Mirrors, run_look, run_look, h]
  rfl

theorem change {f : σ → σ} {g : τ → τ} (h : g (S s) = S (f s)) :
    Mirrors S E id (change f : Traced σ ε Unit) (change g : Traced τ δ Unit) s := by
  rw [Mirrors, run_change, run_change, h]
  rfl

end Mirrors

end Traced

end UsbSession
