/-!
# Sources of random numbers

Every roll asks a source for a number below a positive bound.  What the source answers is left
open: the laws of the generator hold for every source.

## Main definitions

* `Starchart.RandomSource` — a state that answers each request and moves on.
* `Starchart.Inexhaustible` — a source that never runs dry.
-/

set_option autoImplicit false

namespace Starchart

/-- A state from which numbers are drawn. -/
class RandomSource (σ : Type) where
  /-- A number below the positive bound, or nothing once the source has run dry, together with
  the state after the request. -/
  draw : σ → (bound : Nat) → 0 < bound → Option (Fin bound) × σ

/-- A source that answers every request. -/
class Inexhaustible (σ : Type) [RandomSource σ] : Prop where
  /-- No request is left without an answer. -/
  answers : ∀ (s : σ) (bound : Nat) (pos : 0 < bound),
    ((RandomSource.draw s bound pos).1).isSome = true

/-- Either of two kinds of sources. -/
instance {σ τ : Type} [RandomSource σ] [RandomSource τ] : RandomSource (σ ⊕ τ) where
  draw
    | .inl s, bound, pos => (RandomSource.draw s bound pos).map id .inl
    | .inr t, bound, pos => (RandomSource.draw t bound pos).map id .inr

end Starchart
