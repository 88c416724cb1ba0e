import Starchart.Random.Source

/-!
# Linear congruential sequences

The simplest source that never runs dry: a state of 64 bits that is multiplied and shifted at every
request, and whose upper bits are reduced to the bound.

## Main definitions

* `Starchart.Congruential` — the state.
* `Starchart.Congruential.advance` — the next state.
-/

set_option autoImplicit false

namespace Starchart

/-- The state of a linear congruential sequence. -/
structure Congruential where
  state : Nat
  deriving DecidableEq, Repr, Inhabited

namespace Congruential

/-- The next state, modulo `2 ^ 64`. -/
def advance (c : Congruential) : Congruential :=
  ⟨(c.state * 6364136223846793005 + 1442695040888963407) % 0x10000000000000000⟩

/-- The answer to a request: the upper 31 bits of the next state, reduced to the bound. -/
def draw (c : Congruential) (bound : Nat) (pos : 0 < bound) :
    Option (Fin bound) × Congruential :=
  (some ⟨(c.advance.state >>> 33) % bound, Nat.mod_lt _ pos⟩, c.advance)

instance : RandomSource Congruential := ⟨draw⟩

instance : Inexhaustible Congruential := ⟨fun _ _ _ => rfl⟩

end Congruential

end Starchart
