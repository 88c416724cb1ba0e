import Starchart.Random.Congruential

/-!
# Scripted sources

A scripted source answers from a list of numbers, each reduced to the bound of its request.  When
the list is used up it goes on with a linear congruential sequence, or runs dry if it has none.

## Main definitions

* `Starchart.Scripted` — the numbers still to come and the sequence after them.
-/

set_option autoImplicit false

namespace Starchart

/-- A list of prepared answers, then perhaps a linear congruential sequence. -/
structure Scripted where
  script : List Int
  sequel : Option Congruential
  deriving DecidableEq, Repr, Inhabited

namespace Scripted

/-- A number of either sign, reduced to the bound. -/
def reduce (value : Int) (bound : Nat) (pos : 0 < bound) : Fin bound :=
  ⟨(value % bound).toNat, by
    have h₁ := Int.emod_nonneg value (show (bound : Int) ≠ 0 by omega)
    have h₂ := Int.emod_lt_of_pos value (show (0 : Int) < bound by omega)
    omega⟩

/-- The answer to a request. -/
def draw (s : Scripted) (bound : Nat) (pos : 0 < bound) : Option (Fin bound) × Scripted :=
  match s.script, s.sequel with
  | value :: rest, sequel => (some (reduce value bound pos), ⟨rest, sequel⟩)
  | [], none => (none, s)
  | [], some c => ((c.draw bound pos).1, ⟨[], some (c.draw bound pos).2⟩)

instance : RandomSource Scripted := ⟨draw⟩

end Scripted

end Starchart
