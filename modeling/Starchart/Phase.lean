/-!
# Population phases

The steps that fill the orbit slots of one star, in their fixed order.  A later phase reads the
slots that earlier ones left behind, so a phase may be skipped but never revisited.

## Main definitions

* `Starchart.Phase` — the seven phases.
* `Starchart.Phase.rank` — the place of a phase in the order.
* `Starchart.Phase.mayFollow` — whether a phase may come after the last one entered.
-/

set_option autoImplicit false

namespace Starchart

/-- A step of the orbit population pipeline. A star goes through its phases in the order in which
they are listed here; it may leave some out, but never turns back. -/
inductive Phase where
  | emptySeed
  | gasGiants
  | planetoids
  | mainWorld
  | filler
  | satellites
  | companions
  deriving DecidableEq, Repr, Inhabited

namespace Phase

/-- The name under which a phase is written. -/
def code : Phase → String
  | emptySeed => "empty_seed"
  | gasGiants => "gas_giants"
  | planetoids => "planetoids"
  | mainWorld => "main_world"
  | filler => "filler"
  | satellites => "satellites"
  | companions => "companions"

/-- The place of a phase in the fixed order, from zero. -/
def rank : Phase → Nat
  | emptySeed => 0
  | gasGiants => 1
  | planetoids => 2
  | mainWorld => 3
  | filler => 4
  | satellites => 5
  | companions => 6

/-- Every phase, in order. -/
def all : List Phase :=
  [emptySeed, gasGiants, planetoids, mainWorld, filler, satellites, companions]

/-- The phase written as `text`. -/
def ofCode? (text : String) : Option Phase :=
  all.find? (·.code == text)

/-- Whether `next` may be entered after `current`: always before any phase, and later only when
it ranks above the current one. -/
def mayFollow (next : Phase) : Option Phase → Bool
  | none => true
  | some current => decide (current.rank < next.rank)

/-- Before any phase every phase may be entered. -/
@[simp] theorem mayFollow_none (next : Phase) : next.mayFollow none = true := rfl

/-- After a phase exactly those of higher rank may be entered. -/
@[simp] theorem mayFollow_some (next current : Phase) :
    next.mayFollow (some current) = true ↔ current.rank < next.rank := by
  simp [mayFollow]

/-- The name of a phase reads back as that phase. -/
theorem ofCode?_code (p : Phase) : ofCode? p.code = some p := by
  cases p <;> decide

end Phase

end Starchart
