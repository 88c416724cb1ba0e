import Starchart.Phase

/-!
# Faults

What can go wrong while digits are read, dice are rolled, bodies are placed or quantities derived.
Soft problems (no usable zone, too few orbits) are not faults: they are recorded as diagnostics and
generation goes on.

## Main definitions

* `Starchart.Fault` — the causes.
* `Starchart.Fault.message` — the wording of each cause.
-/

set_option autoImplicit false

namespace Starchart

/-- Why a slot refuses a body. -/
inductive Refusal where
  /-- The orbit is not one of the star's slots. -/
  | outOfRange
  /-- The slot was decided to stay empty. -/
  | markedEmpty
  /-- The slot holds the named body already. -/
  | occupiedBy (name : String)
  deriving DecidableEq, Repr, Inhabited

/-- The wording of a refusal. -/
def Refusal.message : Refusal → String
  | outOfRange => "out of range"
  | markedEmpty => "marked empty"
  | occupiedBy name => "occupied by " ++ name

/-- Where a descent from star to companion is given up that never ends. -/
inductive Halt where
  /-- In the descent itself. -/
  | descent
  /-- In the midst of what is worked out for one star. -/
  | calculation
  deriving DecidableEq, Repr, Inhabited

/-- The cause of a failed operation. -/
inductive Fault where
  /-- A profile text has fewer than nine characters. -/
  | shortProfile (text : String)
  /-- A text is not one hexadecimal digit. -/
  | notHexDigit (text : String)
  /-- A number does not fit in one hexadecimal digit. -/
  | digitOverflow (value : Int)
  /-- A stellar subtype lies outside `0` to `9`. -/
  | badSubtype (value : Int)
  /-- A body was to be placed in a slot that cannot take it. -/
  | slotRefused (orbit : Int) (star : String) (why : Refusal)
  /-- A body was to be forced into a slot that the star does not have. -/
  | outsideSlots (orbit : Int) (star : String) (slots : Int)
  /-- A slot was read that the star does not have. -/
  | noSuchSlot
  /-- A slot was read whose number is too large for any star. -/
  | slotNumberTooWide
  /-- A star was to have more slots than can be counted. -/
  | capacityTooWide
  /-- A phase was entered at or after its own place in the order. -/
  | phaseOrder (next current : Phase)
  /-- A number has no numeral. -/
  | numeralRange (value : Int)
  /-- A roll was asked among no possibilities. -/
  | emptyRange
  /-- A listing was to be indented more deeply than can be counted. -/
  | depthTooWide
  /-- A digit has no nearest double. -/
  | beyondDoubles
  /-- A mass is beyond the largest double. -/
  | massBeyondDoubles
  /-- An ice cover is infinite. -/
  | infiniteCover
  /-- An ice cover is no number. -/
  | undefinedCover
  /-- The source of random numbers has run dry. -/
  | sourceExhausted
  /-- A star number names no star of the chart. -/
  | noSuchStar (star : Nat)
  /-- A descent from star to companion met more stars than the chart has. -/
  | endlessDescent (star : Nat) (halt : Halt)
  deriving DecidableEq, Repr, Inhabited

/-- The wording of a fault. -/
def Fault.message : Fault → String
  | shortProfile text => s!"UPP '{text}' is shorter than 9 characters"
  | notHexDigit text => s!"'{text}' is not a hexadecimal digit"
  | digitOverflow value => s!"{value} does not fit in a single hex digit"
  | badSubtype value => s!"Stellar subtype must be 0-9, got {value}"
  | slotRefused orbit star why => s!"Orbit {orbit} of {star} is {why.message}"
  | outsideSlots orbit star slots => s!"Orbit {orbit} is outside {star}'s {slots} slots"
  | noSuchSlot => "list index out of range"
  | slotNumberTooWide | capacityTooWide | depthTooWide =>
    "cannot fit 'int' into an index-sized integer"
  | phaseOrder next current => s!"{next.code} cannot run after {current.code}"
  | numeralRange value => s!"Input ({value}) must be an integer between 0 and 20"
  | emptyRange => "empty range for randrange()"
  | beyondDoubles => "int too large to convert to float"
  | massBeyondDoubles => "(34, 'Numerical result out of range')"
  | infiniteCover => "cannot convert float infinity to integer"
  | undefinedCover => "cannot convert float NaN to integer"
  | sourceExhausted => "scripted source ran out of values"
  | noSuchStar star => s!"there is no star {star}"
  | endlessDescent _ .descent => "maximum recursion depth exceeded"
  | endlessDescent _ .calculation =>
    "maximum recursion depth exceeded while calling a Python object"

end Starchart
