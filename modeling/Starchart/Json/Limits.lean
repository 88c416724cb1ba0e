import Starchart.Json.Value

/-!
# Limits of structured values

A whole number has a limited number of digits, and values stand inside each other to a limited
depth, both where a text is read and where a message shows a value.

## Main definitions

* `Starchart.Json.maxDigits` — the greatest number of digits.
* `Starchart.Json.Room` — how deep values may be.
* `Starchart.Json.depth` — how deep a value is.
* `Starchart.Json.Overrun` — a limit that is not kept.
-/

set_option autoImplicit false

namespace Starchart.Json

/-- The greatest number of digits of a whole number. -/
def maxDigits : Nat := 4300

/-- How deep values may be. Reading a text and showing a value in a message take different room, so
that a value which was read may yet be too deep to be shown. -/
structure Room where
  /-- How many lists and objects may stand inside each other in a text. -/
  reading : Nat
  /-- How deep a value may be that a message shows. -/
  showing : Nat
  deriving DecidableEq, Repr, Inhabited

/-- The room that is left to work that is done within other work. -/
def Room.within (r : Room) (levels : Nat) : Room :=
  ⟨r.reading - levels, r.showing - levels⟩

/-! ## Depth -/

mutual

/-- How deep a value is: one level for itself, and the levels of the deepest value in it.  The keys
of an object are values in it. -/
def depth : Json → Nat
  | list items => depthOfItems items + 1
  | object fields => depthOfFields fields + 1
  | _ => 1

/-- The depth of the deepest of some items. -/
def depthOfItems : List Json → Nat
  | [] => 0
  | item :: rest => max (depth item) (depthOfItems rest)

/-- The depth of the deepest of some fields. -/
def depthOfFields : List (Text × Json) → Nat
  | [] => 0
  | (_, value) :: rest => max (depth value) (depthOfFields rest)

end

/-! ## Overruns -/

/-- A limit that is not kept. -/
inductive Overrun where
  /-- A whole number has too many digits. -/
  | digits (count : Nat)
  /-- A list stands too deep inside others. -/
  | nestedList
  /-- An object stands too deep inside others. -/
  | nestedObject
  /-- A double that is written as a word stands as deep as a list or object may stand. -/
  | nestedWord
  /-- A value is too deep to be shown. -/
  | shown
  deriving DecidableEq, Repr, Inhabited

/-- The wording of an overrun. -/
def Overrun.message : Overrun → String
  | digits count =>
    s!"Exceeds the limit ({maxDigits} digits) for integer string conversion: value has {count} " ++
      "digits; use sys.set_int_max_str_digits() to increase the limit"
  | nestedList =>
    "maximum recursion depth exceeded while decoding a JSON array from a unicode string"
  | nestedObject =>
    "maximum recursion depth exceeded while decoding a JSON object from a unicode string"
  | nestedWord => "maximum recursion depth exceeded while calling a Python object"
  | shown => "maximum recursion depth exceeded while getting the repr of an object"

end Starchart.Json
