import Starchart.Text.CodePoint

/-!
# Structured values

The values of the settings format: null, booleans, whole numbers of any size, doubles, texts, lists
and objects.  A whole number and a double of the same size are different values.

## Main definitions

* `Starchart.Json` — the values.
* `Starchart.Json.field?` — the value under a key of an object; a later one wins.
* `Starchart.Json.bool?`, `Starchart.Json.int?`, `Starchart.Json.text?` — values of one kind.
-/

set_option autoImplicit false

namespace Starchart

/-- A structured value. -/
inductive Json where
  | null
  | bool (value : Bool)
  | int (value : Int)
  | float (value : Float)
  | text (value : Text)
  | list (items : List Json)
  | object (fields : List (Text × Json))
  deriving Inhabited

namespace Json

/-- The value under a key among the fields of an object.  Of several the last one counts. -/
def field? (fields : List (Text × Json)) (key : Text) : Option Json :=
  (fields.reverse.find? (·.1 == key)).map Prod.snd

/-! ## Kinds -/

/-- The Boolean that a value is. -/
def bool? : Json → Option Bool
  | bool value => some value
  | _ => none

/-- The whole number that a value is; a Boolean is none. -/
def int? : Json → Option Int
  | int value => some value
  | _ => none

/-- The text that a value is. -/
def text? : Json → Option Text
  | text value => some value
  | _ => none

end Json

end Starchart
