import Starchart.Decimal.Shortest
import Starchart.Json.Limits
import Starchart.Text.Quoted

/-!
# Writing structured values

Two ways to write a value: the file form, in which texts hold ASCII characters only, and the form in
which messages show a value.

## Main definitions

* `Starchart.Json.fileText` — a text as files hold it.
* `Starchart.Json.fileValue` — a simple value as files hold it.
* `Starchart.Json.fileObject` — an object as files hold it, one field a line.
* `Starchart.Json.shown`, `Starchart.Json.shownWithin` — a value as messages show it.
-/

set_option autoImplicit false

namespace Starchart.Json

/-! ## Files -/

/-- The escaped form of one unit. -/
def unitEscape (unit : Nat) : List Char := '\\' :: 'u' :: Text.hexPadded 4 unit

/-- A code point as files hold it: in ASCII, where one beyond the first `2 ^ 16` becomes a pair of
units. -/
def filePoint (p : CodePoint) : List Char :=
  let c := p.char
  if c = '"' ∨ c = '\\' then ['\\', c]
  else if c = '\n' then ['\\', 'n']
  else if c = '\r' then ['\\', 'r']
  else if c = '\t' then ['\\', 't']
  else if c = '\x08' then ['\\', 'b']
  else if c = '\x0c' then ['\\', 'f']
  else if ' ' ≤ c ∧ c ≤ '~' then [c]
  else if p.value < 0x10000 then unitEscape p.value
  else
    let rest := p.value - 0x10000
    unitEscape (0xd800 + rest / 0x400) ++ unitEscape (0xdc00 + rest % 0x400)

/-- A text as files hold it. -/
def fileText (text : Text) : String :=
  String.ofList ('"' :: (text.points.flatMap filePoint ++ ['"']))

/-- A value that is neither list nor object as files hold it. -/
def fileValue : Json → String
  | null => "null"
  | bool value => if value then "true" else "false"
  | int value => toString value
  | float value => Decimal.natural value
  | text value => fileText value
  | list _ => "[]"
  | object _ => "\x7b\x7d"

/-- A field with a simple value as files hold it, indented by two blanks. -/
def fileField (field : Text × Json) : String :=
  "  " ++ fileText field.1 ++ ": " ++ fileValue field.2

/-- An object of simple values as files hold it: one field a line. -/
def fileObject (fields : List (Text × Json)) : String :=
  "\x7b\n" ++ ",\n".intercalate (fields.map fileField) ++ "\n\x7d"

/-! ## Messages -/

mutual

/-- A value as messages show it. -/
def shown : Json → String
  | null => "None"
  | bool value => if value then "True" else "False"
  | int value => toString value
  | float value => Decimal.natural value
  | text value => Text.quoted value
  | list items => "[" ++ ", ".intercalate (shownItems items) ++ "]"
  | object fields => "\x7b" ++ ", ".intercalate (shownFields fields) ++ "\x7d"

/-- The items of a list as messages show them. -/
def shownItems : List Json → List String
  | [] => []
  | item :: rest => shown item :: shownItems rest

/-- The fields of an object as messages show them. -/
def shownFields : List (Text × Json) → List String
  | [] => []
  | (key, value) :: rest => (Text.quoted key ++ ": " ++ shown value) :: shownFields rest

end

/-- A value as messages show it, if there is room for it. -/
def shownWithin (room : Nat) (j : Json) : Except Overrun String :=
  if j.depth ≤ room then .ok j.shown else .error .shown

end Starchart.Json
