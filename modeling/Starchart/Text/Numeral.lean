/-!
# Whole numbers

A whole number is read from decimal digits of any script, with an optional sign, blanks around it
and single underscores between digits.

## Main definitions

* `Starchart.Text.digitZeros` — the zeros of the scripts that have decimal digits.
* `Starchart.Text.digitValue?` — the value of a decimal digit of any script.
* `Starchart.Text.readInt?` — the whole number that a text spells.
-/

set_option autoImplicit false

namespace Starchart.Text

/-- The code points of the zeros; the digits one to nine of each script follow its zero. -/
def digitZeros : List Nat :=
  [
    0x0030, 0x0660, 0x06f0, 0x07c0, 0x0966, 0x09e6, 0x0a66, 0x0ae6, 0x0b66, 0x0be6,
    0x0c66, 0x0ce6, 0x0d66, 0x0de6, 0x0e50, 0x0ed0, 0x0f20, 0x1040, 0x1090, 0x17e0,
    0x1810, 0x1946, 0x19d0, 0x1a80, 0x1a90, 0x1b50, 0x1bb0, 0x1c40, 0x1c50, 0xa620,
    0xa8d0, 0xa900, 0xa9d0, 0xa9f0, 0xaa50, 0xabf0, 0xff10, 0x104a0, 0x10d30, 0x11066,
    0x110f0, 0x11136, 0x111d0, 0x112f0, 0x11450, 0x114d0, 0x11650, 0x116c0, 0x11730, 0x118e0,
    0x11950, 0x11c50, 0x11d50, 0x11da0, 0x16a60, 0x16ac0, 0x16b50, 0x1d7ce, 0x1d7d8, 0x1d7e2,
    0x1d7ec, 0x1d7f6, 0x1e140, 0x1e2f0, 0x1e950, 0x1fbf0
  ]

/-- The value of a decimal digit of any script. -/
def digitValue? (c : Char) : Option Nat :=
  (digitZeros.find? fun first => decide (first ≤ c.toNat) && decide (c.toNat < first + 10)).map
    (c.toNat - ·)

/-- Whether a character is a blank that may stand around a number: white space of any script. -/
def isBlank (c : Char) : Bool :=
  let n := c.toNat
  (9 ≤ n && n ≤ 13) || n == 32 || n == 0x85 || n == 0xa0 || n == 0x1680 ||
    (0x2000 ≤ n && n ≤ 0x200a) || n == 0x2028 || n == 0x2029 || n == 0x202f || n == 0x205f ||
    n == 0x3000

/-- The text without the blanks at its two ends. -/
def trimBlanks (text : List Char) : List Char :=
  ((text.dropWhile isBlank).reverse.dropWhile isBlank).reverse

/-- The most digits that a number may be spelled with. -/
def digitLimit : Nat := 4300

/-- The values of the digits of a numeral, in order: each underscore stands between two digits. -/
def digits? : List Char → Option (List Nat)
  | [] => none
  | [c] => (digitValue? c).map ([·])
  | c :: '_' :: rest => do
    let value ← digitValue? c
    return value :: (← digits? rest)
  | c :: rest => do
    let value ← digitValue? c
    return value :: (← digits? rest)

/-- The natural number with the given decimal digits. -/
def ofDigits (digits : List Nat) : Nat :=
  digits.foldl (fun n d => 10 * n + d) 0

/-- The natural number that a text without sign spells, if it has no more than `digitLimit`
digits. -/
def readNat? (text : List Char) : Option Nat := do
  let digits ← digits? text
  if digits.length ≤ digitLimit then some (ofDigits digits) else none

/-- The whole number that a text spells: blanks, an optional sign, digits, blanks. -/
def readInt? (text : String) : Option Int :=
  match trimBlanks text.toList with
  | '+' :: rest => (readNat? rest).map Int.ofNat
  | '-' :: rest => (readNat? rest).map fun n => -(n : Int)
  | rest => (readNat? rest).map Int.ofNat

end Starchart.Text
