import Starchart.Text.Printable

/-!
# Quoted and escaped texts

A message shows a text between quotes: single ones, unless it holds a single quote and no double
one.  The quote, the backslash and what has no visible form are escaped.

Elsewhere a text is written as it is.  Half of a surrogate pair cannot be written at all; only where
complaints go is its number written in its place.

## Main definitions

* `Starchart.Text.hexPadded` — a number with a fixed count of hexadecimal digits.
* `Starchart.Text.quoted` — a text as messages show it.
* `Starchart.Text.escaped` — a text as it is written where complaints go.
-/

set_option autoImplicit false

namespace Starchart.Text

/-- One lower-case hexadecimal digit. -/
def hexDigit (n : Nat) : Char :=
  if n < 10 then Char.ofNat (48 + n) else Char.ofNat (87 + n)

/-- The last `count` hexadecimal digits of a number, in lower case. -/
def hexPadded : Nat → Nat → List Char
  | 0, _ => []
  | count + 1, n => hexPadded count (n / 16) ++ [hexDigit (n % 16)]

/-- A code point between the given quotes. -/
def quotedPoint (quote : Char) (p : CodePoint) : List Char :=
  if p.char = quote ∨ p.char = '\\' then ['\\', p.char]
  else if p.char = '\t' then ['\\', 't']
  else if p.char = '\n' then ['\\', 'n']
  else if p.char = '\r' then ['\\', 'r']
  else if isPrintable p then [p.char]
  else if p.value < 0x100 then '\\' :: 'x' :: hexPadded 2 p.value
  else if p.value < 0x10000 then '\\' :: 'u' :: hexPadded 4 p.value
  else '\\' :: 'U' :: hexPadded 8 p.value

/-- A text between quotes. -/
def quoted (text : Text) : String :=
  let chars := text.points.map CodePoint.char
  let quote := if chars.contains '\x27' && !chars.contains '"' then '"' else '\x27'
  String.ofList (quote :: (text.points.flatMap (quotedPoint quote) ++ [quote]))

/-- A code point as it is written where complaints go: half a pair is told by its number. -/
def escapedPoint (p : CodePoint) : List Char :=
  match p.char? with
  | some c => [c]
  | none => '\\' :: 'u' :: hexPadded 4 p.value

/-- A text as it is written where complaints go. -/
def escaped (text : Text) : String :=
  String.ofList (text.points.flatMap escapedPoint)

end Starchart.Text
