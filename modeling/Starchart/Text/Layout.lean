/-!
# Columns of text

Listings are set in columns of a fixed width, counted in characters.  A text that is wider than its
column is never cut.

## Main definitions

* `Starchart.Text.padRight`, `Starchart.Text.padLeft` — fill a column with blanks.
* `Starchart.Text.twoDigits` — a number in a column of two digits.
* `Starchart.Text.dropTrailingBlanks` — the line without the blanks at its end.
* `Starchart.Text.mentions` — whether one text occurs inside another.
-/

set_option autoImplicit false

namespace Starchart.Text

/-- The text followed by the blanks that fill a column of `width` characters. -/
def padRight (width : Nat) (text : String) : String :=
  text ++ String.ofList (List.replicate (width - text.length) ' ')

/-- The text after the blanks that fill a column of `width` characters. -/
def padLeft (width : Nat) (text : String) : String :=
  String.ofList (List.replicate (width - text.length) ' ') ++ text

/-- A number written with at least two digits. -/
def twoDigits (n : Nat) : String :=
  String.ofList (List.replicate (2 - (toString n).length) '0') ++ toString n

/-- The line without the blanks at its end. -/
def dropTrailingBlanks (line : String) : String :=
  String.ofList (line.toList.reverse.dropWhile (· == ' ')).reverse

/-- Whether `word` occurs in `text` as a block of neighbouring characters. -/
def mentions (word : List Char) : List Char → Bool
  | [] => word.isEmpty
  | c :: rest => word.isPrefixOf (c :: rest) || mentions word rest

end Starchart.Text
