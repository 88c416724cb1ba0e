import Starchart.Json.Limits

/-!
# Reading structured values

The settings format is read strictly: no trailing commas, no raw control characters in texts, no
leading zeros, nothing after the value.  Beyond the standard it knows the doubles `NaN`, `Infinity`
and `-Infinity`.  Of a key that occurs twice the last value counts, in the place of the first.  Whole
numbers have a limited number of digits, and lists and objects a limited depth; what goes beyond a
limit ends the reading where it stands.

## Main definitions

* `Starchart.Json.Reading` — a step of reading, which may fail.
* `Starchart.Json.readText` — the rest of a text after its opening quote.
* `Starchart.Json.readNumber` — a whole number or a double.
* `Starchart.Json.readValue` — one value and the characters after it.
* `Starchart.Json.read` — the value that a text holds.
-/

set_option autoImplicit false

namespace Starchart.Json

/-- Why a text is not read. -/
inductive Failure where
  /-- It holds no structured value. -/
  | malformed
  | overrun (limit : Overrun)
  deriving DecidableEq, Repr, Inhabited

/-- A step of reading, which may fail. -/
abbrev Reading := Except Failure

/-! ## Tokens -/

/-- Whether a character may stand between tokens. -/
def isSpace (c : Char) : Bool :=
  c == ' ' || c == '\t' || c == '\n' || c == '\r'

/-- The characters from the next token on. -/
def skip (source : List Char) : List Char := source.dropWhile isSpace

/-! ## Texts -/

/-- The value of a hexadecimal digit. -/
def hexValue? (c : Char) : Option Nat :=
  if '0' ≤ c ∧ c ≤ '9' then some (c.toNat - 48)
  else if 'a' ≤ c ∧ c ≤ 'f' then some (c.toNat - 87)
  else if 'A' ≤ c ∧ c ≤ 'F' then some (c.toNat - 55)
  else none

/-- The unit that four hexadecimal digits spell, and the characters after them. -/
def readUnit : List Char → Reading (Nat × List Char)
  | a :: b :: c :: d :: rest =>
    match hexValue? a, hexValue? b, hexValue? c, hexValue? d with
    | some a, some b, some c, some d => .ok (((a * 16 + b) * 16 + c) * 16 + d, rest)
    | _, _, _, _ => .error .malformed
  | _ => .error .malformed

/-- Whether a unit is the first half of a pair. -/
def isHigh (unit : Nat) : Bool := decide (0xd800 ≤ unit) && decide (unit < 0xdc00)

/-- Whether a unit is the second half of a pair. -/
def isLow (unit : Nat) : Bool := decide (0xdc00 ≤ unit) && decide (unit < 0xe000)

/-- The code point with a given number. -/
def readPoint (n : Nat) : Reading CodePoint :=
  match CodePoint.ofNat? n with
  | some p => .ok p
  | none => .error .malformed

/-- The code point after `\u`, and the characters after it.  Two units that form a pair spell one
character; half a pair alone stands for itself. -/
def readEscape (source : List Char) : Reading (CodePoint × List Char) := do
  let (unit, rest) ← readUnit source
  let alone ← readPoint unit
  if isHigh unit then
    match rest with
    | '\\' :: 'u' :: more =>
      let (second, after) ← readUnit more
      if isLow second then
        return (← readPoint (0x10000 + (unit - 0xd800) * 0x400 + (second - 0xdc00)), after)
      else return (alone, rest)
    | _ => return (alone, rest)
  else return (alone, rest)

/-- The character that a one-letter escape stands for. -/
def shortEscape? : Char → Option Char
  | '"' => some '"'
  | '\\' => some '\\'
  | '/' => some '/'
  | 'b' => some '\x08'
  | 'f' => some '\x0c'
  | 'n' => some '\n'
  | 'r' => some '\r'
  | 't' => some '\t'
  | _ => none

/-- The code points of a text up to its closing quote, and what follows.  The fuel bounds the length
of the text. -/
def readText : Nat → List Char → Reading (List CodePoint × List Char)
  | 0, _ => .error .malformed
  | fuel + 1, source =>
    match source with
    | [] => .error .malformed
    | '"' :: rest => .ok ([], rest)
    | '\\' :: 'u' :: rest => do
      let (p, rest) ← readEscape rest
      let (points, rest) ← readText fuel rest
      return (p :: points, rest)
    | '\\' :: letter :: rest =>
      match shortEscape? letter with
      | none => .error .malformed
      | some c => do
        let (points, rest) ← readText fuel rest
        return (.ofChar c :: points, rest)
    | c :: rest =>
      if c = '\\' ∨ c.toNat < 32 then .error .malformed
      else do
        let (points, rest) ← readText fuel rest
        return (.ofChar c :: points, rest)

/-! ## Numbers -/

/-- Whether a character is a decimal digit. -/
def isDigit (c : Char) : Bool := decide ('0' ≤ c) && decide (c ≤ '9')

/-- The number that decimal digits spell. -/
def ofDigits (digits : List Char) : Nat :=
  digits.foldl (fun n c => 10 * n + (c.toNat - 48)) 0

/-- The digits before the point: a zero alone, or digits that start with none. -/
def readWhole : List Char → Option (List Char × List Char)
  | '0' :: rest => some (['0'], rest)
  | source =>
    let digits := source.takeWhile isDigit
    if digits.isEmpty then none else some (digits, source.dropWhile isDigit)

/-- The digits after a point, if there is a point with digits after it. -/
def readFraction : List Char → Option (List Char × List Char)
  | '.' :: rest =>
    let digits := rest.takeWhile isDigit
    if digits.isEmpty then none else some (digits, rest.dropWhile isDigit)
  | _ => none

/-- The digits of an exponent with its sign, if there are any. -/
def readExponentDigits (negative : Bool) (source : List Char) : Option (Int × List Char) :=
  let digits := source.takeWhile isDigit
  if digits.isEmpty then none
  else
    let n : Int := ofDigits digits
    some (if negative then -n else n, source.dropWhile isDigit)

/-- The exponent of ten, if there is one. -/
def readExponent : List Char → Option (Int × List Char)
  | c :: rest =>
    if c = 'e' ∨ c = 'E' then
      match rest with
      | '+' :: more => readExponentDigits false more
      | '-' :: more => readExponentDigits true more
      | more => readExponentDigits false more
    else none
  | [] => none

/-- The double nearest to `digits * 10 ^ exponent`.  Beyond the range of doubles no power of ten is
computed. -/
def double (negative : Bool) (digits : Nat) (exponent : Int) : Float :=
  let size := (Nat.log2 digits : Int) * 30103 / 100000 + exponent
  let magnitude :=
    if digits == 0 || decide (size < -400) then 0.0
    else if 400 < size then 1.0 / 0.0
    else Float.ofScientific digits (exponent < 0) exponent.natAbs
  if negative then -magnitude else magnitude

/-- A number after its sign: a whole number, unless it has a fraction or an exponent. -/
def readNumber (negative : Bool) (source : List Char) : Reading (Json × List Char) :=
  match readWhole source with
  | none => .error .malformed
  | some (whole, rest) =>
    let (fraction, rest, hasFraction) := match readFraction rest with
      | some (digits, more) => (digits, more, true)
      | none => ([], rest, false)
    let (exponent, rest, hasExponent) := match readExponent rest with
      | some (e, more) => (e, more, true)
      | none => (0, rest, false)
    if hasFraction || hasExponent then
      .ok (.float (double negative (ofDigits (whole ++ fraction)) (exponent - fraction.length)),
        rest)
    else if maxDigits < whole.length then .error (.overrun (.digits whole.length))
    else
      let n : Int := ofDigits whole
      .ok (.int (if negative then -n else n), rest)

/-! ## Values -/

/-- The fields with one more: a key that is known already gets the new value in its old place. -/
def setField (fields : List (Text × Json)) (key : Text) (value : Json) : List (Text × Json) :=
  if fields.any (·.1 == key) then
    fields.map fun field => if field.1 == key then (key, value) else field
  else fields ++ [(key, value)]

/-- The characters after a word, if the text starts with it. -/
def after? (word : String) (source : List Char) : Option (List Char) :=
  if word.toList.isPrefixOf source then some (source.drop word.length) else none

/-- A value that is written as a word. -/
def readWord (word : String) (value : Json) (source : List Char) : Reading (Json × List Char) :=
  match after? word source with
  | some rest => .ok (value, rest)
  | none => .error .malformed

/-- A double that is written as a word.  It takes the room of a list or object. -/
def readWordDouble (room : Nat) (word : String) (value : Float) (source : List Char) :
    Reading (Json × List Char) :=
  match after? word source, room with
  | none, _ => .error .malformed
  | some _, 0 => .error (.overrun .nestedWord)
  | some rest, _ + 1 => .ok (.float value, rest)

mutual

/-- The value at the start of a text, and the characters after it.  The fuel bounds the length of
the text, and `room` how many more lists and objects may stand inside each other. -/
def readValue : Nat → Nat → List Char → Reading (Json × List Char)
  | 0, _, _ => .error .malformed
  | fuel + 1, room, source =>
    match source with
    | '"' :: rest => do
      let (points, rest) ← readText fuel rest
      return (.text ⟨points⟩, rest)
    | '[' :: rest =>
      match room with
      | 0 => .error (.overrun .nestedList)
      | room + 1 =>
        match skip rest with
        | ']' :: rest => .ok (.list [], rest)
        | rest => do
          let (items, rest) ← readItems fuel room rest
          return (.list items, rest)
    | '\x7b' :: rest =>
      match room with
      | 0 => .error (.overrun .nestedObject)
      | room + 1 =>
        match skip rest with
        | '\x7d' :: rest => .ok (.object [], rest)
        | rest => do
          let (fields, rest) ← readFields fuel room [] rest
          return (.object fields, rest)
    | 'n' :: _ => readWord "null" .null source
    | 't' :: _ => readWord "true" (.bool true) source
    | 'f' :: _ => readWord "false" (.bool false) source
    | 'N' :: _ => readWordDouble room "NaN" (0.0 / 0.0) source
    | 'I' :: _ => readWordDouble room "Infinity" (1.0 / 0.0) source
    | '-' :: 'I' :: _ => readWordDouble room "-Infinity" (-1.0 / 0.0) source
    | '-' :: rest => readNumber true rest
    | _ => readNumber false source

/-- The items of a list from the next one on, and the characters after the list. -/
def readItems : Nat → Nat → List Char → Reading (List Json × List Char)
  | 0, _, _ => .error .malformed
  | fuel + 1, room, source => do
    let (item, rest) ← readValue fuel room source
    match skip rest with
    | ',' :: rest =>
      let (items, rest) ← readItems fuel room (skip rest)
      return (item :: items, rest)
    | ']' :: rest => return ([item], rest)
    | _ => .error .malformed

/-- The fields of an object, those read already and those from the next one on, and the characters
after the object. -/
def readFields : Nat → Nat → List (Text × Json) → List Char →
    Reading (List (Text × Json) × List Char)
  | 0, _, _, _ => .error .malformed
  | fuel + 1, room, fields, source =>
    match source with
    | '"' :: rest => do
      let (key, rest) ← readText fuel rest
      match skip rest with
      | ':' :: rest =>
        let (value, rest) ← readValue fuel room (skip rest)
        let fields := setField fields ⟨key⟩ value
        match skip rest with
        | ',' :: rest => readFields fuel room fields (skip rest)
        | '\x7d' :: rest => return (fields, rest)
        | _ => .error .malformed
      | _ => .error .malformed
    | _ => .error .malformed

end

/-- The value that a text holds, with nothing but blanks around it.  The room says how many lists
and objects may stand inside each other. -/
def read (room : Nat) (source : String) : Reading Json := do
  let chars := source.toList
  let (value, rest) ← readValue (2 * chars.length + 2) room (skip chars)
  if (skip rest).isEmpty then return value else .error .malformed

end Starchart.Json
