import Starchart.Text.CodePoint
import Starchart.Text.Numeral

/-!
# Command-line arguments

Options may be cut short as long as they stay unambiguous, and their values may follow after an
equals sign.  Help has a one-letter form as well, which may be repeated in one argument.  Of an
option given twice the last one counts.  There are no other arguments.

On one point the custom differs: what the divider gives when it stands after an equals sign.  It is
either a value like any other, or no value at all, which leaves the option with nothing.

## Main definitions

* `Starchart.CommandLine.Token` — what one argument is.
* `Starchart.CommandLine.Custom` — what the divider gives after an equals sign.
* `Starchart.CommandLine.Given` — what an option was given.
* `Starchart.CommandLine.Arguments` — the values of all options.
* `Starchart.CommandLine.Request` — what a command line asks for.
* `Starchart.CommandLine.Request.ofArguments` — the request of a list of arguments.
-/

set_option autoImplicit false

namespace Starchart.CommandLine

/-- The options. -/
inductive Flag where
  | help
  | name
  | profile
  | seed
  | showEmpty
  | verbose
  | version
  deriving DecidableEq, Repr, Inhabited

namespace Flag

/-- An option as it is written in full. -/
def text : Flag → String
  | help => "--help"
  | name => "--name"
  | profile => "--upp"
  | seed => "--seed"
  | showEmpty => "--show-empty"
  | verbose => "--verbose"
  | version => "--version"

/-- Every option. -/
def all : List Flag := [help, name, profile, seed, showEmpty, verbose, version]

/-- The option written in full. -/
def ofText? (argument : String) : Option Flag :=
  all.find? (·.text == argument)

/-- The options that a shortened form may stand for. -/
def abbreviated (stem : List Char) : List Flag :=
  all.filter fun flag => stem.isPrefixOf flag.text.toList

end Flag

/-! ## Arguments one by one -/

/-- What an argument is. This depends on the argument alone, and on whether a divider came before
it. -/
inductive Token where
  /-- An option, perhaps with a value after an equals sign. -/
  | flag (which : Flag) (value : Option Text)
  /-- Something that looks like an option but is none. -/
  | unknown
  /-- The mark after which nothing is an option. -/
  | divider
  /-- A value. -/
  | plain (text : Text)
  /-- A shortened option that may stand for several. -/
  | ambiguous
  deriving DecidableEq, Repr, Inhabited

/-- Whether characters spell a negative number, which is no option though it starts with a
hyphen. -/
def isNegativeNumber (argument : List Char) : Bool :=
  let isDigit := fun c => (Text.digitValue? c).isSome
  let body := match argument.reverse with
    | '\n' :: rest => rest.reverse
    | _ => argument
  match body with
  | '-' :: rest =>
    let whole := rest.takeWhile isDigit
    match rest.dropWhile isDigit with
    | [] => !whole.isEmpty
    | '.' :: fraction => !fraction.isEmpty && fraction.all isDigit
    | _ => false
  | _ => false

/-- The characters before the first equals sign and the text after it, if there is one. -/
def splitValue (argument : Text) : List Char × Option Text :=
  let isOther := fun p : CodePoint => p.char != '='
  let stem := (argument.points.takeWhile isOther).map CodePoint.char
  match argument.points.dropWhile isOther with
  | [] => (stem, none)
  | _ :: rest => (stem, some ⟨rest⟩)

/-- What the letters after `-h` make of it.  Each letter is a short option of its own, and only `h`
is one; any other text is a value, which help does not take. -/
def classifyLetters (letters : Text) : Token :=
  if letters.points.all (·.char == 'h') then .flag .help none
  else .flag .help (some letters)

/-- What an argument that is no option in full may be: a shortened option, a value, or unknown. -/
def classifyShort (argument : Text) : Token :=
  let chars := argument.plain.toList
  let flags := match chars with
    | '-' :: '-' :: _ =>
      let (stem, value) := splitValue argument
      (Flag.abbreviated stem).map fun flag => Token.flag flag value
    | _ => []
  match flags with
  | [token] => token
  | _ :: _ :: _ => .ambiguous
  | [] =>
    if isNegativeNumber chars then .plain argument
    else if chars.contains ' ' then .plain argument
    else .unknown

/-- What an argument is. -/
def classify (argument : Text) : Token :=
  match argument.plain.toList with
  | ['-', 'h', '='] => .flag .help (some "")
  | '-' :: 'h' :: '=' :: _ => classifyLetters ⟨argument.points.drop 3⟩
  | '-' :: 'h' :: _ => classifyLetters ⟨argument.points.drop 2⟩
  | '-' :: _ :: _ =>
    match Flag.ofText? argument.plain with
    | some flag => .flag flag none
    | none =>
      let (stem, value) := splitValue argument
      match value, Flag.ofText? (String.ofList stem) with
      | some value, some flag => .flag flag (some value)
      | _, _ => classifyShort argument
  | _ => .plain argument

/-- The argument after which nothing is an option. -/
def divider : Text := "--"

/-- What each argument is: after a divider every one is a value. -/
def classifyAll : List Text → List Token
  | [] => []
  | argument :: rest =>
    if argument = divider then .divider :: rest.map .plain
    else classify argument :: classifyAll rest

/-! ## Requests -/

/-- What an option is given by the divider after its equals sign. Interpreters of command lines
differ in this, so that a run is told which custom it is to follow. -/
inductive Custom where
  /-- The divider itself, as any other text. -/
  | keeps
  /-- Nothing. -/
  | drops
  deriving DecidableEq, Repr, Inhabited

/-- What an option was given. -/
inductive Given (α : Type) where
  | value (a : α)
  /-- No value, where the divider stands for none. -/
  | nothing
  deriving DecidableEq, Repr, Inhabited

/-- A given text as messages show it; nothing shows as an empty list. -/
def Given.text : Given Text → Text
  | value text => text
  | nothing => "[]"

/-- The values of the options of a run. -/
structure Arguments where
  name : Option (Given Text) := none
  profile : Option (Given Text) := none
  seed : Option (Given Int) := none
  showEmpty : Bool := false
  verbose : Bool := false
  deriving DecidableEq, Repr, Inhabited

/-- What a command line asks for. -/
inductive Request where
  | help
  | version
  /-- The command line makes no sense. -/
  | misuse
  | run (arguments : Arguments)
  deriving DecidableEq, Repr, Inhabited

/-- What the written value of an option gives, unless it cannot be read. -/
def Given.read? {α : Type} (custom : Custom) (readValue? : Text → Option α) (written : Text) :
    Option (Given α) :=
  if custom = .drops ∧ written = divider then some nothing else (readValue? written).map value

/-- The arguments with the value of an option set, unless the value does not fit. -/
def Arguments.setValue (a : Arguments) (custom : Custom) (flag : Flag) (written : Text) :
    Option Arguments :=
  match flag with
  | .name => (Given.read? custom some written).map fun given => { a with name := some given }
  | .profile => (Given.read? custom some written).map fun given => { a with profile := some given }
  | .seed =>
    (Given.read? custom (fun text => Text.readInt? text.plain) written).map fun given =>
      { a with seed := some given }
  | _ => none

/-- The request of classified arguments, after those read so far.  Help and version are answered as
soon as they are met; anything left over is misuse in the end. -/
def Request.ofTokens (custom : Custom) (a : Arguments) (leftOver : Bool) : List Token → Request
  | [] => if leftOver then .misuse else .run a
  | .flag flag (some value) :: rest =>
    match a.setValue custom flag value with
    | some a => ofTokens custom a leftOver rest
    | none => .misuse
  | .flag .help none :: _ => .help
  | .flag .version none :: _ => .version
  | .flag .showEmpty none :: rest => ofTokens custom { a with showEmpty := true } leftOver rest
  | .flag .verbose none :: rest => ofTokens custom { a with verbose := true } leftOver rest
  | .flag flag none :: .plain value :: rest =>
    match a.setValue custom flag value with
    | some a => ofTokens custom a leftOver rest
    | none => .misuse
  | .flag _ none :: _ => .misuse
  | _ :: rest => ofTokens custom a true rest

/-- The request of a list of arguments. -/
def Request.ofArguments (custom : Custom) (arguments : List Text) : Request :=
  let tokens := classifyAll arguments
  if tokens.contains .ambiguous then .misuse else ofTokens custom {} false tokens

end Starchart.CommandLine
