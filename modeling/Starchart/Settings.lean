import Starchart.Journal
import Starchart.Json.Reader
import Starchart.Json.Writer
import Starchart.Text.Capital

/-!
# Settings

What a user may set: kept in a file as an object with one field per setting.  Each field is judged
on its own: one that is missing or of the wrong kind leaves the default, and the others count.

## Main definitions

* `Starchart.Settings` — the settings with their defaults.
* `Starchart.Settings.ofFields` — settings read off the fields of an object.
* `Starchart.Settings.fields`, `Starchart.Settings.save` — settings as an object and as a file.
* `Starchart.Settings.load` — the settings that a file holds.
* `Starchart.LogLevel.named` — the log level that a setting names.
-/

set_option autoImplicit false

namespace Starchart

/-- The settings of a user. -/
@[ext]
structure Settings where
  /-- Whether listings show orbits that stay empty. -/
  showEmpty : Bool := false
  /-- After how many tries a satellite orbit is no longer searched for. -/
  retryLimit : Int := 64
  logLevel : Text := "WARNING"
  /-- The name of a main world that is given none. -/
  name : Text := "Main World"
  /-- The profile of a main world that is given none. -/
  profile : Text := "A788899-A"
  deriving DecidableEq, Repr, Inhabited

/-- The log level with the given name in either case; an unknown name means warnings. -/
def LogLevel.named (name : Text) : LogLevel :=
  match String.ofList (Text.upper name.plain.toList) with
  | "CRITICAL" | "FATAL" => .critical
  | "ERROR" => .error
  | "WARNING" | "WARN" => .warning
  | "INFO" => .info
  | "DEBUG" => .debug
  | "NOTSET" => .notset
  | _ => .warning

namespace Settings

/-! ## Fields -/

/-- The keys of the settings, in the order of a file. -/
def keys : List String :=
  ["show_empty_orbits", "satellite_orbit_retry_limit", "log_level", "default_name", "default_upp"]

/-- The value of a kind under a key, or the default. -/
def field {α : Type} (kind : Json → Option α) (fields : List (Text × Json)) (key : String)
    (default : α) : α :=
  ((Json.field? fields key).bind kind).getD default

/-- The settings that the fields of an object hold. -/
def ofFields (fields : List (Text × Json)) : Settings :=
  let standard : Settings := {}
  { showEmpty := field Json.bool? fields "show_empty_orbits" standard.showEmpty
    retryLimit := field Json.int? fields "satellite_orbit_retry_limit" standard.retryLimit
    logLevel := field Json.text? fields "log_level" standard.logLevel
    name := field Json.text? fields "default_name" standard.name
    profile := field Json.text? fields "default_upp" standard.profile }

/-- The settings as the fields of an object. -/
def fields (s : Settings) : List (Text × Json) :=
  [("show_empty_orbits", .bool s.showEmpty),
   ("satellite_orbit_retry_limit", .int s.retryLimit),
   ("log_level", .text s.logLevel),
   ("default_name", .text s.name),
   ("default_upp", .text s.profile)]

/-! ## Messages -/

/-- The kind of value that a key takes. -/
def kindOf (key : String) : String :=
  if key == "show_empty_orbits" then "bool"
  else if key == "satellite_orbit_retry_limit" then "int"
  else "str"

/-- Whether a value is of the kind that a key takes. -/
def hasKind (key : String) : Json → Bool
  | .bool _ => kindOf key == "bool"
  | .int _ => kindOf key == "int"
  | .text _ => kindOf key == "str"
  | _ => false

/-- The complaint about the value under a key, if it is of the wrong kind.  The complaint shows the
value, for which there has to be room. -/
def complaint? (room : Nat) (fields : List (Text × Json)) (key : String) :
    Except Json.Overrun (Option String) :=
  match Json.field? fields key with
  | none => .ok none
  | some value =>
    if hasKind key value then .ok none
    else do
      let shown ← value.shownWithin room
      return some ("Ignoring config value " ++ key ++ "=" ++ shown ++ "; expected " ++ kindOf key)

/-- The complaints about values of the wrong kind, in the order of the settings. -/
def complaints (room : Nat) (fields : List (Text × Json)) : Except Json.Overrun (List String) := do
  let found ← keys.mapM (complaint? room fields)
  return found.filterMap id

/-! ## Files -/

/-- What stands where the settings are kept. -/
inductive File where
  /-- Nothing. -/
  | missing
  /-- Something that is no readable file. -/
  | unreadable
  | bytes (content : ByteArray)

/-- The value that a file holds. -/
def File.read (room : Nat) : File → Json.Reading Json
  | missing | unreadable => .error .malformed
  | bytes content =>
    match String.fromUTF8? content with
    | some text => Json.read room text
    | none => .error .malformed

/-- The room there is where settings are loaded on their own. -/
def room : Json.Room := ⟨990, 984⟩

/-- The settings that a file at the given path holds, with the complaints about it.  A file that is
missing, unreadable or no object leaves every default; one that does not keep a limit is refused. -/
def load (room : Json.Room) (path : String) (file : File) :
    Except Json.Overrun (Settings × List String) :=
  match file with
  | .missing => .ok ({}, [])
  | _ =>
    match file.read room.reading with
    | .ok (.object fields) => do return (ofFields fields, ← complaints room.showing fields)
    | .ok _ => .ok ({}, [])
    | .error .malformed => .ok ({}, ["Could not read config " ++ path ++ "; using defaults"])
    | .error (.overrun limit) => .error limit

/-- The content of a file that holds the settings. -/
def save (s : Settings) : String :=
  Json.fileObject s.fields

end Settings

end Starchart
