import Starchart.Json.Value

/-!
# Diagnostics

Soft problems never stop the generator.  Each is recorded as a diagnostic with its severity, what it
is about, a message and the figures behind it.

## Main definitions

* `Starchart.Severity`, `Starchart.Category` — how grave a diagnostic is and what it concerns.
* `Starchart.Diagnostic` — one recorded problem or decision.
-/

set_option autoImplicit false

namespace Starchart

/-- How grave a diagnostic is. -/
inductive Severity where
  | info
  | warning
  deriving DecidableEq, Repr, Inhabited

/-- The written form of a severity. -/
def Severity.code : Severity → String
  | info => "info"
  | warning => "warning"

/-- What a diagnostic is about. -/
inductive Category where
  /-- A tolerated oddity in what was given to the generator. -/
  | input
  /-- Fewer bodies placed than rolled. -/
  | shortfall
  /-- A star whose zones offer no usable orbit. -/
  | zone
  /-- A search for a satellite orbit that was given up. -/
  | orbit
  /-- A main world seated somewhere other than in a bare slot. -/
  | placement
  deriving DecidableEq, Repr, Inhabited

namespace Category

/-- The written form of a category. -/
def code : Category → String
  | input => "input"
  | shortfall => "shortfall"
  | zone => "zone"
  | orbit => "orbit"
  | placement => "placement"

/-- Every category. -/
def all : List Category := [input, shortfall, zone, orbit, placement]

/-- The category written as `text`. -/
def ofCode? (text : String) : Option Category :=
  all.find? (·.code == text)

end Category

/-- A recorded problem or decision with the named figures behind it. -/
structure Diagnostic where
  severity : Severity
  category : Category
  message : String
  data : List (String × Json) := []
  deriving Inhabited

namespace Diagnostic

/-- A warning. -/
def warning (category : Category) (message : String) (data : List (String × Json)) : Diagnostic :=
  ⟨.warning, category, message, data⟩

/-- A note on a decision that the caller may want to know about. -/
def note (category : Category) (message : String) (data : List (String × Json)) : Diagnostic :=
  ⟨.info, category, message, data⟩

/-- The line that a report shows for a diagnostic. -/
def line (d : Diagnostic) : String :=
  "[" ++ d.severity.code ++ "] " ++ d.category.code ++ ": " ++ d.message

end Diagnostic

end Starchart
