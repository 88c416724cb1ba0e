import Starchart.CommandLine.Session

/-!
# The command

Reads the arguments and the settings file, runs the command line and prints what it brings about.
-/

set_option autoImplicit false

namespace Starchart

/-- Where the settings of a user are kept. -/
def settingsPath : IO String := do
  match ← IO.getEnv "XDG_CONFIG_HOME" with
  | some folder => return folder ++ "/worldgen/config.json"
  | none => return (← IO.getEnv "HOME").getD "" ++ "/.config/worldgen/config.json"

/-- What stands at a path. -/
def settingsFile (path : String) : IO Settings.File := do
  try
    return .bytes (← IO.FS.readBinFile path)
  catch error =>
    match error with
    | .noFileOrDirectory .. => return .missing
    | _ => return .unreadable

end Starchart

open Starchart in
/-- Runs the command line. -/
def main (arguments : List String) : IO UInt32 := do
  let path ← settingsPath
  let file ← settingsFile path
  let spare ← IO.rand 0 0x100000000
  match CommandLine.run arguments path file spare with
  | .exits code out =>
    IO.print out
    return code.toUInt32
  | .ends code out err =>
    IO.eprint err
    IO.print out
    return code.toUInt32
  | .broken why =>
    IO.eprintln why.message
    return 1
