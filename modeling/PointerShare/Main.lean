/-
# The program

Reads the configuration file that a command line asks for, prints what the
run shows, and exits with its code.
-/
import PointerShare.Program

namespace PointerShare

/-- A failed call of the operating system, with its number. -/
def systemFault (details : String) (code : UInt32) : String :=
  details ++ " (os error " ++ toString code ++ ")"

/-- Why a file cannot be read. -/
def whyUnreadable : IO.Error → String
  | .permissionDenied _ code details => systemFault details code
  | .inappropriateType _ code details => systemFault details code
  | .otherError code details => systemFault details code
  | e => toString e

/-- What is found at a path. -/
def findAt (path : String) : IO Config.Found := do
  try
    return .file (← IO.FS.readBinFile path)
  catch
    | .noFileOrDirectory .. => return .nothing
    | e => return .unreadable (whyUnreadable e)

/-- What is found at the path that was asked for, or at the usual one. -/
def findConfig : Option String → IO Config.Found
  | some path => findAt path
  | none => do
    findAt (Config.usualPath (← IO.getEnv "XDG_CONFIG_HOME") (← IO.getEnv "HOME"))

end PointerShare

open PointerShare in
/-- The program. -/
def main (words : List String) : IO UInt32 := do
  let asked := CommandLine.read words
  let found ← match asked with
    | .run i => findConfig i.configPath
    | _ => pure .nothing
  let run := asked.perform fun _ => found
  IO.print run.output
  match run.complaint? with
  | none => pure ()
  | some line => IO.eprintln line
  return run.exitCode.toUInt32
