/-
# What a run of the program shows

A run prints lines and ends well, with an error of its own, or because the
command line makes no sense; its exit code says which. The configuration is
loaded before any command is carried out, so a broken one stops them all. What
is found at the configuration's path is given from outside.

Key definitions: `Run`, `Run.exitCode`, `Invocation.perform`, `Asked.perform`.
-/
import PointerShare.CommandLine.Help
import PointerShare.Config
import PointerShare.Demo

namespace PointerShare

/-- How a run ends. -/
inductive Ending where
  | well
  | failed (why : String)
  | misused (fault : UsageFault)
  deriving DecidableEq, Repr

structure Run where
  /-- What is printed, as one text. -/
  output : String
  ending : Ending
  deriving DecidableEq, Repr

namespace Run

def exitCode (r : Run) : Nat :=
  match r.ending with
  | .well => 0
  | .failed _ => 1
  | .misused _ => 2

/-- What is printed besides the output. -/
def complaint? (r : Run) : Option String :=
  match r.ending with
  | .well => none
  | .failed why => some ("Error: " ++ why)
  | .misused fault => some ("error: " ++ fault.message)

/-- A text of whole lines. -/
def textOf (lines : List String) : String := String.join (lines.map (· ++ "\n"))

end Run

/-- A status code, right-aligned in four columns, and what it means. -/
def Refusal.line (r : Refusal) : String :=
  let code := toString r.code
  String.ofList (List.replicate (4 - code.length) ' ') ++ code ++ "  " ++ r.message

/-- Carries out a command under a configuration. -/
def Command.perform (config : Config) : Command → Run
  | .config => ⟨config.write, .well⟩
  | .statusCodes => ⟨Run.textOf (Refusal.catalogue.map Refusal.line), .well⟩
  | .demo peer =>
    let (lines, why) := Demo.play config.settings peer
    ⟨Run.textOf lines, match why with
      | none => .well
      | some why => .failed why.message⟩

/-- Loads the configuration and carries out the command. -/
def Invocation.perform (i : Invocation) (found : Config.Found) : Run :=
  match Config.load i.configPath found with
  | .error fault => ⟨"", .failed fault.fault.message⟩
  | .ok config => i.command.perform config

/-- Does what a command line asks for; `find` says what is at the path that was asked for, or at
the usual one. -/
def Asked.perform (asked : Asked) (find : Option String → Config.Found) : Run :=
  match asked with
  | .run i => i.perform (find i.configPath)
  | .help scope => ⟨Run.textOf scope.helpLines, .well⟩
  | .version scope => ⟨scope.versionLine ++ "\n", .well⟩
  | .misuse fault => ⟨"", .misused fault⟩

/-- The usual path of the configuration, below the user's configuration directory: the one that is
set, if it is an absolute path, or else the one in the home directory. -/
def Config.usualPath (configHome userHome : Option String) : String :=
  let directory := match configHome.filter (·.startsWith "/"), userHome with
    | some directory, _ => directory
    | none, some directory => directory ++ "/.config"
    | none, none => "~/.config"
  directory ++ "/input-coop/config.toml"

end PointerShare
