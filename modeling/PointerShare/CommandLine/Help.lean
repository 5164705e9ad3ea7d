/-
# Help for the command line

A help text says what the program or one of its commands does, how it is used,
and lists its commands and options in two columns. The second column begins
two blanks after the longest entry of the first.

Key definitions: `Scope.about`, `Scope.helpLines`, `Scope.versionLine`.
-/
import PointerShare.CommandLine.Reading

namespace PointerShare

/-- The program's version. -/
def version : String := "0.1.0-alpha.1"

namespace Scope

def about : Scope → String
  | program => "Share one keyboard and mouse across nearby devices"
  | config => "Print the effective configuration as TOML"
  | statusCodes => "List the status codes returned to IPC callers"
  | demo => "Run a scripted session against in-process mock collaborators"
  | help => "Print this message or the help of the given subcommand(s)"

def usage : Scope → String
  | program => "coop [OPTIONS] <COMMAND>"
  | help => "coop help [COMMAND]..."
  | s => "coop " ++ s.word ++ " [OPTIONS]"

/-- The options that only this scope takes, each with what it is for. -/
def ownOptions : Scope → List (String × String)
  | demo =>
    [("    --peer <PEER>",
      "Remote peer to cooperate with [default: " ++ CommandLine.usualPeer ++ "]")]
  | _ => []

/-- The options of the scope: its own stand between the configuration and what is asked about the
program itself. The command `help` takes none. -/
def options : Scope → List (String × String)
  | help => []
  | s =>
    ("-c, --config <CONFIG>", "Path to configuration file") :: s.ownOptions ++
      [("-h, --help", "Print help"), ("-V, --version", "Print version")]

/-- The plain words a scope takes. -/
def arguments : Scope → List (String × String)
  | help => [("[COMMAND]...", "Print help for the subcommand(s)")]
  | _ => []

def listed : Scope → List (String × String)
  | program => commands.map fun s => (s.word, s.about)
  | _ => []

/-- Two columns. -/
def columns (rows : List (String × String)) : List String :=
  let width := (rows.map fun r => r.1.length).foldl max 0
  rows.map fun r =>
    "  " ++ r.1 ++ String.ofList (List.replicate (width - r.1.length + 2) ' ') ++ r.2

/-- A titled list after an empty line; nothing when there is nothing to list. -/
def part (title : String) (rows : List (String × String)) : List String :=
  if rows.isEmpty then [] else "" :: title :: columns rows

def helpLines (s : Scope) : List String :=
  [s.about, "", "Usage: " ++ s.usage] ++ part "Commands:" s.listed ++
    part "Arguments:" s.arguments ++ part "Options:" s.options

/-- The program's name, joined with the command's, and the version. -/
def versionLine (s : Scope) : String :=
  (if s = program then program.word else program.word ++ "-" ++ s.word) ++ " " ++ version

end Scope
end PointerShare
