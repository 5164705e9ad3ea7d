/-
# What a command line asks for

The words after the program's name select a command: to print the
configuration, to list the status codes, or to play a demo session. The option
for the configuration file may stand before the command or after it, and after
it counts. Every command knows `--help` and `--version`, which end the reading
at once.

An option that takes a value has it attached (`--peer=x`, `-cx`, `-c=x`) or as
the next word, unless that begins with a dash and is longer. An option with a
value of its own word is counted when the next option, or the end of its
command's words, is reached; so nothing is wrong with it before that. After
`--` no option is recognised, and since no command takes plain words, none may
follow.

Key definitions: `Command`, `Invocation`, `UsageFault`, `Asked`,
`CommandLine.read`.
-/
import PointerShare.Ident

namespace PointerShare

/-- What the program can be told to do. -/
inductive Command where
  | config
  | statusCodes
  /-- Plays a session with a peer of this name. -/
  | demo (peer : NetworkId)
  deriving DecidableEq, Repr

/-- A command, and the configuration file that was asked for. -/
structure Invocation where
  configPath : Option String
  command : Command
  deriving DecidableEq, Repr

/-- Whose words are read: the program's own, or those of one of its commands. -/
inductive Scope where
  | program
  | config
  | statusCodes
  | demo
  | help
  deriving DecidableEq, Repr

namespace Scope

/-- The word that selects a command. -/
def word : Scope → String
  | program => "coop"
  | config => "config"
  | statusCodes => "status-codes"
  | demo => "demo"
  | help => "help"

/-- The commands, in the order in which they are listed. -/
def commands : List Scope := [config, statusCodes, demo, help]

def ofWord? (w : String) : Option Scope := commands.find? fun s => s.word == w

end Scope

/-- An option that takes a value. -/
inductive Setting where
  | config
  | peer
  deriving DecidableEq, Repr

def Setting.name : Setting → String
  | config => "--config"
  | peer => "--peer"

/-- What is wrong with a command line. -/
inductive UsageFault where
  | missingCommand
  | missingValue (setting : Setting)
  | repeated (setting : Setting)
  /-- An option that takes no value has one. -/
  | unneededValue (option : String)
  | unexpected (word : String)
  deriving DecidableEq, Repr

def UsageFault.message : UsageFault → String
  | missingCommand => "a command is required"
  | missingValue setting => "a value is required for '" ++ setting.name ++ "'"
  | repeated setting => "'" ++ setting.name ++ "' cannot be used multiple times"
  | unneededValue option => "'" ++ option ++ "' takes no value"
  | unexpected word => "unexpected argument '" ++ word ++ "'"

/-- What a command line comes to. -/
inductive Asked where
  | run (invocation : Invocation)
  | help (scope : Scope)
  | version (scope : Scope)
  | misuse (fault : UsageFault)
  deriving DecidableEq, Repr

namespace CommandLine

/-- The words of one scope as far as they have been read. -/
structure Level where
  scope : Scope
  config : Option String
  peer : Option String
  /-- The last option, with its value if that has been read, as long as it is not counted. -/
  pending : Option (Setting × Option String)
  deriving DecidableEq, Repr

namespace Level

def start (scope : Scope) : Level := ⟨scope, none, none, none⟩

def get (l : Level) : Setting → Option String
  | .config => l.config
  | .peer => l.peer

/-- Counts an option; no option may be counted twice. -/
def put (l : Level) (setting : Setting) (value : String) : Except UsageFault Level :=
  if (l.get setting).isSome then .error (.repeated setting)
  else match setting with
    | .config => .ok { l with config := some value }
    | .peer => .ok { l with peer := some value }

/-- Counts the last option. -/
def settle (l : Level) : Except UsageFault Level :=
  match l.pending with
  | none => .ok l
  | some (setting, none) => .error (.missingValue setting)
  | some (setting, some value) => { l with pending := none }.put setting value

/-- The last option still waits for its value. -/
def isWaiting (l : Level) : Bool :=
  match l.pending with
  | some (_, none) => true
  | _ => false

end Level

/-! ### Words -/

/-- What an option is for. -/
inductive OptionKind where
  | setting (setting : Setting)
  | help
  | version
  deriving DecidableEq, Repr

/-- The option with a long name. -/
def longOption? (scope : Scope) (name : String) : Option OptionKind :=
  if name = "config" then some (.setting .config)
  else if name = "help" then some .help
  else if name = "version" then some .version
  else if name = "peer" ∧ scope = .demo then some (.setting .peer)
  else none

/-- The option with a letter. -/
def shortOption? (letter : Char) : Option OptionKind :=
  if letter = 'c' then some (.setting .config)
  else if letter = 'h' then some .help
  else if letter = 'V' then some .version
  else none

/-- A word, taken apart. -/
inductive Word where
  | plain
  /-- The two dashes that end the options. -/
  | separator
  /-- A recognised option with the value attached to it. -/
  | option (kind : OptionKind) (attached : Option String)
  | unknownOption
  deriving DecidableEq, Repr

/-- The value after a letter; an equals sign in front of it does not belong to it. -/
def attachedTo : List Char → Option String
  | [] => none
  | '=' :: rest => some (String.ofList rest)
  | rest => some (String.ofList rest)

/-- Takes a long option apart at its first equals sign. -/
def longWord (scope : Scope) (cs : List Char) : Word :=
  let name := String.ofList (cs.takeWhile (· != '='))
  let attached := match cs.dropWhile (· != '=') with
    | [] => none
    | _ :: rest => some (String.ofList rest)
  match longOption? scope name with
  | none => .unknownOption
  | some kind => .option kind attached

/-- Takes a word apart. A letter that takes no value ends the reading, so whatever follows it is
not looked at. -/
def takeApart (scope : Scope) (w : String) : Word :=
  match w.toList with
  | ['-', '-'] => .separator
  | '-' :: '-' :: rest => longWord scope rest
  | '-' :: letter :: rest =>
    match shortOption? letter with
    | none => .unknownOption
    | some (.setting s) => .option (.setting s) (attachedTo rest)
    | some kind => .option kind none
  | _ => .plain

/-! ### Reading -/

/-- Reading goes on at a level, or has come to an end. -/
inductive Step where
  | more (level : Level)
  | done (asked : Asked)
  deriving DecidableEq, Repr

/-- Reads an option. Whatever it is, the option before it is counted first. -/
def readOption (l : Level) (w : String) (kind : OptionKind) (attached : Option String) : Step :=
  match kind, attached with
  | .setting s, none =>
    match l.settle with
    | .error fault => .done (.misuse fault)
    | .ok l => .more { l with pending := some (s, none) }
  | .setting s, some value =>
    match l.settle.bind fun l => l.put s value with
    | .error fault => .done (.misuse fault)
    | .ok l => .more l
  | _, some _ => .done (.misuse (.unneededValue w))
  | .help, none =>
    match l.settle with
    | .error fault => .done (.misuse fault)
    | .ok l => .done (.help l.scope)
  | .version, none =>
    match l.settle with
    | .error fault => .done (.misuse fault)
    | .ok l => .done (.version l.scope)

/-- Reads a plain word: the value of the option that waits for one, or a mistake. -/
def readPlain (l : Level) (w : String) : Step :=
  match l.pending with
  | some (s, none) => .more { l with pending := some (s, some w) }
  | _ => .done (.misuse (.unexpected w))

/-- Reads one word that selects no command and is not the separator. -/
def readWord (l : Level) (w : String) : Step :=
  match takeApart l.scope w with
  | .option kind attached => readOption l w kind attached
  | .unknownOption => .done (.misuse (.unexpected w))
  | .separator | .plain => readPlain l w

/-- The words after the separator: there must be none. -/
def readAfterSeparator (l : Level) : List String → Except Asked Level
  | [] => l.settle.mapError .misuse
  | w :: _ => .error (.misuse (.unexpected w))

/-- Reads a command's words to their end. -/
def readLevel (l : Level) : List String → Except Asked Level
  | [] => l.settle.mapError .misuse
  | w :: ws =>
    if takeApart l.scope w = .separator then readAfterSeparator l ws
    else match readWord l w with
      | .done asked => .error asked
      | .more l => readLevel l ws

/-- The words after `help` name at most one command. -/
def readHelp : List String → Asked
  | [] => .help .program
  | w :: ws =>
    match Scope.ofWord? w, ws with
    | none, _ => .misuse (.unexpected w)
    | some scope, [] => .help scope
    | some _, w :: _ => .misuse (.unexpected w)

/-- The peer of a demo session when none is named. -/
def usualPeer : String := "peer"

/-- The command of a scope. -/
def command? (l : Level) : Option Command :=
  match l.scope with
  | .config => some .config
  | .statusCodes => some .statusCodes
  | .demo => some (.demo ⟨l.peer.getD usualPeer⟩)
  | .program | .help => none

/-- Reads a command's words, then counts what stood before it; the command's own configuration
file goes before the program's. -/
def readCommand (outer : Level) (scope : Scope) (ws : List String) : Asked :=
  match readLevel (.start scope) ws with
  | .error asked => asked
  | .ok inner =>
    match outer.settle, command? inner with
    | .error fault, _ => .misuse fault
    | .ok _, none => .misuse .missingCommand
    | .ok outer, some command => .run ⟨inner.config <|> outer.config, command⟩

/-- Reads the program's own words up to the command. -/
def readProgram (l : Level) : List String → Asked
  | [] =>
    match l.settle with
    | .error fault => .misuse fault
    | .ok _ => .misuse .missingCommand
  | w :: ws =>
    match l.isWaiting, Scope.ofWord? w with
    | false, some .help => readHelp ws
    | false, some scope => readCommand l scope ws
    | _, _ =>
      if takeApart l.scope w = .separator then
        match readAfterSeparator l ws with
        | .error asked => asked
        | .ok _ => .misuse .missingCommand
      else match readWord l w with
        | .done asked => asked
        | .more l => readProgram l ws

/-- What the words after the program's name ask for. -/
def read (words : List String) : Asked := readProgram (.start .program) words

end CommandLine
end PointerShare
