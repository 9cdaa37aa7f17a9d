import ServiceDiscovery.CommandLine.Reading
import ServiceDiscovery.CommandLine.Usage
import ServiceDiscovery.Number.Reading
import ServiceDiscovery.Value

/-!
What the program is asked to do. The main grammar has the options for configuration and logging and
names a command; each command has a grammar of its own. Values are converted in the order in which
they were given, so the first thing that is wrong, or the first wish for help, ends the reading.
-/

namespace ServiceDiscovery.CommandLine

/-! The grammars. -/

def programName : String := "nsdkit"

def helpOption : OptionForm where
  key := .help
  names := ["-h", "--help"]
  help := "show this help message and exit"

def timeoutOption : OptionForm where
  key := .timeout
  names := ["-t", "--timeout"]
  value := some "TIMEOUT"
  help := "Stop after this many seconds"

def levelChoices : List String := ["warning", "info", "debug"]

def commands : List (String × String) :=
  [("browse", "Browse for services"), ("publish", "Publish a service"),
    ("run", "Browse and publish as configured")]

def mainGrammar : Grammar where
  program := programName
  description := some "Publish, browse and resolve DNS-SD services"
  options := [helpOption,
    { key := .config, names := ["-c", "--config"], value := some "CONFIG"
      help := "Path to config file" },
    { key := .verbose, names := ["-v", "--verbose"], help := "Enable verbose logging" },
    { key := .logLevel, names := ["--log-level"], value := some (braced levelChoices)
      help := "Set log level explicitly (overrides -v/--verbose)" },
    { key := .json, names := ["--json"], help := "Output logs as JSON for machine parsing" }]
  operands := [{
    key := .command, name := "command", extent := .command, help := "Commands", commands }]

def browseGrammar : Grammar where
  program := programName ++ " browse"
  options := [helpOption, timeoutOption]
  operands := [{
    key := .type, name := "service_type", extent := .optional
    help := "Service type, e.g. _http._tcp (default: from config)" }]

def publishGrammar : Grammar where
  program := programName ++ " publish"
  options := [helpOption,
    { key := .type, names := ["-s", "--service-type"], value := some "SERVICE_TYPE"
      help := "Service type (default: from config)" },
    { key := .txt, names := ["--txt"], value := some "KEY[=VALUE]"
      help := "TXT record, may be repeated" },
    { key := .browse, names := ["--browse"], help := "Also browse for the same service type" },
    timeoutOption]
  operands := [{ key := .name, name := "name", help := "Service instance name" },
    { key := .port, name := "port", help := "Port the service listens on" }]

def runGrammar : Grammar where
  program := programName ++ " run"
  options := [helpOption, timeoutOption]

/-! What can be asked for. -/

structure Common where
  /-- The path of the configuration file. -/
  config : Option String := none
  verbose : Bool := false
  logLevel : Option String := none
  json : Bool := false
  deriving DecidableEq, Repr

inductive Command where
  | browse (type : Argument) (timeout : Option Double)
  | publish (name : Argument) (port : Value) (type : Argument) (txt : List Argument)
      (alsoBrowse : Bool) (timeout : Option Double)
  | run (timeout : Option Double)
  deriving Repr

/-- Why no command is to be carried out. -/
inductive Refusal where
  | help (grammar : Grammar)
  | complaint (grammar : Grammar) (complaint : Complaint)
  /-- Arguments without a text are left over, and cannot be listed. -/
  | unlistable

structure Invocation where
  common : Common := {}
  command : Option Command := none

/-! Converting what was given. -/

def Given.double (given : Given) (grammar : Grammar) (argument : Argument) :
    Except Refusal Double :=
  let refused := Refusal.complaint grammar (.noValue given.title "float" argument)
  match argument with
  | none => .error refused
  | some text => (Number.readDouble argument.quoted text.toList).mapError fun _ => refused

def Given.whole (given : Given) (grammar : Grammar) (argument : Argument) : Except Refusal Int :=
  let refused := Refusal.complaint grammar (.noValue given.title "int" argument)
  match argument with
  | none => .error refused
  | some text => (Number.readInt argument.quoted text.toList).mapError fun _ => refused

/-- The path that was given. Every text is a path. -/
def Given.path (given : Given) (grammar : Grammar) : Argument → Except Refusal String
  | none => .error (.complaint grammar (.noValue given.title "Path" none))
  | some text => .ok text

/-- The one of some choices that was given. What has no text counts as the word for that. -/
def Given.choice (given : Given) (grammar : Grammar) (choices : List String)
    (argument : Argument) : Except Refusal String :=
  let text := argument.getD "None"
  if choices.contains text then .ok text
  else .error (.complaint grammar (.noChoice given.title (some text) choices))

/-- Reads arguments by a grammar. Everything given changes what was asked for so far. -/
def Grammar.interpret {α : Type} (grammar : Grammar) (start : α)
    (change : Given → α → Except Refusal α) (arguments : List Argument) :
    Except Refusal (α × List Argument) := do
  let reading := Reading.ofArguments grammar arguments
  let asked ← reading.given.foldlM (fun asked given =>
    if given.key = .help then .error (.help grammar) else change given asked) start
  match reading.complaint, reading.missing with
  | some complaint, _ => .error (.complaint grammar complaint)
  | none, [] => .ok (asked, reading.rest)
  | none, missing => .error (.complaint grammar (.missing missing))

/-- The argument of an option or operand that takes one. An operand may be left without. -/
def Given.argument (given : Given) : Argument :=
  given.arguments.headD none

structure BrowseRequest where
  type : Argument := none
  timeout : Option Double := none

def BrowseRequest.change (given : Given) (asked : BrowseRequest) : Except Refusal BrowseRequest :=
  match given.key with
  | .type => .ok { asked with type := given.argument }
  | .timeout => do
      return { asked with timeout := some (← given.double browseGrammar given.argument) }
  | _ => .ok asked

structure PublishRequest where
  name : Argument := none
  port : Value := .null
  type : Argument := none
  txt : List Argument := []
  alsoBrowse : Bool := false
  timeout : Option Double := none

def PublishRequest.change (given : Given) (asked : PublishRequest) :
    Except Refusal PublishRequest :=
  match given.key with
  | .name => .ok { asked with name := given.argument }
  | .port =>
      if given.arguments = [] then .ok { asked with port := .list [] }
      else do return { asked with port := .int (← given.whole publishGrammar given.argument) }
  | .type => .ok { asked with type := given.argument }
  | .txt => .ok { asked with txt := asked.txt ++ [given.argument] }
  | .browse => .ok { asked with alsoBrowse := true }
  | .timeout => do
      return { asked with timeout := some (← given.double publishGrammar given.argument) }
  | _ => .ok asked

def readTimeout (given : Given) (asked : Option Double) : Except Refusal (Option Double) :=
  match given.key with
  | .timeout => do return some (← given.double runGrammar given.argument)
  | _ => .ok asked

/-- The command that arguments make, and those that nobody took. The first one names it. -/
def Command.ofArguments (title : String) : List Argument →
    Except Refusal (Command × List Argument)
  | some "browse" :: rest => do
      let (asked, left) ← browseGrammar.interpret {} BrowseRequest.change rest
      return (.browse asked.type asked.timeout, left)
  | some "publish" :: rest => do
      let (asked, left) ← publishGrammar.interpret {} PublishRequest.change rest
      return (.publish asked.name asked.port asked.type asked.txt asked.alsoBrowse asked.timeout,
        left)
  | some "run" :: rest => do
      let (timeout, left) ← runGrammar.interpret none readTimeout rest
      return (.run timeout, left)
  | arguments =>
      .error (.complaint mainGrammar
        (.noChoice title (arguments.headD none) (commands.map (·.1))))

namespace Invocation

/-- What is asked for so far, and the arguments that the command left over. -/
abbrev Draft := Invocation × List Argument

def change (given : Given) : Draft → Except Refusal Draft
  | (asked, left) =>
      let common := asked.common
      match given.key with
      | .config => do
          let path ← given.path mainGrammar given.argument
          return ({ asked with common := { common with config := some path } }, left)
      | .verbose => .ok ({ asked with common := { common with verbose := true } }, left)
      | .logLevel => do
          let level ← given.choice mainGrammar levelChoices given.argument
          return ({ asked with common := { common with logLevel := some level } }, left)
      | .json => .ok ({ asked with common := { common with json := true } }, left)
      | .command => do
          let (command, left) ← Command.ofArguments given.title given.arguments
          return ({ asked with command := some command }, left)
      | _ => .ok (asked, left)

/-- Reads the arguments of the program. Every argument has to be taken by somebody. -/
def ofArguments (arguments : List Argument) : Except Refusal Invocation := do
  let ((asked, inner), outer) ← mainGrammar.interpret ({}, []) change arguments
  match outer ++ inner with
  | [] => .ok asked
  | left =>
      match left.mapM id with
      | some texts => .error (.complaint mainGrammar (.unclaimed texts))
      | none => .error .unlistable

end Invocation

end ServiceDiscovery.CommandLine
