import ServiceDiscovery.CommandLine.Command
import ServiceDiscovery.CommandLine.Serving
import ServiceDiscovery.Settings.Load

/-!
The program from its arguments to its end. Arguments come first, then the settings, then how to log,
and only then does the command begin. Whatever fails on the way ends the program.
-/

namespace ServiceDiscovery.CommandLine

/-- What the program finds when it is started. -/
structure Circumstances where
  file : String → Settings.File
  environment : Settings.Environment := []
  host : Mdns.Host
  network : Simulation.TimedNetwork := {}

inductive Ending where
  | exit (code : Nat)
  | fault (fault : Fault)
  | settings (fault : Settings.Fault)

/-- What a run of the program came to. -/
structure Report where
  ending : Ending
  output : List String := []
  errors : List String := []
  network : List Mdns.NetworkCall := []

namespace Report

def explained (code : Nat) (lines : List String) : Report where
  ending := .exit code
  output := lines

def complained (grammar : Grammar) (complaint : Complaint) : Report where
  ending := .exit 2
  errors := Screen.lines
    (Usage.lines grammar ++ [grammar.program ++ ": error: " ++ complaint.message]).toArray

def ofRefusal : Refusal → Report
  | .help grammar => explained 0 (Help.lines grammar)
  | .complaint grammar complaint => complained grammar complaint
  | .unlistable => { ending := .fault .wrongType }

def ofServing (state : Serving.State) : Report where
  ending := match state.ending with
    | some (.exit code) => .exit code
    | some (.fault fault) => .fault fault
    | none => .exit 0
  output := Screen.lines state.screen.output
  errors := Screen.lines state.screen.errors
  network := state.calls.toList

end Report

/-- The file that the arguments name for the configuration. -/
def Common.file (common : Common) (circumstances : Circumstances) : Settings.File :=
  match common.config with
  | some path => circumstances.file path
  | none => .missing

def Common.wishes (common : Common) (settings : LogSettings) : Log.Wishes where
  configured := settings.level
  configuredJson := settings.json.isTruthy
  verbose := common.verbose
  explicit := common.logLevel
  json := common.json

/-- Carries out a command under the settings that were loaded. -/
def Command.carryOut (circumstances : Circumstances) (configured : Settings) (log : Log.Setup)
    (command : Command) : Report :=
  match command.settings configured with
  | .error fault => { ending := .fault fault }
  | .ok settings =>
      if Command.hasWork settings then
        Report.ofServing (Serving.run circumstances.host circumstances.network
          { settings, timeout := command.timeout, log })
      else {
        ending := .exit 1
        errors := ["Nothing to do: enable discovery.browse or publish.enabled"] }

def runProgram (circumstances : Circumstances) (arguments : List Argument) : Report :=
  match Invocation.ofArguments arguments with
  | .error refusal => .ofRefusal refusal
  | .ok { common, command } =>
      match command with
      | none => .explained 1 (Help.lines mainGrammar)
      | some command =>
          match Settings.load (common.file circumstances) circumstances.environment with
          | .error fault => { ending := .settings fault }
          | .ok settings =>
              match (common.wishes settings.log).setup with
              | .error message => .complained mainGrammar (.other message)
              | .ok log => command.carryOut circumstances settings log

end ServiceDiscovery.CommandLine
