import ServiceDiscovery.CommandLine.Program

/-!
The program as it is started from a shell. It reads its configuration file and its variables, works
on a network on which nobody else is, and then shows all that it had to say.
-/

namespace ServiceDiscovery

/-- What is found at a path. What is there and cannot be read counts as a directory. -/
def fileAt (path : String) : IO Settings.File := do
  match ← (IO.FS.readBinFile path).toBaseIO with
  | .ok bytes => return .content bytes.toList
  | .error (.noFileOrDirectory ..) => return .missing
  | .error _ => return .directory

def configuredFile (arguments : List CommandLine.Argument) : IO Settings.File := do
  match CommandLine.Invocation.ofArguments arguments with
  | .ok { common := { config := some path, .. }, .. } => fileAt path
  | _ => return .missing

/-- What comes before the names of the variables. -/
def variableMark : String := "NSDKIT_"

def readEnvironment : IO Settings.Environment :=
  Settings.variableNames.filterMapM fun name => do
    return (← IO.getEnv (variableMark ++ name)).map fun value => (name, value)

def localHost : Mdns.Host where
  ownName := "localhost"
  ownAddress := .ok "127.0.0.1"

/-- Ends the program and says why, unless it came to its own end. -/
def finish : CommandLine.Ending → IO UInt32
  | .exit code => return UInt32.ofNat code
  | .fault fault => do
      IO.eprintln (Text.Quoted.halves fault.text)
      return 1
  | .settings fault => do
      IO.eprintln fault.message
      return 1

end ServiceDiscovery

open ServiceDiscovery in
def main (texts : List String) : IO UInt32 := do
  let arguments := texts.map some
  let file ← configuredFile arguments
  let report := CommandLine.runProgram {
    file := fun _ => file
    environment := ← readEnvironment
    host := localHost } arguments
  report.output.forM fun line => IO.println line
  report.errors.forM fun line => IO.eprintln line
  finish report.ending
