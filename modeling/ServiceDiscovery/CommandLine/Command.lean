import ServiceDiscovery.CommandLine.Invocation
import ServiceDiscovery.CommandLine.TxtArguments
import ServiceDiscovery.Settings.Basic
import ServiceDiscovery.Fault

/-!
What a command makes of the settings. Browsing sets publishing aside, publishing browses only if
that is asked for, and running takes everything as it was configured.
-/

namespace ServiceDiscovery.CommandLine.Command

def valueOf : Argument → Value
  | some text => .text text
  | none => .null

/-- A type that was given and is not empty comes before the configured one. -/
def chosenType (given : Argument) (configured : Value) : Value :=
  if (valueOf given).isTruthy then valueOf given else configured

/-- The seconds after which the command ends. -/
def timeout : Command → Option Double
  | .browse _ timeout | .publish _ _ _ _ _ timeout | .run timeout => timeout

/-- The settings under which the command works. TXT records have to be given as texts. -/
def settings (configured : Settings) : Command → Except Fault Settings
  | .browse type _ => .ok { configured with
      browse := {
        serviceType := chosenType type configured.browse.serviceType
        browse := .bool true }
      publish := { configured.publish with enabled := .bool false } }
  | .publish name port type txt alsoBrowse _ =>
      match txt.mapM id with
      | none => .error .noSuchField
      | some texts =>
          let publish := { configured.publish with
            enabled := .bool true
            name := valueOf name
            port
            serviceType := chosenType type configured.publish.serviceType
            txt := addTxtArguments texts configured.publish.txt }
          let browse := {
            browse := .bool alsoBrowse
            serviceType :=
              if alsoBrowse then publish.serviceType else configured.browse.serviceType }
          .ok { configured with browse, publish }
  | .run _ => .ok configured

/-- Is there anything to do? Only running can come to nothing. -/
def hasWork (settings : Settings) : Bool :=
  settings.browse.browse.isTruthy || settings.publish.enabled.isTruthy

end ServiceDiscovery.CommandLine.Command
