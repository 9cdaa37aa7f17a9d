import ServiceDiscovery.Settings.Document
import ServiceDiscovery.Settings.Environment
import ServiceDiscovery.Text.Newline
import ServiceDiscovery.Text.Utf8
import ServiceDiscovery.Yaml.Document

/-!
Loading settings: first the file, if there is one, and then the environment on top of it.
-/

namespace ServiceDiscovery.Settings

/-- What is found where settings are looked for. -/
inductive File where
  /-- Nothing is there, or no place was named. -/
  | missing
  | directory
  | content (bytes : List UInt8)
  deriving Repr

def document (bytes : List UInt8) : Except Fault Yaml.Document :=
  match Text.Utf8.decode? bytes with
  | none => .error .notText
  | some text =>
      (Yaml.read (String.ofList (Text.unifyNewlines text.toList))).mapError .document

def ofFile : File → Except Fault Settings
  | .missing => .ok {}
  | .directory => .error .notReadable
  | .content bytes => do ofDocument (← document bytes)

/-- The settings that file and environment make together. -/
def load (file : File) (environment : Environment) : Except Fault Settings := do
  override environment (← ofFile file)

end ServiceDiscovery.Settings
