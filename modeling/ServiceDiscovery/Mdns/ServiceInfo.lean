import ServiceDiscovery.Mdns.Address
import ServiceDiscovery.Mdns.Name
import ServiceDiscovery.Mdns.TxtData
import ServiceDiscovery.Service.Port
import ServiceDiscovery.Text.Encoding

/-!
What is known of a service on the network. It is made from the arguments of a registration, each of
which is checked, or starts out empty when a service is to be resolved and is filled by the answer.
-/

namespace ServiceDiscovery.Mdns

structure ServiceInfo where
  type : Text.Points
  name : Text.Points
  /-- Published services have any port they were given, resolved ones a number. -/
  port : Option Value := none
  server : Option String := none
  addresses : List Address := []
  text : Bytes := []
  deriving Repr

/-- Where services are published: the addresses and the host name that were configured, and what the
system says about its own host. Looking up its address may fail. -/
structure Host where
  addresses : List String := []
  hostname : String := ""
  ownName : String
  ownAddress : Except Fault String

namespace ServiceInfo

/-- The texts of the addresses, older kinds first. -/
def addressTexts (info : ServiceInfo) : List String :=
  (Address.fourFirst info.addresses).map Address.text

/-- The port of a service that was resolved, or zero if no answer had one. -/
def answeredPort (info : ServiceInfo) : Int :=
  match info.port with
  | some (.int n) => n
  | _ => 0

/-- The TXT records, none of them with a value that is missing. -/
def properties (info : ServiceInfo) : List (Bytes × Option Bytes) :=
  TxtData.decode info.text

/-- The most bytes an instance name may have. -/
def nameLimit : Nat := 63

def badName (name : Text.Points) : Fault :=
  .invalidService ("Service name must be 1-" ++ toString nameLimit ++ " bytes: " ++
    Text.Quoted.points name)

/-- Refuses a name without bytes, or with too few or too many of them. -/
def checkLength (name : Text.Points) : Except Fault Unit := do
  let bytes ← name.encode.mapError .unencodable
  if bytes.isEmpty || nameLimit < bytes.length then .error (badName name) else .ok ()

def badPort (port : Value) : Fault :=
  if port.isOverlong then .unwritable
  else .invalidService ("Invalid port: " ++ port.shownPoints)

/-- Refuses a port that lies outside the bounds, or that is no number at all. -/
def checkPort (port : Value) : Except Fault Unit :=
  match Port.isValid? port with
  | some true => .ok ()
  | some false => .error (badPort port)
  | none => .error .wrongType

def longRecord : Fault :=
  .invalidService "bytes must be in range(0, 256)"

/-- Why a text is no address. One with a null character in it is not even looked at. -/
def badAddress (text : String) : Fault :=
  if text.toList.contains '\x00' then .invalidService "embedded null character"
  else .system "illegal IP address string passed to inet_pton"

/-- Sets a record under a key of text. A key that is there keeps its place. -/
def setRecord (key : Text.Points) (value : Value) :
    List (Text.Points × Value) → List (Text.Points × Value)
  | [] => [(key, value)]
  | (k, v) :: rest => if k = key then (k, value) :: rest else (k, v) :: setRecord key value rest

/-- Attributes under the texts of their keys. Of keys with the same text the last one decides. -/
def textKeys (txt : List (Value × Value)) : List (Text.Points × Value) :=
  txt.foldl (fun made entry => setRecord entry.1.shownPoints entry.2 made) []

def textBytes (text : Text.Points) : Except Fault Bytes :=
  text.encode.mapError fun run => .invalidService run.message

/-- The bytes of a value; none stands for a bare key. -/
def valueBytes : Value → Except Fault (Option Bytes)
  | .null => .ok none
  | .bytes bs => .ok (some bs)
  | value => (textBytes value.shownPoints).map some

def txtData (txt : List (Value × Value)) : Except Fault Bytes := do
  let records ← (textKeys txt).mapM fun entry => do
    return (← textBytes entry.1, ← valueBytes entry.2)
  match TxtData.encode? records with
  | some data => .ok data
  | none => .error longRecord

/-- The addresses to publish: those configured, or else the host's own. -/
def publishedAddresses (host : Host) : Except Fault (List String) :=
  if host.addresses.isEmpty then host.ownAddress.map ([·]) else .ok host.addresses

/-- The addresses that texts write. The first that is none decides. -/
def readAddresses (texts : List String) : Except Fault (List Address) :=
  texts.mapM fun text =>
    match Address.ofText? text with
    | some address => .ok address
    | none => .error (badAddress text)

/-- The service to publish under a name, type and port with TXT records. -/
def forRegistration (host : Host) (name type : Text.Points) (port : Value)
    (txt : List (Value × Value)) : Except Fault ServiceInfo := do
  checkLength name
  checkPort port
  let type := ServiceType.qualify type
  (checkType type).mapError NameFault.refusal
  let hostname := if host.hostname = "" then host.ownName else host.hostname
  let texts ← publishedAddresses host
  let fullName := name ++ "." ++ type
  (checkInstance type fullName).mapError NameFault.refusal
  let addresses ← readAddresses texts
  let data ← txtData txt
  return {
    type
    name := fullName
    port := some port
    server := some (hostname ++ ".local.")
    addresses
    text := data }

/-- The empty description of a service that is to be resolved. -/
def forResolving (ref : ServiceRef) : Except Fault ServiceInfo :=
  let type := ServiceType.qualify ref.type
  let fullName := ref.name ++ "." ++ type
  ((checkInstance type fullName).mapError NameFault.fault).map fun _ => { type, name := fullName }

end ServiceInfo

end ServiceDiscovery.Mdns
