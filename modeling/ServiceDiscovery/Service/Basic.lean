import ServiceDiscovery.Fault
import ServiceDiscovery.Service.Type
import ServiceDiscovery.Text.Utf8
import ServiceDiscovery.Value

/-!
Services at each stage of their discovery. A reference names a service that was found; the answer of
a platform tells where it is and brings attributes of any kind; a resolved service keeps the
attributes as TXT records, which are bytes under keys of bytes.
-/

namespace ServiceDiscovery

abbrev Bytes := List UInt8

/-- A service that was found and not resolved yet. -/
structure ServiceRef where
  name : Text.Points
  type : Text.Points
  deriving DecidableEq, Repr

/-- Name and type, joined by a dot. -/
def ServiceRef.text (ref : ServiceRef) : Text.Points :=
  ref.name ++ "." ++ ref.type

/-- For each reference the place of the first one that equals it. -/
def ServiceRef.firstPlaces (refs : List ServiceRef) : List Nat :=
  refs.map refs.idxOf

def ServiceRef.countDistinct (refs : List ServiceRef) : Nat :=
  refs.eraseDups.length

/-- What a platform answers when it resolved a service. Attributes may be missing altogether. -/
structure ResolveAnswer where
  name : Text.Points
  type : Text.Points
  hostname : Text.Points
  address : Text.Points
  port : Int
  attributes : Option (List (Value × Value))
  deriving Repr

/-- TXT records in the order of their keys. No key stands twice. -/
abbrev Records := List (Bytes × Bytes)

namespace Records

/-- Sets a record. A key that is there keeps its place. -/
def insert (key value : Bytes) : Records → Records
  | [] => [(key, value)]
  | (k, v) :: rest => if k = key then (k, value) :: rest else (k, v) :: insert key value rest

def ofList (entries : List (Bytes × Bytes)) : Records :=
  entries.foldl (fun made entry => insert entry.1 entry.2 made) []

def get? (key : Bytes) (records : Records) : Option Bytes :=
  (records.find? fun record => record.1 = key).map (·.2)

/-- Do two sets of records say the same, whatever their order? -/
def sameAs (a b : Records) : Bool :=
  a.length = b.length && a.all fun record => get? record.1 b = some record.2

end Records

structure ResolvedService where
  name : Text.Points
  type : Text.Points
  hostname : Text.Points
  address : Text.Points
  port : Int
  txt : Records
  deriving DecidableEq, Repr

namespace ResolvedService

/-- The bytes of an attribute key or value. No value is no bytes, bytes are themselves, and
everything else is its text in UTF-8, if it has one. -/
def attributeBytes : Value → Except Fault Bytes
  | .null => .ok []
  | .bytes bs => .ok bs
  | value =>
      if value.isOverlong then .error .unwritable
      else value.shownPoints.encode.mapError .unencodable

/-- The TXT record of an attribute. -/
def recordOf (entry : Value × Value) : Except Fault (Bytes × Bytes) := do
  let key ← attributeBytes entry.1
  let value ← attributeBytes entry.2
  return (key, value)

/-- The TXT records of attributes, if each of them has one. Of keys with the same bytes the last one
decides. -/
def recordsOf (attributes : List (Value × Value)) : Except Fault Records :=
  (attributes.mapM recordOf).map Records.ofList

/-- The service that a platform's answer describes, unless its attributes are missing or one of them
makes no record. -/
def ofAnswer (answer : ResolveAnswer) : Except Fault ResolvedService :=
  match answer.attributes with
  | none => .error .attributesMissing
  | some attributes => (recordsOf attributes).map fun txt => {
      name := answer.name
      type := ServiceType.normalize answer.type
      hostname := answer.hostname
      address := answer.address
      port := answer.port
      txt }

/-- The value of a TXT record as text, if there is a record with that key. Bytes that are no text
show as replacement characters. -/
def txtText? (service : ResolvedService) (key : String) : Option String :=
  (service.txt.get? (Text.Utf8.encode key)).map Text.Utf8.decodeLenient

/-- Do two services agree in everything but the order of their TXT records? -/
def sameAs (a b : ResolvedService) : Bool :=
  a.name = b.name && a.type = b.type && a.hostname = b.hostname && a.address = b.address &&
    a.port = b.port && a.txt.sameAs b.txt

/-- Name, host, address and port. -/
def text (service : ResolvedService) : Text.Points :=
  service.name ++ " @ " ++ service.hostname ++ " (" ++ service.address ++ ":" ++
    Text.ofInt service.port ++ ")"

/-- All fields by name, the texts among them quoted. -/
def quoted (service : ResolvedService) : String :=
  "ResolvedService(name=" ++ Text.Quoted.points service.name ++
    ", service_type=" ++ Text.Quoted.points service.type ++
    ", hostname=" ++ Text.Quoted.points service.hostname ++
    ", address=" ++ Text.Quoted.points service.address ++
    ", port=" ++ Text.ofInt service.port ++
    ", txt=" ++ (Value.map (service.txt.map fun r => (.bytes r.1, .bytes r.2))).quoted ++ ")"

end ResolvedService

end ServiceDiscovery
