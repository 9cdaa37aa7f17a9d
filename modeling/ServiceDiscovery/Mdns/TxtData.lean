import ServiceDiscovery.Service.Basic

/-!
TXT data on the wire. Each record is a key, or a key and a value with an equals sign between them,
behind one byte that gives its length. Reading splits each record at its first equals sign, keeps
the first of equal keys, and takes a record that is cut off as far as it goes.
-/

namespace ServiceDiscovery.Mdns.TxtData

/-- One record without its length. -/
def record (key : Bytes) (value : Option Bytes) : Bytes :=
  match value with
  | none => key
  | some value => key ++ 0x3D :: value

/-- One record behind its length, if it is at most 255 bytes long. -/
def framed? (record : Bytes) : Option Bytes :=
  if record.length < 256 then some (UInt8.ofNat record.length :: record) else none

/-- The data of records, if none of them is too long. -/
def encode? (records : List (Bytes × Option Bytes)) : Option Bytes :=
  (records.mapM fun r => framed? (record r.1 r.2)).map List.flatten

def keyAndValue (record : Bytes) : Bytes × Option Bytes :=
  match record.dropWhile (· ≠ 0x3D) with
  | [] => (record, none)
  | _ :: value => (record.takeWhile (· ≠ 0x3D), some value)

/-- The records behind their lengths. -/
def records : Bytes → List Bytes
  | [] => []
  | length :: rest => rest.take length.toNat :: records (rest.drop length.toNat)
termination_by data => data.length
decreasing_by simp only [List.length_cons, List.length_drop]; omega

/-- Adds a key that is not there yet. -/
def addFirst (made : List (Bytes × Option Bytes)) (entry : Bytes × Option Bytes) :
    List (Bytes × Option Bytes) :=
  if made.any (·.1 = entry.1) then made else made ++ [entry]

def decode (data : Bytes) : List (Bytes × Option Bytes) :=
  ((records data).map keyAndValue).foldl addFirst []

end ServiceDiscovery.Mdns.TxtData
