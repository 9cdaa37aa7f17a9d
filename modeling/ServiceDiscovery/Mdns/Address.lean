import ServiceDiscovery.Service.Basic
import ServiceDiscovery.Text.Split

/-!
Addresses of hosts. Four decimal bytes with dots make an address of the older kind, and eight groups
of hexadecimal digits with colons one of the newer, where two colons stand for groups of zeros and
the last two groups may be written like an older address. A newer address is printed in its shortest
form: without zeros in front, and with its longest run of zero groups left out.
-/

namespace ServiceDiscovery.Mdns

inductive Address where
  | four (bytes : List Nat)
  | six (groups : List Nat)
  deriving DecidableEq, Repr

namespace Address

/-- A byte in decimal, without zeros in front. -/
def byte? (cs : List Char) : Option Nat :=
  let value := cs.foldl (fun n c => 10 * n + (c.toNat - 48)) 0
  if cs.isEmpty || 3 < cs.length || !cs.all (fun c => '0' ≤ c && c ≤ '9') then none
  else if 255 < value || (1 < cs.length && cs.head? = some '0') then none
  else some value

/-- Four bytes with dots between them. -/
def fourBytes? (cs : List Char) : Option (List Nat) := do
  let bytes ← (Text.split '.' cs).mapM byte?
  if bytes.length = 4 then some bytes else none

def hexValue? (c : Char) : Option Nat :=
  if '0' ≤ c && c ≤ '9' then some (c.toNat - 48)
  else if 'a' ≤ c && c ≤ 'f' then some (c.toNat - 87)
  else if 'A' ≤ c && c ≤ 'F' then some (c.toNat - 55)
  else none

/-- One to four hexadecimal digits. -/
def group? (cs : List Char) : Option Nat := do
  let digits ← cs.mapM hexValue?
  if cs.isEmpty || 4 < cs.length then none else some (digits.foldl (fun n d => 16 * n + d) 0)

/-- Groups with colons between them. The last may be an older address, which makes two groups. -/
def groups? : List (List Char) → Option (List Nat)
  | [] => some []
  | [last] =>
      if last.contains '.' then do
        let bytes ← fourBytes? last
        some [bytes.getD 0 0 * 256 + bytes.getD 1 0, bytes.getD 2 0 * 256 + bytes.getD 3 0]
      else (group? last).map ([·])
  | first :: rest => do
      let value ← group? first
      some (value :: (← groups? rest))

/-- The groups in a part of an address. An empty part has none. -/
def part? (cs : List Char) : Option (List Nat) :=
  if cs.isEmpty then some [] else groups? (Text.split ':' cs)

/-- Cuts a text at its first pair of colons. -/
def cutAtPair : List Char → Option (List Char × List Char)
  | ':' :: ':' :: rest => some ([], rest)
  | c :: rest => (cutAtPair rest).map fun cut => (c :: cut.1, cut.2)
  | [] => none

/-- Eight groups, some of which may be left out at a pair of colons. -/
def eightGroups? (cs : List Char) : Option (List Nat) := do
  match cutAtPair cs with
  | some (front, back) =>
      if front.contains '.' then none
      let before ← part? front
      let after ← part? back
      if before.length + after.length < 8 then
        some (before ++ List.replicate (8 - before.length - after.length) 0 ++ after)
      else none
  | none =>
      let groups ← groups? (Text.split ':' cs)
      if groups.length = 8 then some groups else none

/-- Reads an address. A colon tells that it is one of the newer kind. -/
def ofText? (text : String) : Option Address :=
  let cs := text.toList
  if cs.contains ':' then (eightGroups? cs).map .six else (fourBytes? cs).map .four

/-- The length of the run of zeros at the front. -/
def zerosInFront (groups : List Nat) : Nat :=
  (groups.takeWhile (· = 0)).length

/-- Start and length of the first longest run of zeros, given the place of the first group. -/
def longestZeros (start : Nat) : List Nat → Nat × Nat
  | [] => (start, 0)
  | group :: rest =>
      let here := zerosInFront (group :: rest)
      let later := longestZeros (start + 1) rest
      if here < later.2 then later else (start, here)

def hexGroups (groups : List Nat) : List Char :=
  [':'].intercalate (groups.map (Nat.toDigits 16))

/-- The text of an address in its shortest form. -/
def text : Address → String
  | four bytes => String.ofList (['.'].intercalate (bytes.map (Nat.toDigits 10)))
  | six groups =>
      let (start, length) := longestZeros 0 groups
      if length < 2 then String.ofList (hexGroups groups)
      else String.ofList
        (hexGroups (groups.take start) ++ ':' :: ':' :: hexGroups (groups.drop (start + length)))

def isFour : Address → Bool
  | four _ => true
  | six _ => false

/-- Older addresses before newer ones, each kind in the order given. -/
def fourFirst (addresses : List Address) : List Address :=
  addresses.filter isFour ++ addresses.filter fun address => !address.isFour

end Address

end ServiceDiscovery.Mdns
