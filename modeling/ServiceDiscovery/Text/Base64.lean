/-!
Bytes written with 64 characters, four for every three bytes. Characters that do not belong are
passed over, and padding ends the text once it fills up a group.
-/

namespace ServiceDiscovery.Text.Base64

def sextet? (c : Char) : Option Nat :=
  if 'A' ≤ c && c ≤ 'Z' then some (c.toNat - 'A'.toNat)
  else if 'a' ≤ c && c ≤ 'z' then some (c.toNat - 'a'.toNat + 26)
  else if '0' ≤ c && c ≤ '9' then some (c.toNat - '0'.toNat + 52)
  else if c = '+' then some 62
  else if c = '/' then some 63
  else none

/-- How far a group has come: its place, the bits that are left over, and the padding seen in it. -/
structure Group where
  place : Nat := 0
  carried : Nat := 0
  padding : Nat := 0

/-- The byte that a further character completes, if it does, and the group behind it. -/
def Group.add (value : Nat) (group : Group) : Option UInt8 × Group :=
  match group.place with
  | 0 => (none, { place := 1, carried := value })
  | 1 =>
      (some (UInt8.ofNat (group.carried * 4 + value / 16)), { place := 2, carried := value % 16 })
  | 2 => (some (UInt8.ofNat (group.carried * 16 + value / 4)), { place := 3, carried := value % 4 })
  | _ => (some (UInt8.ofNat (group.carried * 64 + value)), {})

/-- Reads on within a group. A text must not end in the middle of one. -/
def decodeFrom (group : Group) : List Char → Option (List UInt8)
  | [] => if group.place = 0 then some [] else none
  | c :: rest =>
      if c = '=' then
        if 2 ≤ group.place then
          if 4 ≤ group.place + (group.padding + 1) then some []
          else decodeFrom { group with padding := group.padding + 1 } rest
        else decodeFrom group rest
      else
        match sextet? c with
        | none => decodeFrom group rest
        | some value =>
            let (byte, group) := group.add value
            (decodeFrom group rest).map (byte.toList ++ ·)

def decode? (cs : List Char) : Option (List UInt8) :=
  decodeFrom {} cs

end ServiceDiscovery.Text.Base64
