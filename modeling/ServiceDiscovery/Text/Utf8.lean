/-!
UTF-8 in both directions. Every text has one encoding. Reading comes in two strengths: the lenient
reader puts a replacement character in the place of each longest piece that begins a character but
does not finish one, and the strict reader refuses any such piece.
-/

namespace ServiceDiscovery.Text.Utf8

/-- The low six bits of a number, as a continuation byte. -/
def continuation (n : Nat) : UInt8 :=
  UInt8.ofNat (0x80 + n % 64)

/-- The one to four bytes of a character. -/
def encodeChar (c : Char) : List UInt8 :=
  let n := c.toNat
  if n < 0x80 then [UInt8.ofNat n]
  else if n < 0x800 then [UInt8.ofNat (0xC0 + n / 64), continuation n]
  else if n < 0x10000 then
    [UInt8.ofNat (0xE0 + n / 4096), continuation (n / 64), continuation n]
  else
    [UInt8.ofNat (0xF0 + n / 262144), continuation (n / 4096), continuation (n / 64),
      continuation n]

def encodeChars (cs : List Char) : List UInt8 :=
  cs.flatMap encodeChar

def encode (s : String) : List UInt8 :=
  encodeChars s.toList

/-- What the first byte of a character says: how many bytes follow, the bits it carries itself, and
the bounds of the byte after it. The bounds rule out overlong forms, surrogates and numbers past
the last code point. -/
structure Lead where
  following : Nat
  bits : Nat
  low : UInt8
  high : UInt8
  deriving DecidableEq, Repr

/-- Reads a first byte; continuation bytes and bytes that begin no character are none. -/
def lead? (b : UInt8) : Option Lead :=
  if b < 0x80 then some ⟨0, b.toNat, 0x80, 0xBF⟩
  else if b < 0xC2 then none
  else if b < 0xE0 then some ⟨1, b.toNat - 0xC0, 0x80, 0xBF⟩
  else if b = 0xE0 then some ⟨2, 0, 0xA0, 0xBF⟩
  else if b = 0xED then some ⟨2, 13, 0x80, 0x9F⟩
  else if b < 0xF0 then some ⟨2, b.toNat - 0xE0, 0x80, 0xBF⟩
  else if b = 0xF0 then some ⟨3, 0, 0x90, 0xBF⟩
  else if b < 0xF4 then some ⟨3, b.toNat - 0xF0, 0x80, 0xBF⟩
  else if b = 0xF4 then some ⟨3, 4, 0x80, 0x8F⟩
  else none

/-- Reads the bytes that follow a first byte. The first of them has bounds of its own. When one is
missing the number is none, and what was read up to there is gone. -/
def follow (value : Nat) (low high : UInt8) : Nat → List UInt8 → Option Nat × List UInt8
  | 0, rest => (some value, rest)
  | _ + 1, [] => (none, [])
  | n + 1, b :: rest =>
      if low ≤ b && b ≤ high then follow (value * 64 + b.toNat % 64) 0x80 0xBF n rest
      else (none, b :: rest)

theorem follow_length_le (value : Nat) (low high : UInt8) (n : Nat) (bs : List UInt8) :
    (follow value low high n bs).2.length ≤ bs.length := by
  induction n generalizing value low high bs with
  | zero => simp [follow]
  | succ n ih =>
      cases bs with
      | nil => simp [follow]
      | cons b rest =>
          unfold follow
          split
          · exact Nat.le_succ_of_le (ih _ _ _ _)
          · exact Nat.le_refl _

/-- Reads bytes as characters, with none for each longest piece that is no character. -/
def decodePieces : List UInt8 → List (Option Char)
  | [] => []
  | b :: rest =>
      match lead? b with
      | none => none :: decodePieces rest
      | some lead =>
          let read := follow lead.bits lead.low lead.high lead.following rest
          read.1.map Char.ofNat :: decodePieces read.2
termination_by bs => bs.length
decreasing_by
  all_goals simp only [List.length_cons]
  · omega
  · exact Nat.lt_succ_of_le (follow_length_le _ _ _ _ _)

def replacement : Char := '\uFFFD'

/-- Reads bytes as text, with a replacement character for each piece that is no character. -/
def decodeLenient (bs : List UInt8) : String :=
  String.ofList ((decodePieces bs).map fun piece => piece.getD replacement)

/-- Reads bytes as text if every piece is a character. -/
def decode? (bs : List UInt8) : Option String :=
  ((decodePieces bs).mapM id).map String.ofList

end ServiceDiscovery.Text.Utf8
