/-!
Texts as their code points, well formed or not. Escapes can name halves of surrogate pairs, which
are no characters. A text with such a half in it is a list of points but no string, and a string is
a list of points without any.
-/

namespace ServiceDiscovery.Text

/-- Half of a surrogate pair, by its code. -/
structure Half where
  code : Nat
  least : 0xD800 ≤ code
  most : code ≤ 0xDFFF
  deriving DecidableEq, Repr

inductive Point where
  | char (c : Char)
  | half (h : Half)
  deriving DecidableEq, Repr

namespace Point

/-- The point with a code. -/
def ofCode (code : Nat) : Point :=
  if h : 0xD800 ≤ code ∧ code ≤ 0xDFFF then .half ⟨code, h.1, h.2⟩ else .char (Char.ofNat code)

def code : Point → Nat
  | .char c => c.toNat
  | .half h => h.code

def char? : Point → Option Char
  | .char c => some c
  | .half _ => none

/-- Is a point a character with a property? -/
def any (p : Char → Bool) : Point → Bool
  | .char c => p c
  | .half _ => false

/-- The character that a point is, or the one that stands in where only characters can be. -/
def shown : Point → Char
  | .char c => c
  | .half _ => '\uFFFD'

end Point

abbrev Points := List Point

namespace Points

def ofChars (cs : List Char) : Points :=
  cs.map .char

def ofString (s : String) : Points :=
  ofChars s.toList

instance : Coe String Points :=
  ⟨ofString⟩

/-- The characters of a text in which every point is one. -/
def chars? (points : Points) : Option (List Char) :=
  points.mapM Point.char?

/-- The string that a text is, if it is well formed. -/
def string? (points : Points) : Option String :=
  points.chars?.map String.ofList

/-- The characters of a text, where halves have one that stands in for them. -/
def shownChars (points : Points) : List Char :=
  points.map Point.shown

/-- A text with stand-ins for its halves. -/
def shown (points : Points) : String :=
  String.ofList points.shownChars

end Points

end ServiceDiscovery.Text
