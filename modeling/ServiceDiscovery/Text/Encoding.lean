import ServiceDiscovery.Text.Decimal
import ServiceDiscovery.Text.Quoted
import ServiceDiscovery.Text.Utf8

/-!
Bytes of texts that need not be well formed. Characters have bytes, halves of surrogate pairs have
none, and the first run of halves is what a text is refused for.
-/

namespace ServiceDiscovery.Text

/-- A run of halves in a text: where it begins, how long it is, and its first half. -/
structure Unencodable where
  position : Nat
  length : Nat
  code : Nat
  deriving DecidableEq, Repr

def Unencodable.message (run : Unencodable) : String :=
  let position := toString run.position
  let which :=
    if run.length = 1 then
      let escape := String.ofList (Quoted.escapeByNumber run.code)
      "character '" ++ escape ++ "' in position " ++ position
    else "characters in position " ++ position ++ "-" ++
      toString (run.position + run.length - 1)
  "'utf-8' codec can't encode " ++ which ++ ": surrogates not allowed"

namespace Points

/-- The first run of halves in a text, if there is one. -/
def unencodable? (points : Points) : Option Unencodable :=
  let isChar (point : Point) : Bool := point.char?.isSome
  match points.dropWhile isChar with
  | .half h :: rest => some {
      position := (points.takeWhile isChar).length
      length := (rest.takeWhile fun point => !isChar point).length + 1
      code := h.code }
  | _ => none

/-- The bytes of a text without halves. -/
def encode (points : Points) : Except Unencodable (List UInt8) :=
  match points.unencodable? with
  | some run => .error run
  | none => .ok (Utf8.encodeChars points.shownChars)

end Points

end ServiceDiscovery.Text
