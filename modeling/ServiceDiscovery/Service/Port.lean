import ServiceDiscovery.Value

/-!
Ports as they are given, which may be values of any kind. Only numbers can be told to be a port or
not. Fractions and truth values count as the numbers they are, so true is the first port.
-/

namespace ServiceDiscovery.Port

/-- All ports lie strictly between zero and this number. -/
def bound : Int := 65536

/-- Does a number lie strictly between the bounds? -/
def isInside (x : Double) : Bool :=
  x.isPositive && x.truncate?.any (· < bound)

/-- Does a value lie strictly between the bounds? There is no answer if it is no number. -/
def isValid? : Value → Option Bool
  | .bool b => some b
  | .int n => some (0 < n && n < bound)
  | .float x => some (isInside x)
  | _ => none

theorem isValid?_int (n : Int) : isValid? (.int n) = some (0 < n && n < bound) := rfl

end ServiceDiscovery.Port
