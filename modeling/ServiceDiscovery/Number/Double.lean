/-!
Binary floating point numbers of 64 bits, as data. A number is its bits; its meaning is read off
them as a whole number times a power of two. Rounding an exact quotient to the nearest number, ties
to the even one, is done in whole numbers, so nothing here rests on machine arithmetic.
-/

namespace ServiceDiscovery

/-- A 64 bit floating point number, by its bits. -/
structure Double where
  bits : UInt64
  deriving DecidableEq, Repr, Inhabited

/-- What the bits say. A finite number is `significand * 2 ^ exponent` with a sign. -/
inductive Double.Meaning where
  | finite (negative : Bool) (significand : Nat) (exponent : Int)
  | infinite (negative : Bool)
  | notANumber
  deriving DecidableEq, Repr

namespace Double

def meaning (x : Double) : Meaning :=
  let b : Nat := x.bits.toNat
  let negative := b / Nat.pow 2 63 == 1
  let exponent : Nat := b / Nat.pow 2 52 % 2048
  let fraction : Nat := b % Nat.pow 2 52
  if exponent = 2047 then
    if fraction = 0 then .infinite negative else .notANumber
  else if exponent = 0 then .finite negative fraction (-1074)
  else .finite negative (fraction + Nat.pow 2 52) ((exponent : Int) - 1075)

def positiveInfinity : Double := ⟨0x7FF0000000000000⟩

def notANumber : Double := ⟨0x7FF8000000000000⟩

def zero : Double := ⟨0⟩

def negate (x : Double) : Double :=
  ⟨x.bits ^^^ 0x8000000000000000⟩

def signed (negative : Bool) (x : Double) : Double :=
  if negative then x.negate else x

/-- A quotient rounded to the nearest whole number, a half to the even neighbour. -/
def roundedQuotient (num den : Nat) : Nat :=
  let quotient := num / den
  let twice := 2 * (num % den)
  if twice < den then quotient
  else if den < twice then quotient + 1
  else quotient + quotient % 2

/-- `num / den * 2 ^ (-exponent)` as a quotient of whole numbers. -/
def scaled (num den : Nat) (exponent : Int) : Nat × Nat :=
  if 0 ≤ exponent then (num, den * Nat.pow 2 exponent.toNat)
  else (num * Nat.pow 2 (-exponent).toNat, den)

/-- The exponent at which a positive quotient has 53 bits, but never one below the least. -/
def exponentOf (num den : Nat) : Int :=
  let guess := (num.log2 : Int) - den.log2 - 52
  let (n, d) := scaled num den guess
  let exact := if n / d < Nat.pow 2 52 then guess - 1 else guess
  max exact (-1074)

/-- The nearest number to a quotient that is not negative. Past the largest number lies infinity. -/
def ofQuotient (num den : Nat) : Double :=
  if num = 0 then zero
  else
    let exponent := exponentOf num den
    let (n, d) := scaled num den exponent
    let significand := roundedQuotient n d
    let bits :=
      if significand < Nat.pow 2 52 then significand
      else (exponent + 1074).toNat * Nat.pow 2 52 + significand
    if bits < 0x7FF0000000000000 then ⟨UInt64.ofNat bits⟩ else positiveInfinity

/-- The nearest number to `digits * 10 ^ exponent`. Exponents far outside the range are answered
without raising ten to them. -/
def ofDecimal (digits : Nat) (exponent : Int) : Double :=
  let places := ((Nat.toDigits 10 digits).length : Int) + exponent
  if digits = 0 || places < -400 then zero
  else if 400 < places then positiveInfinity
  else if 0 ≤ exponent then ofQuotient (digits * Nat.pow 10 exponent.toNat) 1
  else ofQuotient digits (Nat.pow 10 (-exponent).toNat)

/-- The nearest number to a whole number, unless it lies past the largest. -/
def ofInt? (n : Int) : Option Double :=
  if n.natAbs.log2 > 1024 then none
  else
    let magnitude := ofQuotient n.natAbs 1
    if magnitude = positiveInfinity then none else some (signed (n < 0) magnitude)

/-- Is this a number above zero? -/
def isPositive (x : Double) : Bool :=
  match x.meaning with
  | .finite negative significand _ => !negative && significand != 0
  | .infinite negative => !negative
  | .notANumber => false

def isZero (x : Double) : Bool :=
  match x.meaning with
  | .finite _ significand _ => significand == 0
  | _ => false

/-- The whole part of a finite number, cut off toward zero. -/
def truncate? (x : Double) : Option Int :=
  match x.meaning with
  | .finite negative significand exponent =>
      let magnitude : Nat :=
        if 0 ≤ exponent then significand * Nat.pow 2 exponent.toNat
        else significand / Nat.pow 2 (-exponent).toNat
      some (if negative then -(magnitude : Int) else magnitude)
  | _ => none

/-- The whole number equal to a number, if there is one. -/
def whole? (x : Double) : Option Int :=
  match x.truncate? with
  | some n => if (ofInt? n).any (fun y => y = x || (n = 0 && x.isZero)) then some n else none
  | none => none

/-- Arithmetic on clock readings is that of the machine. -/
def toFloat (x : Double) : Float :=
  Float.ofBits x.bits

def ofFloat (x : Float) : Double :=
  ⟨x.toBits⟩

end Double

end ServiceDiscovery
