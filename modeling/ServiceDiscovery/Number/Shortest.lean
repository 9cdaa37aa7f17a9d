import ServiceDiscovery.Number.Double
import ServiceDiscovery.Text.Decimal

/-!
The shortest decimal text of a floating point number. Of all decimals that round to the number, it
takes one with the fewest digits, and of those the nearest to the number. Candidates come from the
grids of one to seventeen digits: if a grid has a point that rounds to the number, one of the two
grid points beside the number does.
-/

namespace ServiceDiscovery.Double

/-- Positive reals `num / den`, kept as whole numbers. -/
structure Quotient where
  num : Nat
  den : Nat

def Quotient.lt (a b : Quotient) : Bool :=
  a.num * b.den < b.num * a.den

def Quotient.le (a b : Quotient) : Bool :=
  a.num * b.den ≤ b.num * a.den

/-- `n * 2 ^ exponent`. -/
def binary (n : Nat) (exponent : Int) : Quotient :=
  if 0 ≤ exponent then ⟨n * Nat.pow 2 exponent.toNat, 1⟩ else ⟨n, Nat.pow 2 (-exponent).toNat⟩

/-- `n * 10 ^ exponent`. -/
def decimal (n : Nat) (exponent : Int) : Quotient :=
  if 0 ≤ exponent then ⟨n * Nat.pow 10 exponent.toNat, 1⟩ else ⟨n, Nat.pow 10 (-exponent).toNat⟩

/-- Does a real round to `significand * 2 ^ exponent`? Those up to half way to either neighbour do,
the ends included for an even significand. Below a power of two the neighbour is nearer. -/
def roundsTo (significand : Nat) (exponent : Int) (x : Quotient) : Bool :=
  let low :=
    if significand = Nat.pow 2 52 && exponent ≠ -1074 then
      binary (4 * significand - 1) (exponent - 2)
    else binary (2 * significand - 1) (exponent - 1)
  let high := binary (2 * significand + 1) (exponent - 1)
  if significand % 2 = 0 then low.le x && x.le high else low.lt x && x.lt high

/-- The count of digits before the point of a positive quotient, zero or less for small ones. -/
def pointOf (x : Quotient) : Int :=
  let guess := ((Text.natDigits x.num).length : Int) - (Text.natDigits x.den).length
  if x.lt (decimal 1 guess) then guess else guess + 1

/-- The multiple of `10 ^ unit` nearest to the number, of those beside it that round to it. -/
def gridPoint? (significand : Nat) (exponent unit : Int) : Option Nat :=
  let x := binary significand exponent
  let grid := decimal 1 unit
  let num := x.num * grid.den
  let den := x.den * grid.num
  let below := num / den
  let nearest := roundedQuotient num den
  let other := if nearest = below then below + 1 else below
  let fits (n : Nat) : Bool := n ≠ 0 && roundsTo significand exponent (decimal n unit)
  if fits nearest then some nearest else if fits other then some other else none

/-- The first grid that has a point, where grids are given by their count of digits. -/
def firstGrid (significand : Nat) (exponent point : Int) : List Nat → Nat × Int
  | [] => (significand, exponent)
  | count :: more =>
      match gridPoint? significand exponent (point - count) with
      | some n => (n, point - count)
      | none => firstGrid significand exponent point more

/-- The shortest decimal `n * 10 ^ unit` of a positive finite number. Seventeen digits always
suffice, so the list of grids never runs out. -/
def shortest (significand : Nat) (exponent : Int) : Nat × Int :=
  firstGrid significand exponent (pointOf (binary significand exponent))
    ((List.range 17).map (· + 1))

/-- Digits with the point after `point` of them, counted from the first. Whole numbers keep one
zero behind the point. -/
def positional (digits : List Char) (point : Int) : List Char :=
  if point ≤ 0 then '0' :: '.' :: List.replicate (-point).toNat '0' ++ digits
  else
    let whole := point.toNat
    if digits.length ≤ whole then
      digits ++ List.replicate (whole - digits.length) '0' ++ ['.', '0']
    else digits.take whole ++ '.' :: digits.drop whole

/-- One digit, the others behind a point, and the power of ten with its sign and at least two
digits. -/
def scientific (digits : List Char) (point : Int) : List Char :=
  let power := point - 1
  let fraction := if digits.length ≤ 1 then [] else '.' :: digits.drop 1
  let sign := if power < 0 then '-' else '+'
  digits.take 1 ++ fraction ++ 'e' :: sign :: Text.padded 2 power.natAbs

/-- Numbers are written out from one ten-thousandth up to sixteen digits, and with a power of ten
beyond. -/
def chars (x : Double) : List Char :=
  match x.meaning with
  | .notANumber => "nan".toList
  | .infinite negative => if negative then "-inf".toList else "inf".toList
  | .finite negative significand exponent =>
      let sign := if negative then ['-'] else []
      if significand = 0 then sign ++ "0.0".toList
      else
        let (n, unit) := shortest significand exponent
        let all := Text.natDigits n
        let digits := Text.dropZeros all
        let point := (all.length : Int) + unit
        sign ++
          if -4 < point && point ≤ 16 then positional digits point else scientific digits point

def text (x : Double) : String :=
  String.ofList x.chars

end ServiceDiscovery.Double
