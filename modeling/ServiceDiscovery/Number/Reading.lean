import ServiceDiscovery.Number.Double
import ServiceDiscovery.Text.Blank
import ServiceDiscovery.Text.Decimal
import ServiceDiscovery.Text.Quoted

/-!
Numbers read from text. Digits of any script count, a single underscore may stand between two
digits, and blanks around the number are passed over. A whole number has a sign and digits, in base
ten if nothing else is said; a floating point number may have a point, a power of ten, or be one of
the named values.
-/

namespace ServiceDiscovery.Number

/-- Blanks around a number. The ASCII separators of information units are not among them. -/
def isBlank (c : Char) : Bool :=
  Text.isBlank c && !(0x1C ≤ c.toNat && c.toNat ≤ 0x1F)

/-- Writes digits of every script as ASCII digits. -/
def asciiDigit (c : Char) : Char :=
  match Text.decimalValue? c with
  | some value => Text.decimalDigit value
  | none => c

/-- A text as the readers of numbers see it. -/
def plain (s : List Char) : List Char :=
  (Text.trim isBlank s).map asciiDigit

def isDigit (c : Char) : Bool :=
  '0' ≤ c && c ≤ '9'

/-- Removes underscores, each of which must stand between two digits of a class. The second argument
tells whether a digit stands just before. -/
def withoutUnderscores? (isDigit : Char → Bool) (afterDigit : Bool) :
    List Char → Option (List Char)
  | [] => some []
  | '_' :: c :: rest =>
      if afterDigit && isDigit c then (withoutUnderscores? isDigit true rest).map (c :: ·) else none
  | '_' :: [] => none
  | c :: rest => (withoutUnderscores? isDigit (isDigit c) rest).map (c :: ·)

/-- What a digit is worth. Letters of either case go on after nine. -/
def digitValue (c : Char) : Nat :=
  if isDigit c then c.toNat - '0'.toNat
  else if 'a' ≤ c && c ≤ 'z' then c.toNat - 'a'.toNat + 10
  else if 'A' ≤ c && c ≤ 'Z' then c.toNat - 'A'.toNat + 10
  else 36

def isDigitOf (base : Nat) (c : Char) : Bool :=
  digitValue c < base

def ofDigitsIn (base : Nat) (digits : List Char) : Nat :=
  digits.foldl (fun n c => base * n + digitValue c) 0

/-- The value of a run of decimal digits. -/
def ofDigits (digits : List Char) : Nat :=
  ofDigitsIn 10 digits

def sign : List Char → Bool × List Char
  | '-' :: rest => (true, rest)
  | '+' :: rest => (false, rest)
  | cs => (false, cs)

def signed (negative : Bool) (n : Nat) : Int :=
  if negative then -(n : Int) else n

/-- The most digits a whole number may be read with or written with. -/
def digitLimit : Nat := 4300

/-- Why a text is no number. -/
inductive Unreadable where
  | notWhole (base : Nat) (quoted : String)
  | notFloating (quoted : String)
  | tooManyDigits (count : Nat)
  deriving DecidableEq, Repr

/-- The most characters of a quoted text that a message about a whole number shows. -/
def quotedLimit : Nat := 200

def Unreadable.message : Unreadable → String
  | .notWhole base quoted =>
      "invalid literal for int() with base " ++ toString base ++ ": " ++
        String.ofList (quoted.toList.take quotedLimit)
  | .notFloating quoted => "could not convert string to float: " ++ quoted
  | .tooManyDigits count =>
      "Exceeds the limit (" ++ toString digitLimit ++ " digits) for integer string conversion: " ++
        "value has " ++ toString count ++
        " digits; use sys.set_int_max_str_digits() to increase the limit"

/-- The message about a whole number with too many digits to be written. -/
def unwritable : String :=
  "Exceeds the limit (" ++ toString digitLimit ++ " digits) for integer string conversion; " ++
    "use sys.set_int_max_str_digits() to increase the limit"

/-- The letter that may follow a zero in front of a number in another base. -/
def baseMark? : Nat → Option Char
  | 2 => some 'b'
  | 8 => some 'o'
  | 16 => some 'x'
  | _ => none

/-- Takes off the zero and the letter that name the base, and one underscore behind them. -/
def withoutBaseMark (base : Nat) : List Char → List Char
  | '0' :: c :: rest =>
      if baseMark? base = some c.toLower then
        match rest with
        | '_' :: rest => rest
        | _ => rest
      else '0' :: c :: rest
  | cs => cs

/-- Reads a whole number in some base. The quoted text goes into the message. Only numbers in base
ten are limited in length, and that is looked at before what stands behind the digits. -/
def readIntIn (base : Nat) (quoted : String) (cs : List Char) : Except Unreadable Int :=
  let (negative, rest) := sign (plain cs)
  let rest := withoutBaseMark base rest
  let run := rest.takeWhile fun c => isDigitOf base c || c = '_'
  match withoutUnderscores? (isDigitOf base) false run with
  | none | some [] => .error (.notWhole base quoted)
  | some digits =>
      if base = 10 && digitLimit < digits.length then .error (.tooManyDigits digits.length)
      else if run.length < rest.length then .error (.notWhole base quoted)
      else .ok (signed negative (ofDigitsIn base digits))

def readInt (quoted : String) (cs : List Char) : Except Unreadable Int :=
  readIntIn 10 quoted cs

/-- The named values of floating point numbers, in any case. -/
def namedValue? (cs : List Char) : Option Double :=
  let name := String.ofList (cs.map fun c => if 'A' ≤ c && c ≤ 'Z' then
    Char.ofNat (c.toNat + 32) else c)
  if name = "inf" || name = "infinity" then some .positiveInfinity
  else if name = "nan" then some .notANumber
  else none

/-- The power of ten that ends a floating point number; without a mark it is zero. -/
def exponent? : List Char → Option Int
  | [] => some 0
  | c :: rest =>
      if c = 'e' || c = 'E' then
        let (negative, digits) := sign rest
        if digits ≠ [] && digits.all isDigit then some (signed negative (ofDigits digits)) else none
      else none

/-- Digits with an optional point among them and an optional power of ten behind. -/
def floating? (cs : List Char) : Option Double := do
  let whole := cs.takeWhile isDigit
  let rest := cs.dropWhile isDigit
  let (fraction, tail) := match rest with
    | '.' :: more => (more.takeWhile isDigit, more.dropWhile isDigit)
    | _ => ([], rest)
  if whole = [] && fraction = [] then none
  else
    let exponent ← exponent? tail
    some (Double.ofDecimal (ofDigits (whole ++ fraction)) (exponent - fraction.length))

/-- Reads a floating point number. The quoted text goes into the message. -/
def readDouble (quoted : String) (cs : List Char) : Except Unreadable Double :=
  match withoutUnderscores? isDigit false (plain cs) with
  | none => .error (.notFloating quoted)
  | some text =>
      let (negative, rest) := sign text
      match (namedValue? rest).or (floating? rest) with
      | some x => .ok (x.signed negative)
      | none => .error (.notFloating quoted)

end ServiceDiscovery.Number
