import ServiceDiscovery.Text.Base64
import ServiceDiscovery.Text.Case
import ServiceDiscovery.Value
import ServiceDiscovery.Yaml.Fault
import ServiceDiscovery.Yaml.Tag

/-!
Values of scalars. The tag says what a text is to be read as. Where the tag came from the spelling
the text fits it, but a tag may also be written in front of a text that does not.
-/

namespace ServiceDiscovery.Yaml

open Text (Points)

/-- Takes off a sign, and tells whether it is a minus. -/
def splitSign : Points → Bool × Points
  | .char '-' :: rest => (true, rest)
  | .char '+' :: rest => (false, rest)
  | text => (false, text)

def withoutLines (text : Points) : Points :=
  text.filter (· ≠ .char '_')

/-- Adds up places in base sixty, the least significant first. -/
def ofSixtieths (places : List Int) : Int :=
  places.foldr (fun place sum => place + 60 * sum) 0

def readWhole (base : Nat) (text : Points) : Except Fault Int :=
  (Number.readIntIn base (Text.Quoted.points text) text.shownChars).mapError Fault.number

/-- A whole number: in binary behind `0b`, in hexadecimal behind `0x`, in octal behind any other
zero, in base sixty with colons, and else in decimal. -/
def readInt (text : Points) : Except Fault Int := do
  let text := withoutLines text
  if text = [] then throw .noDigits
  let (negative, digits) := splitSign text
  let magnitude ← match digits with
    | [] => throw .noDigits
    | .char '0' :: rest =>
        match rest with
        | [] => pure 0
        | .char 'b' :: binary => readWhole 2 binary
        | .char 'x' :: hexadecimal => readWhole 16 hexadecimal
        | _ => readWhole 8 digits
    | _ =>
        if digits.contains (.char ':') then do
          let places ← (Text.split (.char ':') digits).mapM (readWhole 10)
          pure (ofSixtieths places.reverse)
        else readWhole 10 digits
  return if negative then -magnitude else magnitude

def readDouble (text : Points) : Except Fault Double :=
  (Number.readDouble (Text.Quoted.points text) text.shownChars).mapError Fault.number

/-- Adds up places in base sixty, the least significant first. Each sum is rounded. -/
def addSixtieths (base : Int) (sum : Float) : List Double → Except Fault Double
  | [] => .ok (.ofFloat sum)
  | place :: rest =>
      match Double.ofInt? base with
      | none => .error .tooLarge
      | some weight =>
          addSixtieths (base * 60) (sum + place.toFloat * weight.toFloat) rest

/-- A text as floating point numbers are read from it: its sign, and the rest in lower case. -/
def floatParts (text : Points) : Bool × Points :=
  splitSign (withoutLines text).lower

/-- Is a text the word for what is no number? -/
def isNoNumberWord (text : Points) : Bool :=
  (floatParts text).2 = .ofString ".nan"

/-- A floating point number: infinity and what is no number by their words, base sixty with colons,
and else decimal. -/
def readFloat (text : Points) : Except Fault Double := do
  if withoutLines text = [] then throw .noDigits
  let (negative, digits) := floatParts text
  if isNoNumberWord text then return .notANumber
  let magnitude ←
    if digits = .ofString ".inf" then pure .positiveInfinity
    else if digits.contains (.char ':') then do
      let places ← (Text.split (.char ':') digits).mapM readDouble
      addSixtieths 1 0 places.reverse
    else readDouble digits
  return magnitude.signed negative

def truths : List (String × Bool) :=
  [("yes", true), ("no", false), ("true", true), ("false", false), ("on", true), ("off", false)]

def readTruth (text : Points) : Except Fault Bool :=
  match text.string?.bind fun word => truths.lookup (Text.lower word) with
  | some truth => .ok truth
  | none => .error (.noTruth text.shown)

def readBinary (text : Points) : Except Fault (List UInt8) :=
  let cs := text.shownChars
  if cs.all (·.toNat < 128) then
    match Text.Base64.decode? cs with
    | some bytes => .ok bytes
    | none => .error .malformed
  else .error .malformed

/-- The first six digits behind the point, filled up with zeros. -/
def microseconds (fraction : List Char) : Nat :=
  Number.ofDigits ((fraction ++ List.replicate 6 '0').take 6)

def minutesPerDay : Int := 24 * 60

/-- The offset of a zone in minutes, which must be less than a day. -/
def readOffset (negative : Bool) (hours minutes : List Char) : Except Calendar.Fault Int :=
  let total : Int := Number.ofDigits hours * 60 + Number.ofDigits minutes
  let total := if negative then -total else total
  if total.natAbs < minutesPerDay then .ok total
  else .error (.offset (total.fdiv minutesPerDay) (total.fmod minutesPerDay * 60))

/-- The day or moment that a word names. The zone is looked at before the day. -/
def Tag.MomentWord.value (word : Tag.MomentWord) : Except Calendar.Fault Value := do
  let number := Number.ofDigits
  let day := Calendar.date (number word.year) (number word.month) (number word.day)
  match word.time with
  | none => return .date (← day)
  | some (hour, minute, second) =>
      let offset ← match word.zone with
        | none => pure none
        | some none => pure (some 0)
        | some (some (negative, hours, minutes)) => (readOffset negative hours minutes).map some
      let date ← day
      if 23 < number hour then throw .hour
      if 59 < number minute then throw .minute
      if 59 < number second then throw .second
      return .moment {
        date
        hour := number hour
        minute := number minute
        second := number second
        microsecond := microseconds word.fraction
        offset }

def readMoment (text : Points) : Except Fault Value :=
  match text.chars?.bind fun cs => Tag.momentWord? (Tag.withoutFinalFeed cs) with
  | none => .error .noMoment
  | some word => word.value.mapError .calendar

/-- The value of a text under the tag of a scalar. Other tags have no values. -/
def scalarValue (tag : Tag) (text : Points) : Except Fault Value :=
  match tag with
  | .null => .ok .null
  | .bool => (readTruth text).map .bool
  | .int => (readInt text).map .int
  | .float => (readFloat text).map .float
  | .binary => (readBinary text).map .bytes
  | .moment => readMoment text
  | .text => .ok (.ofPoints text)
  | _ => .error .malformed

end ServiceDiscovery.Yaml
