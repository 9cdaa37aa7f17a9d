import ServiceDiscovery.Calendar
import ServiceDiscovery.Number.Reading

/-!
Why a text is not read as a value. A text may be no YAML at all, which is one cause whatever the
reason; or it is, and a scalar in it does not write what its tag says.
-/

namespace ServiceDiscovery.Yaml

inductive Fault where
  /-- The text breaks the rules of YAML, or asks for what no plain value can be. -/
  | malformed
  /-- Collections lie too deep in one another, or a text stands for itself. -/
  | tooDeep
  /-- An escape names a code point that does not exist. -/
  | noCharacter (code : Nat)
  /-- A word tagged as a truth value is none. -/
  | noTruth (word : String)
  /-- A number has no digits. -/
  | noDigits
  | number (reason : Number.Unreadable)
  /-- A place in base sixty is worth more than any floating point number. -/
  | tooLarge
  /-- A text tagged as a moment does not look like one. -/
  | noMoment
  /-- A moment is written as a collection. -/
  | momentInside
  | calendar (reason : Calendar.Fault)
  deriving DecidableEq, Repr

/-- The first number that the machine's plain whole numbers do not reach. -/
def codeLimit : Nat := Nat.pow 2 31

def Fault.message : Fault → String
  | malformed => "malformed document"
  | tooDeep => "maximum recursion depth exceeded"
  | noCharacter code =>
      if code < codeLimit then "chr() arg not in range(0x110000)"
      else "Python int too large to convert to C int"
  | noTruth word => word
  | noDigits => "string index out of range"
  | number reason => reason.message
  | tooLarge => "int too large to convert to float"
  | noMoment => "no moment"
  | momentInside => "expected string or bytes-like object"
  | calendar reason => reason.message

end ServiceDiscovery.Yaml
