import ServiceDiscovery.Settings.Basic
import ServiceDiscovery.Text.Case

/-!
Conversion of single values. Truth values count as numbers, fractions are cut off toward zero, and
texts are read. What else a document may hold is no number.
-/

namespace ServiceDiscovery.Settings

/-- The characters of a text in bytes. Bytes past ASCII are given a character that no number has. -/
def byteChars (bytes : List UInt8) : List Char :=
  bytes.map fun b => if b < 128 then Char.ofNat b.toNat else '\uFFFD'

def readInt (quoted : String) (cs : List Char) : Except Fault Int :=
  (Number.readInt quoted cs).mapError .number

def readDouble (quoted : String) (cs : List Char) : Except Fault Double :=
  (Number.readDouble quoted cs).mapError .number

def wholeNumber (value : Value) : Except Fault Int :=
  match value with
  | .bool b => .ok (if b then 1 else 0)
  | .int n => .ok n
  | .float x =>
      match x.truncate? with
      | some n => .ok n
      | none => .error (if x.meaning = .notANumber then .notANumber else .infinite)
  | .text s => readInt value.quoted s.toList
  | .broken points => readInt value.quoted points.shownChars
  | .bytes bs => readInt value.quoted (byteChars bs)
  | _ => .error .noNumber

def ofWhole (n : Int) : Except Fault Double :=
  match Double.ofInt? n with
  | some x => .ok x
  | none => .error .tooLarge

def floatingNumber (value : Value) : Except Fault Double :=
  match value with
  | .bool b => ofWhole (if b then 1 else 0)
  | .int n => ofWhole n
  | .float x => .ok x
  | .text s => readDouble value.quoted s.toList
  | .broken points => readDouble value.quoted points.shownChars
  | .bytes bs => readDouble value.quoted (byteChars bs)
  | _ => .error .noNumber

/-- A value as a text, unless it has too large a number in it. -/
def shownText (value : Value) : Except Fault Text.Points :=
  if value.isOverlong then .error .unwritable else .ok value.shownPoints

/-- A log level by the lower case of its text. -/
def logLevel (value : Value) : Except Fault Text.Points :=
  (shownText value).map Text.Points.lower

/-- The words for true in the environment; everything else is false. -/
def trueWords : List String :=
  ["true", "1", "yes"]

def switch (text : String) : Bool :=
  trueWords.contains (Text.lower text)

end ServiceDiscovery.Settings
