import ServiceDiscovery.Text.Points
import ServiceDiscovery.Text.Printable

/-!
Quoted texts. A text in a message stands between single quotes, or between double quotes when it
holds single quotes and no double ones. Backslashes, the quote in use and everything that cannot be
printed are written as escapes, so a quoted text stays on one line and shows every character.
-/

namespace ServiceDiscovery.Text.Quoted

def hexDigits : List Char :=
  "0123456789abcdef".toList

/-- The hexadecimal digit of a value below sixteen. -/
def hexDigit (value : Nat) : Char :=
  hexDigits.getD value '0'

/-- The lowest `width` hexadecimal digits of a number. -/
def hex : Nat → Nat → List Char
  | 0, _ => []
  | width + 1, n => hex width (n / 16) ++ [hexDigit (n % 16)]

/-- Single quotes, unless only single quotes occur inside. -/
def chooseQuote (cs : List Char) : Char :=
  if cs.contains '\'' && !cs.contains '"' then '"' else '\''

/-- The escape of a character by its number, in the shortest of three widths. -/
def escapeByNumber (code : Nat) : List Char :=
  if code < 0x100 then '\\' :: 'x' :: hex 2 code
  else if code < 0x10000 then '\\' :: 'u' :: hex 4 code
  else '\\' :: 'U' :: hex 8 code

/-- How one character is written between the given quotes. -/
def escape (quote c : Char) : List Char :=
  if c = quote || c = '\\' then ['\\', c]
  else if c = '\t' then ['\\', 't']
  else if c = '\n' then ['\\', 'n']
  else if c = '\r' then ['\\', 'r']
  else if isPrintable c then [c]
  else escapeByNumber c.toNat

def chars (cs : List Char) : List Char :=
  let quote := chooseQuote cs
  quote :: cs.flatMap (escape quote) ++ [quote]

def text (s : String) : String :=
  String.ofList (chars s.toList)

/-- How one point is written between the given quotes. A half of a pair cannot be printed. -/
def escapePoint (quote : Char) : Point → List Char
  | .char c => escape quote c
  | .half h => escapeByNumber h.code

/-- A text that need not be well formed, between quotes. -/
def points (ps : Points) : String :=
  let quote := chooseQuote ps.shownChars
  String.ofList (quote :: ps.flatMap (escapePoint quote) ++ [quote])

/-- A text as it stands but for its halves, which are written as escapes. -/
def halves (ps : Points) : String :=
  String.ofList (ps.flatMap fun
    | .char c => [c]
    | .half h => escapeByNumber h.code)

/-- How one byte is written between the given quotes: ASCII as itself, all else by its number. -/
def escapeByte (quote : Char) (b : UInt8) : List Char :=
  if b < 0x80 then escape quote (Char.ofNat b.toNat) else escapeByNumber b.toNat

/-- Bytes between quotes, marked by a letter in front. -/
def bytes (bs : List UInt8) : String :=
  let quote := chooseQuote (bs.map fun b => Char.ofNat b.toNat)
  String.ofList ('b' :: quote :: bs.flatMap (escapeByte quote) ++ [quote])

end ServiceDiscovery.Text.Quoted
