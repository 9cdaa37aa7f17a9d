/-!
Characters as YAML sees them. Carriage returns never get here, since they are turned into line feeds
when a file is read. A text ends where its list of characters does, and most rules count that end
among the gaps between words.
-/

namespace ServiceDiscovery.Yaml

def isBreak (c : Char) : Bool :=
  c = '\n' || c = '\u0085' || c = '\u2028' || c = '\u2029'

/-- A line break as it stands in the text of a scalar. The next-line character becomes a line feed.
-/
def normalBreak (c : Char) : Char :=
  if c = '\u0085' then '\n' else c

def isSpace (c : Char) : Bool :=
  c = ' '

def isSpaceOrTab (c : Char) : Bool :=
  c = ' ' || c = '\t'

def atLineEnd : List Char → Bool
  | [] => true
  | c :: _ => isBreak c

/-- Is there a gap here, where tabs are no gaps? -/
def atNarrowGap : List Char → Bool
  | [] => true
  | c :: _ => isBreak c || isSpace c

/-- Is there a gap between words here? -/
def atGap : List Char → Bool
  | [] => true
  | c :: _ => isBreak c || isSpaceOrTab c

/-- Does a line that begins here separate documents? -/
def atSeparator : List Char → Bool
  | '-' :: '-' :: '-' :: rest => atGap rest
  | '.' :: '.' :: '.' :: rest => atGap rest
  | _ => false

def isFlowBracket (c : Char) : Bool :=
  c = '[' || c = ']' || c = '\x7b' || c = '\x7d'

def isAsciiDigit (c : Char) : Bool :=
  '0' ≤ c && c ≤ '9'

/-- Characters of anchors, handles and directives. -/
def isWordChar (c : Char) : Bool :=
  isAsciiDigit c || ('A' ≤ c && c ≤ 'Z') || ('a' ≤ c && c ≤ 'z') || c = '-' || c = '_'

def hexValue? (c : Char) : Option Nat :=
  if isAsciiDigit c then some (c.toNat - '0'.toNat)
  else if 'a' ≤ c && c ≤ 'f' then some (c.toNat - 'a'.toNat + 10)
  else if 'A' ≤ c && c ≤ 'F' then some (c.toNat - 'A'.toNat + 10)
  else none

/-- The number that hexadecimal digits write, if all of them are. -/
def hexNumber? (digits : List Char) : Option Nat :=
  (digits.mapM hexValue?).map fun values => values.foldl (fun n value => n * 16 + value) 0

/-- May a character stand in a document at all? Most control characters may not. -/
def isAllowed (c : Char) : Bool :=
  let code := c.toNat
  code = 0x09 || code = 0x0A || code = 0x0D || (0x20 ≤ code && code ≤ 0x7E) || code = 0x85 ||
    (0xA0 ≤ code && code ≤ 0xFFFD) || 0x10000 ≤ code

end ServiceDiscovery.Yaml
