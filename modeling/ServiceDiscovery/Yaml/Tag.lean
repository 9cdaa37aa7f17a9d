import ServiceDiscovery.Text.Split
import ServiceDiscovery.Yaml.Character

/-!
Tags say what kind of value a node stands for. A plain scalar without a tag has the one that its
spelling asks for; all other scalars without a tag are texts.
-/

namespace ServiceDiscovery.Yaml

inductive Tag where
  | null
  | bool
  | int
  | float
  | binary
  | moment
  | text
  | sequence
  | mapping
  | set
  /-- A sequence of mappings with one entry each, which become pairs. -/
  | pairs
  /-- The key whose value is merged into the mapping around it. -/
  | merge
  /-- The key whose value stands for the mapping where a scalar is wanted. -/
  | value
  | other (name : String)
  deriving DecidableEq, Repr

namespace Tag

/-- What the names of the common tags begin with. -/
def domain : String := "tag:yaml.org,2002:"

def common : List (String × Tag) :=
  [("null", .null), ("bool", .bool), ("int", .int), ("float", .float), ("binary", .binary),
    ("timestamp", .moment), ("str", .text), ("seq", .sequence), ("map", .mapping), ("set", .set),
    ("omap", .pairs), ("pairs", .pairs), ("merge", .merge), ("value", .value)]

def ofName (name : String) : Tag :=
  ((common.find? fun entry => domain ++ entry.1 = name).map (·.2)).getD (.other name)

/-! Spellings of plain scalars. All rules are about ASCII characters. -/

def truthWords : List String :=
  ["yes", "Yes", "YES", "no", "No", "NO", "true", "True", "TRUE", "false", "False", "FALSE",
    "on", "On", "ON", "off", "Off", "OFF"]

def nullWords : List String :=
  ["", "~", "null", "Null", "NULL"]

def infinityWords : List String :=
  [".inf", ".Inf", ".INF"]

def notANumberWords : List String :=
  [".nan", ".NaN", ".NAN"]

def isDigitOrLine (c : Char) : Bool :=
  isAsciiDigit c || c = '_'

/-- A digit followed by digits and underscores. -/
def isNumeral : List Char → Bool
  | c :: rest => isAsciiDigit c && rest.all isDigitOrLine
  | [] => false

/-- The same with no zero in front. -/
def isPlainNumeral (cs : List Char) : Bool :=
  isNumeral cs && cs.head? ≠ some '0'

def unsigned : List Char → List Char
  | '-' :: rest | '+' :: rest => rest
  | cs => cs

/-- Two digits below sixty, or one. -/
def isSixtieth : List Char → Bool
  | [c] => isAsciiDigit c
  | [c, d] => '0' ≤ c && c ≤ '5' && isAsciiDigit d
  | _ => false

/-- Places in base sixty: a numeral and at least one part below sixty. -/
def isSexagesimal (first : List Char → Bool) (cs : List Char) : Bool :=
  match Text.split ':' cs with
  | head :: next :: more => first head && (next :: more).all isSixtieth
  | _ => false

def isInt (cs : List Char) : Bool :=
  let digits := unsigned cs
  let based : Bool := match digits with
    | '0' :: 'b' :: rest => rest ≠ [] && rest.all fun c => c = '0' || c = '1' || c = '_'
    | '0' :: 'x' :: rest => rest ≠ [] && rest.all fun c => (hexValue? c).isSome || c = '_'
    | '0' :: rest => rest.all fun c => ('0' ≤ c && c ≤ '7') || c = '_'
    | _ => false
  based || isPlainNumeral digits || isSexagesimal isPlainNumeral digits

/-- A power of ten, whose sign must be there, or nothing. -/
def isExponent : List Char → Bool
  | [] => true
  | c :: sign :: rest =>
      (c = 'e' || c = 'E') && (sign = '-' || sign = '+') && rest ≠ [] && rest.all isAsciiDigit
  | _ => false

def isFraction (cs : List Char) : Bool :=
  isExponent (cs.dropWhile isDigitOrLine)

def isFloat (cs : List Char) : Bool :=
  let digits := unsigned cs
  let whole := digits.takeWhile (· ≠ '.')
  match digits.dropWhile (· ≠ '.') with
  | _ :: fraction =>
      (isNumeral whole && isFraction fraction) ||
        (isSexagesimal isNumeral whole && fraction.all isDigitOrLine) ||
        (whole = [] && digits = cs && fraction.head?.any isAsciiDigit && isFraction fraction) ||
        infinityWords.contains (String.ofList digits) ||
        notANumberWords.contains (String.ofList cs)
  | [] => false

/-! Moments are read piece by piece. Each reader gives what is behind its piece. -/

/-- Takes between `least` and `most` digits, as many as there are. -/
def digits? (least most : Nat) (cs : List Char) : Option (List Char × List Char) :=
  let found := (cs.take most).takeWhile isAsciiDigit
  if found.length < least then none else some (found, cs.drop found.length)

def char? (wanted : Char) : List Char → Option (List Char)
  | c :: rest => if c = wanted then some rest else none
  | [] => none

/-- A moment as its digits. A day on its own has no time. -/
structure MomentWord where
  year : List Char
  month : List Char
  day : List Char
  time : Option (List Char × List Char × List Char) := none
  fraction : List Char := []
  /-- Is there a zone, and if it is an offset, its sign, hours and minutes. -/
  zone : Option (Option (Bool × List Char × List Char)) := none
  deriving Repr

/-- The offset from universal time at the end of a moment. -/
def zone? (word : MomentWord) (cs : List Char) : Option MomentWord :=
  match cs.dropWhile isSpaceOrTab with
  | [] => if cs = [] then some word else none
  | ['Z'] => some { word with zone := some none }
  | sign :: rest =>
      if sign = '-' || sign = '+' then do
        let (hours, rest) ← digits? 1 2 rest
        let minutes ← match rest with
          | [] => some []
          | _ => do
              let (minutes, rest) ← digits? 2 2 (← char? ':' rest)
              if rest = [] then some minutes else none
        return { word with zone := some (some (sign = '-', hours, minutes)) }
      else none

/-- A moment in any of its spellings; nothing may be left. -/
def momentWord? (cs : List Char) : Option MomentWord := do
  let (year, rest) ← digits? 4 4 cs
  let (month, rest) ← digits? 1 2 (← char? '-' rest)
  let (day, rest) ← digits? 1 2 (← char? '-' rest)
  let word : MomentWord := { year, month, day }
  match rest with
  | [] => return word
  | c :: behind =>
      let rest ← if c = 'T' || c = 't' then some behind
        else if isSpaceOrTab c then some (rest.dropWhile isSpaceOrTab)
        else none
      let (hour, rest) ← digits? 1 2 rest
      let (minute, rest) ← digits? 2 2 (← char? ':' rest)
      let (second, rest) ← digits? 2 2 (← char? ':' rest)
      let word := { word with time := some (hour, minute, second) }
      match rest with
      | '.' :: rest =>
          zone? { word with fraction := rest.takeWhile isAsciiDigit } (rest.dropWhile isAsciiDigit)
      | _ => zone? word rest

/-- Without a time of day, month and day must have two digits for a plain scalar to be a moment. -/
def isMoment (cs : List Char) : Bool :=
  match momentWord? cs with
  | some word => word.time.isSome || (word.month.length = 2 && word.day.length = 2)
  | none => false

/-- One line feed at the end of a word goes unnoticed. -/
def withoutFinalFeed (cs : List Char) : List Char :=
  if cs.getLast? = some '\n' && cs ≠ ['\n'] then cs.dropLast else cs

/-- Signs that are never plain scalars. Under a tag that leaves it open they ask for one of their
own. -/
def signWords : List String :=
  ["!", "&", "*"]

/-- The tag that the spelling of a plain scalar asks for. -/
def ofSpelling (text : String) : Tag :=
  let cs := withoutFinalFeed text.toList
  let word := String.ofList cs
  if truthWords.contains word then .bool
  else if nullWords.contains word then .null
  else if isFloat cs then .float
  else if isInt cs then .int
  else if isMoment cs then .moment
  else if word = "<<" then .merge
  else if word = "=" then .value
  else if signWords.contains word then ofName (domain ++ "yaml")
  else .text

end Tag

end ServiceDiscovery.Yaml
