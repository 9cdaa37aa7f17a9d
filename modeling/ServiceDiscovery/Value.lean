import ServiceDiscovery.Calendar
import ServiceDiscovery.Number.Reading
import ServiceDiscovery.Number.Shortest

/-!
Values of any kind, as they stand in configuration documents and in the attributes of a service. A
value has two texts: one in which a text shows as itself, and one in which it is quoted. Mappings
keep the order in which their keys came first.
-/

namespace ServiceDiscovery

inductive Value where
  | null
  | bool (b : Bool)
  | int (n : Int)
  | float (x : Double)
  | text (s : String)
  /-- A text with halves of surrogate pairs in it. -/
  | broken (points : Text.Points)
  | bytes (bs : List UInt8)
  | date (d : Date)
  | moment (m : Moment)
  | list (items : List Value)
  | pair (first second : Value)
  | set (items : List Value)
  | map (entries : List (Value × Value))
  /-- A list or mapping inside itself, of which only the brackets show. -/
  | within (mapping : Bool)
  deriving Repr

namespace Value

/-- The call that would make a day. -/
def quotedDate (d : Date) : String :=
  "datetime.date(" ++ ", ".intercalate [toString d.year, toString d.month, toString d.day] ++ ")"

/-- The call that would make an offset from universal time. -/
def quotedOffset (minutes : Int) : String :=
  if minutes = 0 then "datetime.timezone.utc"
  else
    let days := (minutes * 60).fdiv 86400
    let seconds := (minutes * 60).fmod 86400
    let parts := (if days = 0 then [] else ["days=" ++ Text.ofInt days]) ++
      (if seconds = 0 then [] else ["seconds=" ++ Text.ofInt seconds])
    "datetime.timezone(datetime.timedelta(" ++ ", ".intercalate parts ++ "))"

/-- The call that would make a moment. Seconds and microseconds are left out when they are zero. -/
def quotedMoment (m : Moment) : String :=
  let small :=
    if m.microsecond ≠ 0 then [m.second, m.microsecond]
    else if m.second ≠ 0 then [m.second]
    else []
  let numbers := [m.date.year, m.date.month, m.date.day, m.hour, m.minute] ++ small
  let offset := (m.offset.map fun o => ["tzinfo=" ++ quotedOffset o]).getD []
  "datetime.datetime(" ++ ", ".intercalate (numbers.map toString ++ offset) ++ ")"

mutual

/-- The text of a value in which texts are quoted. -/
def quoted : Value → String
  | .null => "None"
  | .bool true => "True"
  | .bool false => "False"
  | .int n => Text.ofInt n
  | .float x => x.text
  | .text s => Text.Quoted.text s
  | .broken points => Text.Quoted.points points
  | .bytes bs => Text.Quoted.bytes bs
  | .date d => quotedDate d
  | .moment m => quotedMoment m
  | .list items => "[" ++ ", ".intercalate (quotedItems items) ++ "]"
  | .pair first second => "(" ++ quoted first ++ ", " ++ quoted second ++ ")"
  | .set [] => "set()"
  | .set items => "\x7b" ++ ", ".intercalate (quotedItems items) ++ "\x7d"
  | .map entries => "\x7b" ++ ", ".intercalate (quotedEntries entries) ++ "\x7d"
  | .within true => "\x7b...\x7d"
  | .within false => "[...]"

def quotedItems : List Value → List String
  | [] => []
  | item :: rest => quoted item :: quotedItems rest

def quotedEntries : List (Value × Value) → List String
  | [] => []
  | (key, value) :: rest => (quoted key ++ ": " ++ quoted value) :: quotedEntries rest

end

/-- The text of a value in which a text shows as itself. -/
def shown : Value → String
  | .text s => s
  | .broken points => points.shown
  | .date d => d.text
  | .moment m => m.text ' '
  | value => value.quoted

/-- The text that a value is. -/
def points? : Value → Option Text.Points
  | .text s => some s
  | .broken points => some points
  | _ => none

/-- A text as a value, well formed or not. -/
def ofPoints (points : Text.Points) : Value :=
  match points.string? with
  | some s => .text s
  | none => .broken points

/-- The text of a value, of which halves of surrogate pairs are kept. -/
def shownPoints : Value → Text.Points
  | .broken points => points
  | value => .ofString value.shown

mutual

/-- Is there a whole number in a value that has too many digits to be written? -/
def isOverlong : Value → Bool
  | .int n => Nat.pow 10 Number.digitLimit ≤ n.natAbs
  | .list items | .set items => overlongItems items
  | .pair first second => isOverlong first || isOverlong second
  | .map entries => overlongEntries entries
  | _ => false

def overlongItems : List Value → Bool
  | [] => false
  | item :: rest => isOverlong item || overlongItems rest

def overlongEntries : List (Value × Value) → Bool
  | [] => false
  | (key, value) :: rest => isOverlong key || isOverlong value || overlongEntries rest

end

/-- Does a value count as something? Zero, the empty text and empty collections do not. -/
def isTruthy : Value → Bool
  | .null => false
  | .bool b => b
  | .int n => n ≠ 0
  | .float x => !x.isZero
  | .text s => s ≠ ""
  | .bytes bs => !bs.isEmpty
  | .list items | .set items => !items.isEmpty
  | .map entries => !entries.isEmpty
  | .broken _ | .date _ | .moment _ | .pair _ _ | .within _ => true

/-- The whole number a value equals as a key. Truth values count as zero and one. -/
def whole? : Value → Option Int
  | .bool b => some (if b then 1 else 0)
  | .int n => some n
  | .float x => x.whole?
  | _ => none

/-- Are two values the same key? Numbers are compared by what they are worth, moments with an
offset by the instant they name, and no number that is not a number equals another. -/
def sameKey : Value → Value → Bool
  | .null, .null => true
  | .text s, .text t => s = t
  | .broken s, .broken t => s = t
  | .bytes s, .bytes t => s = t
  | .date d, .date e => d = e
  | .moment m, .moment n =>
      match m.universal?, n.universal? with
      | some s, some t => s = t
      | none, none => m = n
      | _, _ => false
  | .pair a b, .pair c d => sameKey a c && sameKey b d
  | x, y =>
      match x.whole?, y.whole? with
      | some m, some n => m = n
      | none, none =>
          match x, y with
          | .float u, .float v => u = v && u.meaning ≠ .notANumber
          | _, _ => false
      | _, _ => false

/-- Gives a key a value. A key that is there keeps its place and its first spelling. -/
def insertEntry (key value : Value) : List (Value × Value) → List (Value × Value)
  | [] => [(key, value)]
  | (k, v) :: rest =>
      if k.sameKey key then (k, value) :: rest else (k, v) :: insertEntry key value rest

/-- The mapping that a list of entries makes. -/
def mapping (entries : List (Value × Value)) : List (Value × Value) :=
  entries.foldl (fun made entry => insertEntry entry.1 entry.2 made) []

/-- What a mapping has under a text. -/
def lookup? (key : Text.Points) (entries : List (Value × Value)) : Option Value :=
  (entries.find? fun entry => entry.1.sameKey (.ofPoints key)).map (·.2)

end Value

end ServiceDiscovery
