import ServiceDiscovery.Value

/-!
Message templates. A percent sign starts a place for an argument: flags, a least width, a precision
and a letter that says how the argument is shown. Each argument fills one place and no place or
argument may be left over. A template without arguments is not looked into. A mapping with something
in it that is the only argument can also be asked for its values, by keys in round brackets behind
the percent sign; then nothing has to be used up.
-/

namespace ServiceDiscovery.Log.Template

inductive Misfit where
  /-- Too few or too many arguments, or one of the wrong kind. -/
  | mismatch
  | incomplete
  /-- No form has a letter with this code. -/
  | unsupported (code index : Nat)
  | notANumber
  | infinite
  | tooLarge
  | codeOutOfRange
  /-- A width or precision is written with too large a number. -/
  | wideWidth
  | widePrecision
  /-- A width or precision is taken from too large an argument. -/
  | wideWidthArgument
  | widePrecisionArgument
  /-- A whole number with that many digits cannot be shown. -/
  | digits
  /-- A whole number has too many digits of its own. -/
  | unwritable
  | incompleteKey
  | noKey (quoted : String)
  /-- No text is as long as this one would be. -/
  | memory
  deriving DecidableEq, Repr

def Misfit.message : Misfit → String
  | .mismatch => "arguments do not fit the format string"
  | .incomplete => "incomplete format"
  | .unsupported code index =>
      let shown := if 31 ≤ code && code ≤ 126 then Char.ofNat code else '?'
      "unsupported format character '" ++ String.ofList [shown] ++ "' (0x" ++
        String.ofList (Nat.toDigits 16 code) ++ ") at index " ++ toString index
  | .notANumber => "cannot convert float NaN to integer"
  | .infinite => "cannot convert float infinity to integer"
  | .tooLarge => "int too large to convert to float"
  | .codeOutOfRange => "%c arg not in range(0x110000)"
  | .wideWidth => "width too big"
  | .widePrecision => "precision too big"
  | .wideWidthArgument => "Python int too large to convert to C ssize_t"
  | .widePrecisionArgument => "Python int too large to convert to C int"
  | .digits => "precision too large"
  | .unwritable => Number.unwritable
  | .incompleteKey => "incomplete format key"
  | .noKey quoted => quoted
  | .memory => ""

structure Place where
  left : Bool := false
  sign : Bool := false
  space : Bool := false
  zeros : Bool := false
  marked : Bool := false
  width : Nat := 0
  precision : Option Nat := none

/-- Sets the flags of a place and returns what follows them. -/
def flags (place : Place) : Text.Points → Place × Text.Points
  | .char '-' :: rest => flags { place with left := true } rest
  | .char '+' :: rest => flags { place with sign := true } rest
  | .char ' ' :: rest => flags { place with space := true } rest
  | .char '0' :: rest => flags { place with zeros := true } rest
  | .char '#' :: rest => flags { place with marked := true } rest
  | rest => (place, rest)

def isDigit (point : Text.Point) : Bool :=
  0x30 ≤ point.code && point.code ≤ 0x39

/-- Reads a run of digits, which may be empty. -/
def digits (points : Text.Points) : Nat × Text.Points :=
  ((points.takeWhile isDigit).foldl (fun n point => 10 * n + (point.code - 0x30)) 0,
    points.dropWhile isDigit)

/-- The largest width and the largest precision. -/
def widthLimit : Nat := Nat.pow 2 63 - 1

def precisionLimit : Nat := Nat.pow 2 31 - 1

/-- More characters than that are never put into one text. -/
def lengthLimit : Nat := Nat.pow 2 40

/-- Fills a text up to the width of its place. -/
def pad {α : Type} (blank : α) (place : Place) (body : List α) : List α :=
  let fill := List.replicate (place.width - body.length) blank
  if place.left then body ++ fill else fill ++ body

/-- Fills a number up to the width of its place. Zeros go between the sign and the digits. -/
def padNumber (place : Place) (lead body : List Char) : List Char :=
  let length := lead.length + body.length
  if place.zeros && !place.left then lead ++ List.replicate (place.width - length) '0' ++ body
  else pad ' ' place (lead ++ body)

/-- The sign of a number. -/
def signOf (place : Place) (negative : Bool) : List Char :=
  if negative then ['-'] else if place.sign then ['+'] else if place.space then [' '] else []

/-- A whole number in some base, with at least as many digits as the precision says. -/
def whole (place : Place) (base : Nat) (mark : List Char) (upper : Bool) (n : Int) :
    Except Misfit (List Char) := do
  if precisionLimit - 3 < place.precision.getD 0 then throw .digits
  if base = 10 && (Value.int n).isOverlong then throw .unwritable
  let digits := Nat.toDigits base n.natAbs
  let digits := if upper then digits.map fun c => if 'a' ≤ c && c ≤ 'z' then
    Char.ofNat (c.toNat - 32) else c else digits
  let digits := List.replicate (place.precision.getD 0 - digits.length) '0' ++ digits
  return padNumber place (signOf place (n < 0) ++ if place.marked then mark else []) digits

/-- The whole number that an argument stands for, where parts of a number are cut off. -/
def truncated : Value → Except Misfit Int
  | .bool b => .ok (if b then 1 else 0)
  | .int n => .ok n
  | .float x =>
      match x.truncate? with
      | some n => .ok n
      | none => .error (if x.meaning = .notANumber then .notANumber else .infinite)
  | _ => .error .mismatch

/-- The whole number that an argument is. -/
def exactly : Value → Except Misfit Int
  | .bool b => .ok (if b then 1 else 0)
  | .int n => .ok n
  | _ => .error .mismatch

/-- The floating point number that an argument stands for. -/
def floating : Value → Except Misfit Double
  | .bool b => .ok ((Double.ofInt? (if b then 1 else 0)).getD .zero)
  | .int n => match Double.ofInt? n with
    | some x => .ok x
    | none => .error .tooLarge
  | .float x => .ok x
  | _ => .error .mismatch

/-- Digits behind a point. Without digits there is no point, unless it is always kept. -/
def fraction (kept : Bool) (digits : List Char) : List Char :=
  if digits.isEmpty && !kept then [] else '.' :: digits

/-- A magnitude rounded to a count of places behind the point. -/
def fixed (kept : Bool) (significand : Nat) (exponent : Int) (places : Nat) : List Char :=
  let x := Double.binary significand exponent
  let all := Text.natDigits (Double.roundedQuotient (x.num * Nat.pow 10 places) x.den)
  let all := List.replicate (places + 1 - all.length) '0' ++ all
  all.take (all.length - places) ++ fraction kept (all.drop (all.length - places))

/-- The digits of a magnitude rounded to a count of digits, and its power of ten. -/
def rounded (significand : Nat) (exponent : Int) (count : Nat) : List Char × Int :=
  if significand = 0 then (List.replicate count '0', 0)
  else
    let x := Double.binary significand exponent
    let point := Double.pointOf x
    let unit := Double.decimal 1 (point - count)
    let digits := Text.natDigits (Double.roundedQuotient (x.num * unit.den) (x.den * unit.num))
    (digits.take count, point - 1 + (digits.length - count : Nat))

/-- A magnitude with a power of ten. -/
def exponential (kept : Bool) (digits : List Char) (power : Int) : List Char :=
  digits.take 1 ++ fraction kept (digits.drop 1) ++
    'e' :: (if power < 0 then '-' else '+') :: Text.padded 2 power.natAbs

/-- A magnitude in the shorter of both forms. Zeros at the end and a bare point are kept or dropped
together. -/
def general (kept : Bool) (significand : Nat) (exponent : Int) (count : Nat) : List Char :=
  let (digits, power) := rounded significand exponent count
  let short :=
    if kept then digits
    else match Text.dropZeros digits with
      | [] => ['0']
      | rest => rest
  if power < -4 || (count : Int) ≤ power then exponential kept short power
  else if power < 0 then '0' :: '.' :: List.replicate (-power - 1).toNat '0' ++ short
  else
    let whole := power.toNat + 1
    short.take whole ++ List.replicate (whole - short.length) '0' ++
      fraction kept (short.drop whole)

/-- A floating point number, by the small letter of its form. -/
def float (place : Place) (letter : Char) (x : Double) : List Char :=
  let count := place.precision.getD 6
  match x.meaning with
  | .notANumber => padNumber place (signOf place false) "nan".toList
  | .infinite negative => padNumber place (signOf place negative) "inf".toList
  | .finite negative significand exponent =>
      let body :=
        if letter = 'f' then fixed place.marked significand exponent count
        else if letter = 'e' then
          let (digits, power) := rounded significand exponent (count + 1)
          exponential place.marked digits power
        else general place.marked significand exponent (max count 1)
      padNumber place (signOf place negative) body

/-- A text as a template's `%a` shows it: everything outside ASCII is escaped. -/
def ascii (value : Value) : List Char :=
  value.quoted.toList.flatMap fun c =>
    if c.toNat < 0x80 then [c] else Text.Quoted.escapeByNumber c.toNat

/-- The point that an argument names, by its code or as itself. -/
def point : Value → Except Misfit Text.Point
  | .bool b => .ok (.ofCode (if b then 1 else 0))
  | .int n =>
      if 0 ≤ n && n < 0x110000 then .ok (.ofCode n.toNat) else .error .codeOutOfRange
  | .text s => single (.ofString s)
  | .broken points => single points
  | _ => .error .mismatch
where
  single : Text.Points → Except Misfit Text.Point
    | [point] => .ok point
    | _ => .error .mismatch

/-- Cuts a text to the precision of its place. -/
def cut (place : Place) (body : Text.Points) : Text.Points :=
  match place.precision with
  | some count => body.take count
  | none => body

/-- An argument as a text, unless a number in it is too long. -/
def text (place : Place) (value : Value) (body : Text.Points) : Except Misfit Text.Points :=
  if value.isOverlong then .error .unwritable else .ok (pad (.char ' ') place (cut place body))

/-- An argument by the letter of its form, filled up to the width of its place. -/
def shown (place : Place) (letter : Text.Point) (index : Nat) (value : Value) :
    Except Misfit Text.Points := do
  match letter.shown with
  | 's' => text place value value.shownPoints
  | 'r' => text place value (.ofString value.quoted)
  | 'a' => text place value (.ofChars (ascii value))
  | 'd' | 'i' | 'u' => return .ofChars (← whole place 10 [] false (← truncated value))
  | 'o' => return .ofChars (← whole place 8 ['0', 'o'] false (← exactly value))
  | 'x' => return .ofChars (← whole place 16 ['0', 'x'] false (← exactly value))
  | 'X' => return .ofChars (← whole place 16 ['0', 'X'] true (← exactly value))
  | 'c' => return pad (.char ' ') place [← point value]
  | c =>
      if ['e', 'f', 'g'].contains c then return .ofChars (float place c (← floating value))
      else if ['E', 'F', 'G'].contains c then
        return .ofChars ((float place c.toLower (← floating value)).map Char.toUpper)
      else throw (.unsupported letter.code index)

def argument (place : Place) (letter : Text.Point) (index : Nat) (value : Value) :
    Except Misfit Text.Points := do
  if lengthLimit < place.width then
    let _ ← shown { place with width := 0 } letter index value
    throw .memory
  else shown place letter index value

/-- A width or precision: digits, or a star that takes it from the arguments. Each has its limit and
its own faults. -/
def measure (limit : Nat) (wide wideArgument : Misfit) (args : List Value) :
    Text.Points → Except Misfit (Int × List Value × Text.Points)
  | .char '*' :: rest =>
      match args with
      | [] => .error .mismatch
      | value :: more => do
          let n ← exactly value
          if -(limit : Int) - 1 ≤ n && n ≤ limit then .ok (n, more, rest) else .error wideArgument
  | points =>
      let (n, rest) := digits points
      if n ≤ limit then .ok (n, args, rest) else .error wide

/-- A key and what stands behind the bracket that ends it. Brackets inside a key come in pairs; the
first argument counts those that are open. -/
def key? : Nat → Text.Points → Option (Text.Points × Text.Points)
  | _, [] => none
  | 0, .char ')' :: rest => some ([], rest)
  | depth, point :: rest =>
      let depth :=
        if point = .char '(' then depth + 1 else if point = .char ')' then depth - 1 else depth
      (key? depth rest).map fun found => (point :: found.1, found.2)

/-- The entries of the mapping whose values a template can ask for, and the arguments that are there
without asking. -/
structure Supply where
  entries : Option (List (Value × Value))
  args : List Value

/-- A key in front of a place leaves the value under it as the only argument. -/
def keyed (supply : Supply) : Text.Points → Except Misfit (Supply × Text.Points)
  | .char '(' :: rest =>
      match supply.entries with
      | none => .error .mismatch
      | some entries =>
          match key? 0 rest with
          | none => .error .incompleteKey
          | some (key, rest) =>
              match Value.lookup? key entries with
              | none => .error (.noKey (Text.Quoted.points key))
              | some value => .ok ({ supply with args := [value] }, rest)
  | points => .ok (supply, points)

/-- Reads the place that a percent sign starts. -/
def place (supply : Supply) (points : Text.Points) :
    Except Misfit (Place × Supply × Text.Points) := do
  let (supply, points) ← keyed supply points
  let (made, rest) := flags {} points
  let (width, args, rest) ← measure widthLimit .wideWidth .wideWidthArgument supply.args rest
  let made := { made with left := made.left || width < 0, width := width.natAbs }
  match rest with
  | .char '.' :: more =>
      let (precision, args, rest) ←
        measure precisionLimit .widePrecision .widePrecisionArgument args more
      .ok ({ made with precision := some precision.toNat }, { supply with args }, rest)
  | _ => .ok (made, { supply with args }, rest)

/-- A size letter in front of the letter of the form has no meaning. -/
def withoutSize : Text.Points → Text.Points
  | .char c :: rest => if c = 'h' || c = 'l' || c = 'L' then rest else .char c :: rest
  | points => points

/-- Is nothing left that has to be used up? -/
def Supply.isSpent (supply : Supply) : Bool :=
  supply.entries.isSome || supply.args.isEmpty

/-- Fills the places of a template of known length. Two percent signs in a row stand for one. Every
round uses up a point at least. -/
def fillWith (length : Nat) : Nat → Supply → Text.Points → Except Misfit Text.Points
  | 0, supply, _ => if supply.isSpent then .ok [] else .error .mismatch
  | _ + 1, supply, [] => if supply.isSpent then .ok [] else .error .mismatch
  | rounds + 1, supply, .char '%' :: points =>
      match points with
      | .char '%' :: rest => do return .char '%' :: (← fillWith length rounds supply rest)
      | _ => do
          let (made, supply, rest) ← place supply points
          match withoutSize rest, supply.args with
          | [], _ => throw .incomplete
          | _, [] => throw .mismatch
          | letter :: rest, value :: args =>
              let shown ← argument made letter (length - rest.length - 1) value
              return shown ++ (← fillWith length rounds { supply with args } rest)
  | rounds + 1, supply, point :: points =>
      return point :: (← fillWith length rounds supply points)

/-- The arguments of a message. A mapping that is alone and has something in it can be asked. -/
def Supply.ofArguments (args : List Value) : Supply where
  entries := match args with
    | [.map (entry :: entries)] => some (entry :: entries)
    | _ => none
  args := args

/-- Fills the places of a template with arguments. -/
def fill (template : Text.Points) (args : List Value) : Except Misfit Text.Points :=
  if args.isEmpty then .ok template
  else fillWith template.length (template.length + 1) (.ofArguments args) template

end ServiceDiscovery.Log.Template
