import ServiceDiscovery.Yaml.Character

/-!
Block scalars: lines that are all indented by the same amount, kept as they are or folded. A header
says which, how far the lines are indented if the first line is not to tell, and what becomes of the
line breaks at the end.
-/

namespace ServiceDiscovery.Yaml.Block

/-- What becomes of the line breaks at the end. -/
inductive Chomping where
  | strip
  /-- The last line keeps its break. -/
  | clip
  | keep
  deriving DecidableEq, Repr

structure Header where
  chomping : Chomping := .clip
  /-- How far the lines are indented beyond the surroundings. -/
  indentation : Option Nat := none

def chomping? : Char → Option Chomping
  | '+' => some .keep
  | '-' => some .strip
  | _ => none

/-- An indentation of zero is refused. -/
def indentation? (c : Char) : Option Nat :=
  if '1' ≤ c && c ≤ '9' then some (c.toNat - '0'.toNat) else none

/-- Reads the marks behind the sign of the scalar, in either order. -/
def header? (cs : List Char) : Option (Header × List Char) :=
  let (header, rest) : Header × List Char :=
    match cs with
    | c :: d :: rest =>
        match chomping? c, indentation? c, chomping? d, indentation? d with
        | some chomping, _, _, some n => ({ chomping, indentation := some n }, rest)
        | _, some n, some chomping, _ => ({ chomping, indentation := some n }, rest)
        | some chomping, _, _, _ => ({ chomping }, d :: rest)
        | _, some n, _, _ => ({ indentation := some n }, d :: rest)
        | _, _, _, _ => ({}, cs)
    | [c] =>
        match chomping? c, indentation? c with
        | some chomping, _ => ({ chomping }, [])
        | _, some n => ({ indentation := some n }, [])
        | _, _ => ({}, cs)
    | [] => ({}, [])
  if atNarrowGap rest then some (header, rest) else none

/-- Empty lines, and the column that is reached behind them. -/
structure Opening where
  breaks : List Char
  column : Nat
  /-- The deepest column of all these lines. -/
  deepest : Nat
  rest : List Char

/-- Passes over blanks and line breaks in front of the first line. -/
def opening (breaks : List Char) (column deepest : Nat) : List Char → Opening
  | [] => { breaks, column, deepest, rest := [] }
  | c :: rest =>
      if isSpace c then opening breaks (column + 1) (max deepest (column + 1)) rest
      else if isBreak c then opening (breaks ++ [normalBreak c]) 0 deepest rest
      else { breaks, column, deepest, rest := c :: rest }

/-- What was read of a scalar. The text is in reverse, and all breaks behind it are held back. -/
structure Lines where
  text : List Char := []
  /-- The break of the last line that has text. -/
  lineBreak : Option Char := none
  /-- The breaks of empty lines behind it. -/
  breaks : List Char := []
  /-- Did the last line with text begin with a visible character? -/
  visible : Bool := false
  inLine : Bool := false
  column : Nat := 0

/-- Adds what stands between two lines with text. One break between visible beginnings folds. -/
def Lines.join (folded visible : Bool) (lines : Lines) : List Char :=
  let between : List Char :=
    match lines.lineBreak with
    | none => []
    | some c =>
        if folded && c = '\n' && lines.visible && visible then
          (if lines.breaks = [] then [' '] else [])
        else [c]
  lines.breaks.reverse ++ between.reverse ++ lines.text

/-- Reads lines that are indented by `indent`, up to the first that is not. -/
def read (folded : Bool) (indent : Nat) (lines : Lines) : List Char → Lines × List Char
  | [] => (lines, [])
  | c :: rest =>
      if lines.inLine then
        if isBreak c then
          read folded indent
            { lines with
              lineBreak := some (normalBreak c), breaks := [], inLine := false, column := 0 } rest
        else read folded indent { lines with text := c :: lines.text } rest
      else if isSpace c && lines.column < indent then
        read folded indent { lines with column := lines.column + 1 } rest
      else if isBreak c then
        read folded indent
          { lines with breaks := lines.breaks ++ [normalBreak c], column := 0 } rest
      else if lines.column = indent then
        let visible := !isSpaceOrTab c
        read folded indent
          { text := c :: lines.join folded visible, visible, inLine := true } rest
      else (lines, c :: rest)

/-- The text of a scalar whose end was found. -/
def Lines.close (chomping : Chomping) (lines : Lines) : String :=
  let last := lines.lineBreak.toList
  let ending : List Char :=
    match chomping with
    | .strip => []
    | .clip => last
    | .keep => last ++ lines.breaks
  String.ofList (lines.text.reverse ++ ending)

/-- Reads a scalar from the line behind its header, inside a collection that is indented by
`indent - 1`. -/
def scalar (folded : Bool) (header : Header) (indent : Nat) (cs : List Char) :
    String × List Char :=
  let least := max indent 1
  let (lines, rest) :=
    match header.indentation with
    | some n => read folded (least + n - 1) {} cs
    | none =>
        let start := opening [] 0 0 cs
        read folded (max least start.deepest)
          { breaks := start.breaks, column := start.column } start.rest
  (lines.close header.chomping, rest)

end ServiceDiscovery.Yaml.Block
