import ServiceDiscovery.Yaml.Block
import ServiceDiscovery.Yaml.Cursor
import ServiceDiscovery.Yaml.Plain
import ServiceDiscovery.Yaml.Quoted
import ServiceDiscovery.Yaml.Word

/-!
From characters to tokens. Outside of brackets, indentation says where collections begin and end: a
dash or a key further in opens one, and a line further out closes all that reach deeper.

Whether something is a key shows only at the colon behind it. So the place of anything that could be
one is kept, one place for each level of brackets, and if the colon comes in time the tokens for the
key and for its mapping are put in at that place. A key must stand on one line and may not be too
long. Where nothing but a key can stand, its colon must come.

If the text breaks a rule, the tokens up to there are kept, because a reader may stop at them
before. Only those are kept that are certain, which they are not from a place on where a key may
have begun.
-/

namespace ServiceDiscovery.Yaml

/-- A place where a key may have begun. -/
structure PossibleKey where
  /-- How many tokens stand before it. -/
  place : Nat
  required : Bool
  line : Nat
  column : Nat
  index : Nat
  deriving Repr

structure Layout where
  cursor : Cursor
  /-- The tokens so far, the latest first, and their number. -/
  made : List Token := []
  count : Nat := 0
  /-- The columns of the open collections, the innermost first. -/
  columns : List Nat := []
  /-- The possible key of each level of brackets, the innermost first. -/
  keys : List (Option PossibleKey) := [none]
  keyAllowed : Bool := true
  deriving Repr

namespace Layout

/-- The most characters between the beginning of a key and its colon. -/
def keyLimit : Nat := 1024

def inFlow (layout : Layout) : Bool :=
  1 < layout.keys.length

def column (layout : Layout) : Nat :=
  layout.cursor.column

def push (token : Token) (layout : Layout) : Layout :=
  { layout with made := token :: layout.made, count := layout.count + 1 }

/-- Puts in a token at an earlier place. -/
def insert (place : Nat) (token : Token) (layout : Layout) : Layout :=
  let later := layout.count - place
  { layout with
    made := layout.made.take later ++ token :: layout.made.drop later
    count := layout.count + 1 }

def skip (n : Nat) (layout : Layout) : Layout :=
  { layout with cursor := layout.cursor.skip n }

def moveTo (rest : List Char) (layout : Layout) : Layout :=
  { layout with cursor := layout.cursor.moveTo rest }

def allowKey (allowed : Bool) (layout : Layout) : Layout :=
  { layout with keyAllowed := allowed }

/-- Gives up a possible key, unless it must be one. -/
def giveUp : Option PossibleKey → Except Fault (Option PossibleKey)
  | none => .ok none
  | some key => if key.required then .error .malformed else .ok none

/-- Gives up the possible keys that began on another line or too far back. -/
def dropStale (layout : Layout) : Except Fault Layout := do
  let keys ← layout.keys.mapM fun key =>
    match key with
    | none => .ok none
    | some found =>
        if found.line ≠ layout.cursor.line || found.index + keyLimit < layout.cursor.index
        then giveUp key
        else .ok key
  return { layout with keys }

/-- Gives up the possible key of the present level. -/
def forgetKey (layout : Layout) : Except Fault Layout :=
  match layout.keys with
  | [] => .ok layout
  | key :: outer => do return { layout with keys := (← giveUp key) :: outer }

/-- Keeps the present place, where a key may begin. -/
def saveKey (layout : Layout) : Except Fault Layout :=
  if layout.keyAllowed then do
    let layout ← layout.forgetKey
    let key : PossibleKey := {
      place := layout.count
      required := !layout.inFlow && layout.columns.head? = some layout.column
      line := layout.cursor.line
      column := layout.column
      index := layout.cursor.index }
    return { layout with keys := some key :: layout.keys.tail }
  else .ok layout

/-- The collections that stay open at a column, and the number of the others. -/
def closing (column : Nat) : List Nat → List Nat × Nat
  | [] => ([], 0)
  | c :: outer =>
      if column < c then
        let (kept, closed) := closing column outer
        (kept, closed + 1)
      else (c :: outer, 0)

/-- Closes collections, but not inside brackets. -/
def close (columns : List Nat) (closed : Nat) (layout : Layout) : Layout :=
  if layout.inFlow then layout
  else
    { layout with
      columns
      made := List.replicate closed .blockEnd ++ layout.made
      count := layout.count + closed }

/-- Closes the collections that begin further in than the present column. -/
def unwind (layout : Layout) : Layout :=
  let (kept, closed) := closing layout.column layout.columns
  layout.close kept closed

def unwindAll (layout : Layout) : Layout :=
  layout.close [] layout.columns.length

/-- Opens a collection at a column, if that lies further in than all others, with its token at a
place. Brackets open no such collections. -/
def openAt (column place : Nat) (token : Token) (layout : Layout) : Layout :=
  if layout.inFlow || layout.columns.head?.any (column ≤ ·) then layout
  else { layout with columns := column :: layout.columns }.insert place token

/-- Passes over blanks, comments and line breaks; tells whether there was a break. -/
def blanks (comment broken : Bool) : List Char → Bool × List Char
  | [] => (broken, [])
  | c :: rest =>
      if isBreak c then blanks false true rest
      else if comment || isSpace c then blanks comment broken rest
      else if c = '#' then blanks true broken rest
      else (broken, c :: rest)

/-- Moves on to the next token. A key may begin on a new line. -/
def skipBlanks (layout : Layout) : Layout :=
  let layout :=
    if layout.cursor.index = 0 && layout.cursor.rest.head? = some Cursor.byteOrderMark
    then layout.skip 1 else layout
  let (broken, rest) := blanks false false layout.cursor.rest
  (layout.moveTo rest).allowKey (layout.keyAllowed || (broken && !layout.inFlow))

/-- A comment and a line break, which are all that may follow here. -/
def endLine (layout : Layout) : Except Fault Layout :=
  let cursor := layout.cursor.skipComment
  if atLineEnd cursor.rest then .ok { layout with cursor := cursor.skip 1 }
  else .error .malformed

def word {α : Type} (found : Except Fault (α × List Char)) (token : α → Token) (layout : Layout) :
    Except Fault Layout := do
  let (made, rest) ← found
  return (layout.moveTo rest).push (token made)

def directive (layout : Layout) : Except Fault Layout := do
  let layout ← layout.unwindAll.forgetKey
  let layout := layout.allowKey false
  let layout ← layout.word (Word.directive (layout.cursor.rest.drop 1)) .directive
  layout.endLine

def documentMark (token : Token) (layout : Layout) : Except Fault Layout := do
  let layout ← layout.unwindAll.forgetKey
  return ((layout.allowKey false).skip 3).push token

/-- The most brackets that can be open. A document with more is refused long before they are read.
-/
def bracketLimit : Nat := 2000

/-- A bracket opens, which may be the beginning of a key. -/
def openBracket (token : Token) (layout : Layout) : Except Fault Layout := do
  if bracketLimit < layout.keys.length then throw .tooDeep
  let layout ← layout.saveKey
  return (({ layout with keys := none :: layout.keys }.allowKey true).skip 1).push token

/-- A bracket closes. One that was not open breaks the rules wherever it stands. -/
def closeBracket (token : Token) (layout : Layout) : Except Fault Layout := do
  let layout ← layout.forgetKey
  if layout.inFlow then
    return (({ layout with keys := layout.keys.tail }.allowKey false).skip 1).push token
  else throw .malformed

def flowEntry (layout : Layout) : Except Fault Layout := do
  let layout ← (layout.allowKey true).forgetKey
  return (layout.skip 1).push .flowEntry

def blockEntry (layout : Layout) : Except Fault Layout := do
  if !layout.inFlow && !layout.keyAllowed then throw .malformed
  let layout := layout.openAt layout.column layout.count .blockSequenceStart
  let layout ← (layout.allowKey true).forgetKey
  return (layout.skip 1).push .blockEntry

/-- A key with a question mark in front. -/
def markedKey (layout : Layout) : Except Fault Layout := do
  if !layout.inFlow && !layout.keyAllowed then throw .malformed
  let layout := layout.openAt layout.column layout.count .blockMappingStart
  let layout ← (layout.allowKey (!layout.inFlow)).forgetKey
  return (layout.skip 1).push .key

/-- A colon. If a key may have begun, it did. -/
def value (layout : Layout) : Except Fault Layout := do
  match layout.keys with
  | some key :: outer =>
      let layout := { layout with keys := none :: outer }.insert key.place .key
      let layout := layout.openAt key.column key.place .blockMappingStart
      return ((layout.allowKey false).skip 1).push .value
  | _ =>
      if !layout.inFlow && !layout.keyAllowed then throw .malformed
      let layout := layout.openAt layout.column layout.count .blockMappingStart
      let layout ← (layout.allowKey (!layout.inFlow)).forgetKey
      return (layout.skip 1).push .value

/-- An anchor, alias or tag, which may be the beginning of a key. -/
def sign {α : Type} (read : List Char → Option (α × List Char)) (token : α → Token)
    (layout : Layout) : Except Fault Layout := do
  let layout ← layout.saveKey
  (layout.allowKey false).word (Word.orMalformed (read layout.cursor.rest)) token

def blockScalar (folded : Bool) (layout : Layout) : Except Fault Layout := do
  let layout ← (layout.allowKey true).forgetKey
  match Block.header? (layout.cursor.rest.drop 1) with
  | none => throw .malformed
  | some (header, rest) =>
      let layout ← (layout.moveTo rest).endLine
      let indent := (layout.columns.head?.map (· + 1)).getD 0
      let (text, rest) := Block.scalar folded header indent layout.cursor.rest
      return (layout.moveTo rest).push (.scalar (.ofString text) false)

def quotedScalar (double : Bool) (layout : Layout) : Except Fault Layout := do
  let layout ← layout.saveKey
  let (text, rest) ← Quoted.read double [] .none none (layout.cursor.rest.drop 1)
  return ((layout.allowKey false).moveTo rest).push (.scalar text false)

/-- A plain scalar. If it ends behind a line break, a key may follow. -/
def plainScalar (layout : Layout) : Except Fault Layout := do
  let layout ← layout.saveKey
  let indent := (layout.columns.head?.map (· + 1)).getD 0
  let scalar := Plain.read layout.inFlow indent [] .none layout.cursor.rest
  let layout := (layout.moveTo scalar.rest).allowKey scalar.broken
  return layout.push (.scalar (.ofString scalar.text) true)

/-- Characters that begin no plain scalar, or only with something right behind them. -/
def indicators : List Char :=
  "-?:,[]\x7b\x7d#&*!|>'\"%@\x60".toList

def beginsPlain (flow : Bool) (c : Char) (rest : List Char) : Bool :=
  (!isBreak c && !isSpaceOrTab c && !indicators.contains c) ||
    (!atGap rest && (c = '-' || (!flow && (c = '?' || c = ':'))))

/-- Reads one token, which begins with the character at hand. -/
def token (c : Char) (rest : List Char) (layout : Layout) : Except Fault Layout :=
  let flow := layout.inFlow
  if c = '%' && layout.column = 0 then layout.directive
  else if layout.column = 0 && atSeparator (c :: rest) then
    layout.documentMark (if c = '-' then .documentStart else .documentEnd)
  else if c = '[' then layout.openBracket .flowSequenceStart
  else if c = '\x7b' then layout.openBracket .flowMappingStart
  else if c = ']' then layout.closeBracket .flowSequenceEnd
  else if c = '\x7d' then layout.closeBracket .flowMappingEnd
  else if c = ',' then layout.flowEntry
  else if c = '-' && atGap rest then layout.blockEntry
  else if c = '?' && (flow || atGap rest) then layout.markedKey
  else if c = ':' && (flow || atGap rest) then layout.value
  else if c = '*' then layout.sign (fun cs => Word.anchor? (cs.drop 1)) .alias
  else if c = '&' then layout.sign (fun cs => Word.anchor? (cs.drop 1)) .anchor
  else if c = '!' then layout.sign Word.tag? .tag
  else if c = '|' && !flow then layout.blockScalar false
  else if c = '>' && !flow then layout.blockScalar true
  else if c = '\'' then layout.quotedScalar false
  else if c = '"' then layout.quotedScalar true
  else if beginsPlain flow c rest then layout.plainScalar
  else .error .malformed

/-- The tokens of a text, and what broke off the reading if something did. -/
structure Tokens where
  tokens : List Token
  fault : Option Fault

/-- The tokens that are certain: behind a place where a key may still have begun, none is. -/
def certain (layout : Layout) : List Token :=
  let places := layout.keys.filterMap fun key => key.map (·.place)
  layout.made.reverse.take (places.foldl min layout.count)

def finish (layout : Layout) : Tokens :=
  { tokens := layout.made.reverse, fault := none }

/-- Stops at a fault. What it broke off may have been the beginning of a key itself, and if so, it
took the place of the one before. -/
def stop (fault : Fault) (layout : Layout) : Tokens :=
  { tokens := (layout.saveKey.toOption.getD layout).certain, fault := some fault }

def read : Nat → Layout → Tokens
  | 0, layout => layout.finish
  | more + 1, layout =>
      let layout := layout.skipBlanks
      match layout.dropStale with
      | .error fault => layout.stop fault
      | .ok layout =>
          let layout := layout.unwind
          match layout.cursor.rest with
          | [] =>
              match layout.unwindAll.forgetKey with
              | .error fault => layout.stop fault
              | .ok layout => layout.finish
          | c :: rest =>
              match layout.token c rest with
              | .error fault => layout.stop fault
              | .ok layout => read more layout

end Layout

/-- The tokens of a text. Each takes up a character at least, so there are no more tokens to read
than characters, and one more round for the end. -/
def Layout.tokens (cs : List Char) : Layout.Tokens :=
  Layout.read (cs.length + 1) { cursor := { rest := cs } }

end ServiceDiscovery.Yaml
