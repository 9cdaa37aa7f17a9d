import ServiceDiscovery.Yaml.Character

/-!
A place in a text: what is left to read, with the line and the column that have been reached.
Scalars are read from the list of characters alone, and the cursor is moved up to where they end.
-/

namespace ServiceDiscovery.Yaml

structure Cursor where
  rest : List Char
  line : Nat := 0
  column : Nat := 0
  /-- How many characters were passed. -/
  index : Nat := 0
  deriving Repr

namespace Cursor

/-- A mark of the byte order takes up no column. -/
def byteOrderMark : Char := '\uFEFF'

def advance (cursor : Cursor) : Cursor :=
  match cursor.rest with
  | [] => cursor
  | c :: rest =>
      if isBreak c then
        { rest, line := cursor.line + 1, column := 0, index := cursor.index + 1 }
      else
        { cursor with
          rest
          column := if c = byteOrderMark then cursor.column else cursor.column + 1
          index := cursor.index + 1 }

def skip : Nat → Cursor → Cursor
  | 0, cursor => cursor
  | n + 1, cursor => skip n cursor.advance

/-- Moves up to a tail of what is left. -/
def moveTo (rest : List Char) (cursor : Cursor) : Cursor :=
  cursor.skip (cursor.rest.length - rest.length)

def skipWhile (keep : Char → Bool) (cursor : Cursor) : Cursor :=
  cursor.skip (cursor.rest.takeWhile keep).length

/-- What is behind blanks and a comment, up to the end of the line. -/
def skipComment (cursor : Cursor) : Cursor :=
  let cursor := cursor.skipWhile isSpace
  match cursor.rest with
  | '#' :: _ => cursor.skipWhile fun c => !isBreak c
  | _ => cursor

end Cursor

end ServiceDiscovery.Yaml
