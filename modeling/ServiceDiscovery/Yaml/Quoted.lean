import ServiceDiscovery.Text.Points
import ServiceDiscovery.Yaml.Character
import ServiceDiscovery.Yaml.Fault

/-!
Scalars in quotes. Between single quotes a quote is written twice and nothing else is special.
Between double quotes a backslash begins an escape. In both, a line break folds into a space, and
each further one stays; blanks around line breaks are dropped.
-/

namespace ServiceDiscovery.Yaml.Quoted

/-- Characters written by a backslash and one character. -/
def escapes : List (Char × Char) :=
  [('0', '\x00'), ('a', '\x07'), ('b', '\x08'), ('t', '\t'), ('\t', '\t'), ('n', '\n'),
    ('v', '\x0B'), ('f', '\x0C'), ('r', '\r'), ('e', '\x1B'), (' ', ' '), ('"', '"'),
    ('\\', '\\'), ('/', '/'), ('N', '\u0085'), ('_', '\u00A0'), ('L', '\u2028'), ('P', '\u2029')]

/-- Letters that announce hexadecimal digits, with the number of digits. -/
def hexLengths : List (Char × Nat) :=
  [('x', 2), ('u', 4), ('U', 8)]

/-- What stands between two visible characters. It shows once the second of them is there. -/
inductive Gap where
  | blanks (run : List Char)
  /-- Line breaks. The first is gone if a backslash stood before it. -/
  | breaks (escaped : Bool) (first : Char) (more : List Char)

def Gap.text : Gap → List Char
  | .blanks run => run
  | .breaks true _ more => more
  | .breaks false first more =>
      if first ≠ '\n' then first :: more
      else if more = [] then [' ']
      else more

def Gap.none : Gap := .blanks []

/-- Text with a gap behind it, in reverse. -/
def close (gap : Gap) (text : Text.Points) : Text.Points :=
  .ofChars gap.text.reverse ++ text

def point (code : Nat) : Except Fault Text.Point :=
  if 0x10FFFF < code then .error (.noCharacter code) else .ok (.ofCode code)

/-- Reads up to the closing quote. The text so far is in reverse; `hex` tells how many digits of an
escape are still to come and what the digits so far are worth. -/
def read (double : Bool) (text : Text.Points) (gap : Gap) (hex : Option (Nat × Nat)) :
    List Char → Except Fault (Text.Points × List Char)
  | [] => .error .malformed
  | c :: rest =>
      match hex with
      | some (left, code) =>
          match hexValue? c with
          | none => .error .malformed
          | some digit =>
              let code := code * 16 + digit
              if left ≤ 1 then do
                let made ← point code
                read double (made :: text) .none none rest
              else read double text .none (some (left - 1, code)) rest
      | none =>
          if isBreak c then
            if atSeparator rest then .error .malformed
            else
              match gap with
              | .blanks _ => read double text (.breaks false (normalBreak c) []) none rest
              | .breaks escaped first more =>
                  read double text (.breaks escaped first (more ++ [normalBreak c])) none rest
          else if isSpaceOrTab c then
            match gap with
            | .blanks run => read double text (.blanks (run ++ [c])) none rest
            | .breaks .. => read double text gap none rest
          else
            let text := close gap text
            if double && c = '\\' then
              match rest with
              | [] => .error .malformed
              | d :: rest =>
                  match escapes.lookup d, hexLengths.lookup d with
                  | some made, _ => read double (.char made :: text) .none none rest
                  | none, some length => read double text .none (some (length, 0)) rest
                  | none, none =>
                      if isBreak d && !atSeparator rest then
                        read double text (.breaks true (normalBreak d) []) none rest
                      else .error .malformed
            else if double && c = '"' then .ok (text.reverse, rest)
            else if !double && c = '\'' then
              match rest with
              | '\'' :: rest => read double (.char '\'' :: text) .none none rest
              | _ => .ok (text.reverse, rest)
            else read double (.char c :: text) .none none rest

end ServiceDiscovery.Yaml.Quoted
