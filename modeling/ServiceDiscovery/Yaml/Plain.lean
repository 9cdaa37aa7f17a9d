import ServiceDiscovery.Yaml.Character

/-!
Plain scalars. They have no quotes and end where something begins that could not be part of them: a
colon or a comment with a gap before or behind it, a bracket or comma inside brackets, or a line
that is indented less. Line breaks inside fold as they do between quotes.
-/

namespace ServiceDiscovery.Yaml.Plain

/-- What stands behind the last word so far. -/
inductive Gap where
  | none
  | blanks (run : List Char)
  /-- Line breaks, and how far the present line is indented. -/
  | breaks (first : Char) (more : List Char) (column : Nat)

def Gap.text : Gap → List Char
  | .none => []
  | .blanks run => run
  | .breaks first more _ =>
      if first ≠ '\n' then first :: more
      else if more = [] then [' ']
      else more

/-- Was a line break passed? -/
def Gap.broken : Gap → Bool
  | .breaks .. => true
  | _ => false

structure Scalar where
  text : String
  /-- Was a line break passed behind the last word? -/
  broken : Bool
  rest : List Char

/-- Ends a word here? Inside brackets more characters do. -/
def endsWord (flow : Bool) (c : Char) (rest : List Char) : Bool :=
  let colonEnds :=
    atGap rest || (flow && (rest.head?.any fun d => d = ',' || isFlowBracket d))
  isBreak c || isSpaceOrTab c || (c = ':' && colonEnds) ||
    (flow && (c = ',' || c = '?' || isFlowBracket c))

/-- Can no word follow a gap here? Outside of brackets a line must be indented by `indent`. -/
def endsScalar (flow : Bool) (indent : Nat) (gap : Gap) (c : Char) (rest : List Char) : Bool :=
  let shallow := match gap with
    | .breaks _ _ column => !flow && column < indent
    | _ => false
  c = '#' || shallow || endsWord flow c rest

def finish (text : List Char) (gap : Gap) (rest : List Char) : Scalar :=
  { text := String.ofList text.reverse, broken := gap.broken, rest }

/-- Reads on from a gap. The text so far is in reverse. -/
def read (flow : Bool) (indent : Nat) (text : List Char) (gap : Gap) : List Char → Scalar
  | [] => finish text gap []
  | c :: rest =>
      match gap with
      | .none =>
          if isSpace c then read flow indent text (.blanks [c]) rest
          else if isBreak c then
            if atSeparator rest then finish text (.breaks c [] 0) rest
            else read flow indent text (.breaks (normalBreak c) [] 0) rest
          else if endsWord flow c rest then finish text gap (c :: rest)
          else read flow indent (c :: text) .none rest
      | .blanks run =>
          if isSpace c then read flow indent text (.blanks (run ++ [c])) rest
          else if isBreak c then
            if atSeparator rest then finish text (.breaks c [] 0) rest
            else read flow indent text (.breaks (normalBreak c) [] 0) rest
          else if endsScalar flow indent gap c rest then finish text gap (c :: rest)
          else read flow indent (c :: (gap.text.reverse ++ text)) .none rest
      | .breaks first more column =>
          if isSpace c then read flow indent text (.breaks first more (column + 1)) rest
          else if isBreak c then
            let gap := Gap.breaks first (more ++ [normalBreak c]) 0
            if atSeparator rest then finish text gap rest
            else read flow indent text gap rest
          else if endsScalar flow indent gap c rest then finish text gap (c :: rest)
          else read flow indent (c :: (gap.text.reverse ++ text)) .none rest

end ServiceDiscovery.Yaml.Plain
