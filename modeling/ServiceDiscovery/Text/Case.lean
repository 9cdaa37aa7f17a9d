import ServiceDiscovery.Text.CaseTable
import ServiceDiscovery.Text.Points

/-!
Lower case for all of Unicode. Almost every character moves on its own. The two that do not are
the capital I with a dot, which keeps its dot as a combining mark, and the capital sigma, which
takes its final form after a letter that no further letter follows.
-/

namespace ServiceDiscovery.Text

def isCaseIgnorable (c : Char) : Bool :=
  caseIgnorableRanges.has c.toNat

def isCased (c : Char) : Bool :=
  casedRanges.has c.toNat

/-- Is the nearest character that is not skipped one with case? -/
def nextIsCased (cs : List Char) : Bool :=
  match cs.dropWhile isCaseIgnorable with
  | [] => false
  | c :: _ => isCased c

/-- The lower case of an ASCII letter; other characters stay. -/
def lowerAscii (c : Char) : Char :=
  if 'A' ≤ c && c ≤ 'Z' then Char.ofNat (c.toNat + 32) else c

/-- Does a run move this code point? -/
def CaseRun.moves (run : CaseRun) (code : Nat) : Bool :=
  run.first ≤ code && code ≤ run.last && (code - run.first) % run.stride == 0

/-- The lower case of a character that does not depend on its neighbours. -/
def lowerChar (c : Char) : Char :=
  if c.toNat < 0x80 then lowerAscii c
  else match lowerRuns.find? (·.moves c.toNat) with
    | some run => Char.ofNat (c.toNat + run.shift).toNat
    | none => c

/-- The lower case of a character, given what stands before it, in reverse order, and behind it. -/
def lowerAmong (before behind : List Char) (c : Char) : List Char :=
  if c = 'Σ' then [if nextIsCased before && !nextIsCased behind then 'ς' else 'σ']
  else if c = 'İ' then ['i', '\u0307']
  else [lowerChar c]

/-- Lowers a text, given what stands before it in reverse order. -/
def lowerAfter (before : List Char) : List Char → List Char
  | [] => []
  | c :: rest => lowerAmong before rest c ++ lowerAfter (c :: before) rest

def lower (s : String) : String :=
  String.ofList (lowerAfter [] s.toList)

/-- The lower case of a point among others. Halves have no case. -/
def Point.lowerAmong (before : List Char) (behind : Points) : Point → Points
  | .char c => .ofChars (Text.lowerAmong before behind.shownChars c)
  | .half h => [.half h]

/-- Lowers points, given what stands before them in reverse order. -/
def Points.lowerAfter (before : List Char) : Points → Points
  | [] => []
  | point :: rest =>
      point.lowerAmong before rest ++ Points.lowerAfter (point.shown :: before) rest

/-- The lower case of a text that need not be well formed. -/
def Points.lower (points : Points) : Points :=
  Points.lowerAfter [] points

/-- The upper case of a character where that is a single ASCII letter; any other stays as it is,
so a text equals an ASCII word in capitals exactly when its full upper case does, as long as no
double letter of the word has a ligature. -/
def upperToAscii (c : Char) : Char :=
  if 'a' ≤ c && c ≤ 'z' then Char.ofNat (c.toNat - 32)
  else if c = 'ı' then 'I'
  else if c = 'ſ' then 'S'
  else c

end ServiceDiscovery.Text
