import ServiceDiscovery.Text.Utf8
import ServiceDiscovery.Yaml.Character
import ServiceDiscovery.Yaml.Fault
import ServiceDiscovery.Yaml.Token

/-!
Words with a sign in front: anchors and aliases, tags, and directives. Each reader takes the list of
characters behind the sign and gives the word with what follows it.
-/

namespace ServiceDiscovery.Yaml.Word

/-- The longest run of word characters, which must not be empty. -/
def name? (cs : List Char) : Option (String × List Char) :=
  let word := cs.takeWhile isWordChar
  if word = [] then none else some (String.ofList word, cs.dropWhile isWordChar)

/-- Characters other than gaps that may follow an anchor or an alias. -/
def afterAnchor : List Char :=
  ['?', ':', ',', ']', '\x7d', '%', '@', '\x60']

def anchor? (cs : List Char) : Option (String × List Char) := do
  let (name, rest) ← name? cs
  if atGap rest || rest.head?.any afterAnchor.contains then some (name, rest) else none

/-- Characters that a tag may be made of besides letters and digits. -/
def tagSigns : List Char :=
  "-;/?:@&=+$,_.!~*'()[]%".toList

def isTagChar (c : Char) : Bool :=
  isWordChar c || tagSigns.contains c

/-- Reads the characters of a tag, of which those written as bytes in hexadecimal are gathered until
the run of bytes ends. -/
def tagChars (text : List Char) (bytes : List UInt8) : List Char → Option (List Char × List Char)
  | '%' :: high :: low :: rest =>
      match hexNumber? [high, low] with
      | some byte => tagChars text (bytes ++ [UInt8.ofNat byte]) rest
      | none => none
  | cs => do
      let text ← if bytes = [] then some text
        else (Text.Utf8.decode? bytes).map fun decoded => decoded.toList.reverse ++ text
      match cs with
      | c :: rest =>
          if c = '%' then none
          else if isTagChar c then tagChars (c :: text) [] rest
          else some (text.reverse, cs)
      | [] => some (text.reverse, [])

/-- A tag without its handle, which must not be empty. -/
def suffix? (cs : List Char) : Option (String × List Char) := do
  let (text, rest) ← tagChars [] [] cs
  if cs.head?.any isTagChar then some (String.ofList text, rest) else none

/-- A handle: one exclamation mark, two, or a word between two. -/
def handle? : List Char → Option (String × List Char)
  | '!' :: rest =>
      match rest with
      | ' ' :: _ => some ("!", rest)
      | _ =>
          match rest.dropWhile isWordChar with
          | '!' :: behind =>
              some ("!" ++ String.ofList (rest.takeWhile isWordChar) ++ "!", behind)
          | _ => none
  | _ => none

def tag? (cs : List Char) : Option (TagWord × List Char) := do
  let behind := cs.drop 1
  let (word, rest) ← match behind with
    | '<' :: uri =>
        match suffix? uri with
        | some (suffix, '>' :: rest) => some ({ handle := none, suffix }, rest)
        | _ => none
    | _ =>
        if atGap behind then some ({ handle := none, suffix := "!" }, behind)
        else
          let word := behind.takeWhile fun c => !isBreak c && !isSpace c
          let (handle, rest) ←
            if word.contains '!' then handle? cs else some ("!", behind)
          let (suffix, rest) ← suffix? rest
          some ({ handle := some handle, suffix }, rest)
  if atNarrowGap rest then some (word, rest) else none

def orMalformed {α : Type} (found : Option α) : Except Fault α :=
  found.elim (.error .malformed) .ok

/-- A part of a version, which may not have more digits than any number. -/
def digits (cs : List Char) : Except Fault (Nat × List Char) :=
  let found := cs.takeWhile isAsciiDigit
  if found = [] then .error .malformed
  else if Number.digitLimit < found.length then
    .error (.number (.tooManyDigits found.length))
  else .ok (Number.ofDigits found, cs.dropWhile isAsciiDigit)

def version (cs : List Char) : Except Fault (Directive × List Char) := do
  let (major, rest) ← digits (cs.dropWhile isSpace)
  match rest with
  | '.' :: rest =>
      let (_, rest) ← digits rest
      if atNarrowGap rest then return (.version major, rest) else throw .malformed
  | _ => throw .malformed

def tagHandle? (cs : List Char) : Option (Directive × List Char) := do
  let (handle, rest) ← handle? (cs.dropWhile isSpace)
  if rest.head? = some ' ' then
    let (pre, rest) ← suffix? (rest.dropWhile isSpace)
    if atNarrowGap rest then some (.tagHandle handle pre, rest) else none
  else none

/-- A directive from the character behind the percent sign on. -/
def directive (cs : List Char) : Except Fault (Directive × List Char) := do
  let (name, rest) ← orMalformed (name? cs)
  if !atNarrowGap rest then throw .malformed
  else if name = "YAML" then version rest
  else if name = "TAG" then orMalformed (tagHandle? rest)
  else return (.other, rest.dropWhile fun c => !isBreak c)

end ServiceDiscovery.Yaml.Word
