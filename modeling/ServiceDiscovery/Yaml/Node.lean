import ServiceDiscovery.Yaml.Layout
import ServiceDiscovery.Yaml.Tag

/-!
The nodes of a document and how they hang together. Nodes are numbered in the order in which they
begin, and collections hold the numbers of what is in them. An alias stands for the number of the
node it names, so one node may be in several places, even inside itself.

The grammar is read by functions that follow it rule by rule. Each takes the number of rules that
may still be entered, which is set so high that no stream of tokens comes near it.
-/

namespace ServiceDiscovery.Yaml

inductive Node where
  | scalar (tag : Tag) (text : Text.Points)
  | sequence (tag : Tag) (items : List Nat)
  | mapping (tag : Tag) (entries : List (Nat × Nat))
  deriving DecidableEq, Repr

/-- The nodes of a document by their numbers. -/
abbrev Nodes := Array Node

namespace Node

def tag : Node → Tag
  | .scalar tag _ | .sequence tag _ | .mapping tag _ => tag

def withTag (tag : Tag) : Node → Node
  | .scalar _ text => .scalar tag text
  | .sequence _ items => .sequence tag items
  | .mapping _ entries => .mapping tag entries

/-- What is left to read, and the nodes and names that are known. -/
structure Reader where
  tokens : List Token
  /-- What broke off the tokens. -/
  fault : Option Fault
  nodes : Nodes := #[]
  anchors : List (String × Nat) := []
  handles : List (String × String) := []
  /-- How many collections the next node lies in. -/
  depth : Nat := 0

abbrev Reading := StateT Reader (Except Fault)

/-- Something else should stand here, or the tokens broke off. -/
def unexpected {α : Type} : Reading α := do
  let reader ← get
  match reader.tokens, reader.fault with
  | [], some fault => throw fault
  | _, _ => throw .malformed

/-- The token at hand. Behind the last one there is none; if the tokens broke off, nothing can be
said. -/
def peek : Reading (Option Token) := do
  let reader ← get
  match reader.tokens, reader.fault with
  | [], some fault => throw fault
  | tokens, _ => return tokens.head?

def next : Reading Unit :=
  modify fun reader => { reader with tokens := reader.tokens.tail }

/-- Takes a token if it is the one at hand. -/
def take (token : Token) : Reading Bool := do
  if (← peek) = some token then
    next
    return true
  else return false

def at? (tokens : List Token) : Reading Bool := do
  return (← peek).any tokens.contains

def expect (token : Token) : Reading Unit := do
  if !(← take token) then unexpected

/-! Names. -/

def nameNode (anchor : Option String) (number : Nat) : Reading Unit :=
  modify fun reader => { reader with
    anchors := (anchor.toList.map fun name => (name, number)) ++ reader.anchors }

/-- A name may be given once only. -/
def checkName (anchor : Option String) : Reading Unit := do
  match anchor with
  | some name => if ((← get).anchors.lookup name).isSome then throw .malformed
  | none => return

/-- Gives a node a number, and a name if there is one for it. -/
def add (anchor : Option String) (node : Node) : Reading Nat := do
  let number := (← get).nodes.size
  modify fun reader => { reader with nodes := reader.nodes.push node }
  nameNode anchor number
  return number

/-- The node where nothing is written. -/
def addEmpty : Reading Nat :=
  add none (.scalar .null [])

/-- The most collections that may lie in one another. -/
def depthLimit : Nat := 490

/-- Reads a collection, which has its number and name before what is in it. -/
def collection (anchor : Option String) (start : Node) (read : Reading Node) : Reading Nat := do
  let number ← add anchor start
  let depth := (← get).depth + 1
  if depthLimit < depth then throw .tooDeep
  modify fun reader => { reader with depth }
  let made ← read
  modify fun reader => { reader with
    nodes := reader.nodes.setIfInBounds number made
    depth := depth - 1 }
  return number

/-- The name of the tag that is written. -/
def fullTag (word : TagWord) : Reading String := do
  match word.handle with
  | none => return word.suffix
  | some handle =>
      match (← get).handles.lookup handle with
      | some pre => return pre ++ word.suffix
      | none => throw .malformed

/-- Tag and anchor in front of a node, in either order. -/
structure Properties where
  anchor : Option String := none
  tag : Option String := none

def properties : Reading Properties := do
  match ← peek with
  | some (.anchor name) =>
      next
      match ← peek with
      | some (.tag word) =>
          next
          return { anchor := name, tag := ← fullTag word }
      | _ => return { anchor := name }
  | some (.tag word) =>
      next
      match ← peek with
      | some (.anchor name) =>
          next
          return { anchor := name, tag := ← fullTag word }
      | _ => return { tag := ← fullTag word }
  | _ => return {}

/-- Does the tag leave it to the node what it is? -/
def isOpen (tag : Option String) : Bool :=
  tag = none || tag = some "!"

def collectionTag (tag : Option String) (usual : Tag) : Tag :=
  match tag with
  | some name => if isOpen tag then usual else Tag.ofName name
  | none => usual

/-- Only plain scalars without a tag, and all that leave it open, are judged by their spelling. -/
def scalarTag (tag : Option String) (text : Text.Points) (plain : Bool) : Tag :=
  let spelled := (text.string?.map Tag.ofSpelling).getD .text
  match tag with
  | none => if plain then spelled else .text
  | some name => if isOpen tag then spelled else Tag.ofName name

def Properties.scalar (found : Properties) (text : Text.Points) (plain : Bool) : Reading Nat :=
  add found.anchor (.scalar (scalarTag found.tag text plain) text)

/-- A node of which nothing is written but its properties. -/
def Properties.bare (found : Properties) : Reading Nat :=
  if found.anchor.isSome || found.tag.isSome then found.scalar [] true else unexpected

/-- Where a node stands, which says what it may be. -/
inductive Place where
  | flow
  | block
  /-- In a mapping outside of brackets, where a sequence need not be indented. -/
  | entry
  deriving DecidableEq, Repr

mutual

def node : Nat → Place → Reading Nat
  | 0, _ => throw .malformed
  | more + 1, place => do
      if let some (.alias name) ← peek then
        next
        match (← get).anchors.lookup name with
        | some number => return number
        | none => throw .malformed
      let found ← properties
      let items (read : Reading (List Nat)) : Reading Nat :=
        let made := Node.sequence (collectionTag found.tag .sequence)
        collection found.anchor (made []) do return made (← read)
      let entries (read : Reading (List (Nat × Nat))) : Reading Nat :=
        let made := Node.mapping (collectionTag found.tag .mapping)
        collection found.anchor (made []) do return made (← read)
      let token ← peek
      checkName found.anchor
      match token with
      | some (.scalar text plain) =>
          next
          found.scalar text plain
      | some .flowSequenceStart =>
          next
          items do
            if ← take .flowSequenceEnd then return [] else flowItems more
      | some .flowMappingStart =>
          next
          entries do
            if ← take .flowMappingEnd then return [] else flowEntries more
      | some .blockEntry =>
          if place = .entry then items (looseItems more) else found.bare
      | some .blockSequenceStart =>
          if place = .flow then found.bare
          else
            next
            items (blockItems more)
      | some .blockMappingStart =>
          if place = .flow then found.bare
          else
            next
            entries (blockEntries more)
      | _ => found.bare

/-- A node, unless one of these tokens shows that none is written. -/
def nodeUnless : Nat → Place → List Token → Reading Nat
  | 0, _, _ => throw .malformed
  | more + 1, place, ends => do
      if ← at? ends then addEmpty else node more place

def blockItems : Nat → Reading (List Nat)
  | 0 => throw .malformed
  | more + 1 => do
      if ← take .blockEntry then
        let item ← nodeUnless more .block [.blockEntry, .blockEnd]
        return item :: (← blockItems more)
      else
        expect .blockEnd
        return []

/-- The items of a sequence that is not indented. Whatever else comes ends it. -/
def looseItems : Nat → Reading (List Nat)
  | 0 => throw .malformed
  | more + 1 => do
      if ← take .blockEntry then
        let item ← nodeUnless more .block [.blockEntry, .key, .value, .blockEnd]
        return item :: (← looseItems more)
      else return []

/-- The value of a key, if there is a colon. -/
def entryValue : Nat → Place → List Token → Reading Nat
  | 0, _, _ => throw .malformed
  | more + 1, place, ends => do
      if ← take .value then nodeUnless more place ends else addEmpty

def blockEntries : Nat → Reading (List (Nat × Nat))
  | 0 => throw .malformed
  | more + 1 => do
      if ← take .key then
        let ends : List Token := [.key, .value, .blockEnd]
        let key ← nodeUnless more .entry ends
        let value ← entryValue more .entry ends
        return (key, value) :: (← blockEntries more)
      else
        expect .blockEnd
        return []

/-- A sequence in brackets, from an item on. A key makes an item a mapping of one entry. -/
def flowItems : Nat → Reading (List Nat)
  | 0 => throw .malformed
  | more + 1 => do
      let item ← if ← take .key then
          collection none (.mapping .mapping []) do
            let key ← nodeUnless more .flow [.value, .flowEntry, .flowSequenceEnd]
            let value ← entryValue more .flow [.flowEntry, .flowSequenceEnd]
            return .mapping .mapping [(key, value)]
        else node more .flow
      if ← take .flowSequenceEnd then return [item]
      else
        expect .flowEntry
        if ← take .flowSequenceEnd then return [item]
        else return item :: (← flowItems more)

/-- A mapping in braces, from an entry on. -/
def flowEntries : Nat → Reading (List (Nat × Nat))
  | 0 => throw .malformed
  | more + 1 => do
      let entry ← if ← take .key then do
          let key ← nodeUnless more .flow [.value, .flowEntry, .flowMappingEnd]
          let value ← entryValue more .flow [.flowEntry, .flowMappingEnd]
          pure (key, value)
        else do
          let key ← node more .flow
          pure (key, ← addEmpty)
      if ← take .flowMappingEnd then return [entry]
      else
        expect .flowEntry
        if ← take .flowMappingEnd then return [entry]
        else return entry :: (← flowEntries more)

end

/-! Documents. -/

/-- The handles that are known without a directive. -/
def commonHandles : List (String × String) :=
  [("!", "!"), ("!!", Tag.domain)]

structure Directives where
  version : Bool := false
  handles : List (String × String) := []

def directives : Nat → Directives → Reading Directives
  | 0, found => return found
  | more + 1, found => do
      match ← peek with
      | some (.directive directive) =>
          next
          match directive with
          | .version major =>
              if found.version || major ≠ 1 then throw .malformed
              directives more { found with version := true }
          | .tagHandle handle pre =>
              if (found.handles.lookup handle).isSome then throw .malformed
              directives more { found with handles := (handle, pre) :: found.handles }
          | .other => directives more found
      | _ => return found

/-- Passes over marks for the end of a document. -/
def documentEnds : Nat → Reading Unit
  | 0 => return
  | more + 1 => do
      if ← take .documentEnd then documentEnds more

/-- A document that is announced by directives or by its mark. -/
def explicitDocument (limit : Nat) : Reading Nat := do
  let found ← directives limit {}
  expect .documentStart
  modify fun reader => { reader with handles := found.handles ++ commonHandles }
  match ← peek with
  | some (.directive _) | some .documentStart | some .documentEnd | none => addEmpty
  | _ => node limit .block

def isAnnounced : Option Token → Bool
  | some (.directive _) | some .documentStart => true
  | _ => false

/-- The root of the one document of a stream, or none if the stream is empty. Another document is
looked at up to its mark before it is refused. -/
def document (limit : Nat) : Reading (Option Nat) := do
  match ← peek with
  | none => return none
  | token =>
      let root ← if isAnnounced token then explicitDocument limit
        else do
          modify fun reader => { reader with handles := commonHandles }
          node limit .block
      documentEnds limit
      match ← peek with
      | none => return some root
      | some _ =>
          let _ ← directives limit {}
          let _ ← peek
          throw .malformed

/-- The rules that one token may lead through. -/
def rulesPerToken : Nat := 4

/-- The nodes of a text, and the number of the root if there is one. -/
def read (cs : List Char) : Except Fault (Option Nat × Nodes) := do
  let found := Layout.tokens cs
  let limit := rulesPerToken * found.tokens.length + rulesPerToken
  let (root, reader) ← (document limit).run { tokens := found.tokens, fault := found.fault }
  return (root, reader.nodes)

end Node

end ServiceDiscovery.Yaml
