import ServiceDiscovery.Yaml.Merge
import ServiceDiscovery.Yaml.Part
import ServiceDiscovery.Yaml.Scalar

/-!
From nodes to parts. Each node becomes one part. A scalar is read when it is first met, and a
collection waits until all collections that were met before it are filled, so documents are filled
level by level from the outside. If several things are wrong, the one that is met first in this
order is reported.
-/

namespace ServiceDiscovery.Yaml

structure Draft where
  nodes : Nodes
  /-- The parts that were met so far. Collections are empty until they are filled. -/
  parts : Array (Option Part)
  /-- The collections that wait to be filled. -/
  waiting : Array Nat := #[]

abbrev Making := StateT Draft (Except Fault)

namespace Making

/-- The text of a scalar, or of the scalar that stands for a mapping. The first number bounds how
deep mappings stand for one another. -/
def scalarText (nodes : Nodes) : Nat → Nat → Except Fault Text.Points
  | 0, _ => .error .tooDeep
  | more + 1, number =>
      match nodes[number]? with
      | some (.scalar _ text) => .ok text
      | some (.mapping _ entries) =>
          match entries.find? fun entry => nodes.tag? entry.1 = some .value with
          | some entry => scalarText nodes more entry.2
          | none => .error .malformed
      | _ => .error .malformed

/-- The part of a node with the tag of a scalar. -/
def single (nodes : Nodes) (tag : Tag) (number : Nat) : Except Fault Part := do
  let text ← scalarText nodes (nodes.size + 1) number
  let isScalar := match nodes[number]? with
    | some (.scalar ..) => true
    | _ => false
  if tag = .moment && !isScalar then throw .momentInside
  else if tag = .float && isNoNumberWord text then return .noNumber
  else return .single (← scalarValue tag text)

def setPart (number : Nat) (part : Part) : Making Unit :=
  modify fun draft => { draft with parts := draft.parts.setIfInBounds number (some part) }

def defer (number : Nat) (part : Part) : Making Unit := do
  setPart number part
  modify fun draft => { draft with waiting := draft.waiting.push number }

/-- Meets a node. What was met before stays as it is. -/
def meet (number : Nat) : Making Unit := do
  let draft ← get
  if (draft.parts[number]?.join).isSome then return
  match draft.nodes.tag? number with
  | none | some .merge | some .value | some (.other _) => throw .malformed
  | some .sequence => defer number (.list [])
  | some .pairs => defer number (.pairs [])
  | some .mapping => defer number (.map [])
  | some .set => defer number (.set [])
  | some tag => setPart number (← single draft.nodes tag number)

/-- Are two nodes the same key? -/
def sameKey (parts : Array (Option Part)) (a b : Nat) : Bool :=
  a = b || match parts[a]?.join, parts[b]?.join with
    | some x, some y => x.sameKey y
    | _, _ => false

/-- Gives a key a value. A key that is there keeps its place and its first spelling. -/
def insertEntry (parts : Array (Option Part)) (key value : Nat) :
    List (Nat × Nat) → List (Nat × Nat)
  | [] => [(key, value)]
  | (k, v) :: rest =>
      if sameKey parts k key then (k, value) :: rest
      else (k, v) :: insertEntry parts key value rest

/-- The entries of a mapping, whose keys must be no collections. -/
def entries (number : Nat) : Making (List (Nat × Nat)) := do
  match (← get).nodes[number]? with
  | some (.mapping ..) =>
      let nodes ← (← get).nodes.flatten number
      modify fun draft => { draft with nodes }
      (nodes.entries number).foldlM (fun made entry => do
        meet entry.1
        if (((← get).parts[entry.1]?.join).bind Part.single?).isNone then throw .malformed
        meet entry.2
        return insertEntry (← get).parts entry.1 entry.2 made) []
  | _ => throw .malformed

def items (number : Nat) : Making (List Nat) := do
  match (← get).nodes[number]? with
  | some (.sequence _ items) => return items
  | _ => throw .malformed

/-- The only entry of a mapping that stands for a pair. -/
def pair (number : Nat) : Making (Nat × Nat) := do
  match (← get).nodes[number]? with
  | some (.mapping _ [entry]) =>
      meet entry.1
      meet entry.2
      return entry
  | _ => throw .malformed

def fill (number : Nat) : Making Unit := do
  match (← get).nodes.tag? number with
  | some .sequence =>
      let items ← items number
      items.forM meet
      setPart number (.list items)
  | some .pairs => setPart number (.pairs (← (← items number).mapM pair))
  | some .mapping => setPart number (.map (← entries number))
  | some .set => setPart number (.set ((← entries number).map (·.1)))
  | _ => return

/-- Fills the collections that wait, from a place in their order on. Every node waits once at most.
-/
def fillAll : Nat → Nat → Making Unit
  | 0, _ => return
  | more + 1, place => do
      match (← get).waiting[place]? with
      | none => return
      | some number =>
          fill number
          fillAll more (place + 1)

def document (root : Nat) : Making Document := do
  meet root
  let draft ← get
  fillAll (draft.nodes.size + 1) 0
  let draft ← get
  return { parts := draft.parts.map fun part => part.getD (.single .null), root := some root }

end Making

/-- Reads a text as the one document in it. -/
def read (text : String) : Except Fault Document := do
  let cs := text.toList
  if !cs.all isAllowed then throw .malformed
  match ← Node.read cs with
  | (none, _) => return { parts := #[], root := none }
  | (some root, nodes) =>
      (Making.document root).run' { nodes, parts := Array.replicate nodes.size none }

end ServiceDiscovery.Yaml
