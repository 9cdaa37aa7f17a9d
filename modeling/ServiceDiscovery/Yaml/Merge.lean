import ServiceDiscovery.Yaml.Node

/-!
Mappings that merge others. An entry under the key for merging gives way to the entries of the
mapping, or of all the mappings in the sequence, that is its value; they go in front, so that the
own entries of a mapping win, and of several mappings in one sequence the last goes first. What is
merged is itself freed of merging before, and stays so, wherever else it is used.
-/

namespace ServiceDiscovery.Yaml.Nodes

/-- The entries of a mapping. Other nodes have none. -/
def entries (number : Nat) (nodes : Nodes) : List (Nat × Nat) :=
  match nodes[number]? with
  | some (.mapping _ entries) => entries
  | _ => []

def tag? (number : Nat) (nodes : Nodes) : Option Tag :=
  nodes[number]?.map Node.tag

def setEntries (number : Nat) (entries : List (Nat × Nat)) (nodes : Nodes) : Nodes :=
  nodes.modify number fun node =>
    match node with
    | .mapping tag _ => .mapping tag entries
    | node => node

def isMerge (nodes : Nodes) (entry : Nat × Nat) : Bool :=
  nodes.tag? entry.1 = some .merge

/-- A key that would let its value stand for the mapping is a plain text once the entries are
listed. -/
def plainKeys (keys : List Nat) (nodes : Nodes) : Nodes :=
  keys.foldl (fun nodes key =>
    if nodes.tag? key = some .value then nodes.modify key (Node.withTag .text) else nodes) nodes

/-- Takes the first entry that merges out of a mapping, and gives its value. -/
def takeMerge? (number : Nat) (nodes : Nodes) : Option (Nat × Nodes) :=
  let entries := nodes.entries number
  let before := entries.takeWhile fun entry => !nodes.isMerge entry
  match entries.dropWhile fun entry => !nodes.isMerge entry with
  | [] => none
  | entry :: behind => some (entry.2, nodes.setEntries number (before ++ behind))

/-- Puts entries in front of those of a mapping. -/
def putInFront (merged : List (Nat × Nat)) (number : Nat) (nodes : Nodes) : Nodes :=
  let entries := merged ++ nodes.entries number
  (nodes.setEntries number entries).plainKeys (entries.map (·.1))

/-- What a mapping merges, where entries that merge are taken out of it. The first number bounds how
many of them are met one inside or behind the other. -/
def merged : Nat → Nat → Nodes → Except Fault (List (Nat × Nat) × Nodes)
  | 0, _, nodes => .ok ([], nodes)
  | more + 1, number, nodes =>
      match nodes.takeMerge? number with
      | none => .ok ([], nodes)
      | some (value, nodes) => do
          let freed (number : Nat) (nodes : Nodes) : Except Fault (List (Nat × Nat) × Nodes) :=
            match nodes[number]? with
            | some (.mapping ..) => do
                let (inner, nodes) ← merged more number nodes
                let nodes := nodes.putInFront inner number
                return (nodes.entries number, nodes)
            | _ => throw .malformed
          let (found, nodes) ← match nodes[value]? with
            | some (.sequence _ items) =>
                items.foldlM (fun (found, nodes) item => do
                  let (entries, nodes) ← freed item nodes
                  return (entries ++ found, nodes)) ([], nodes)
            | _ => freed value nodes
          let (later, nodes) ← merged more number nodes
          return (found ++ later, nodes)

/-- How many entries there are in all mappings. -/
def entryCount (nodes : Nodes) : Nat :=
  nodes.foldl (fun count node =>
    match node with
    | .mapping _ entries => count + entries.length
    | _ => count) 0

/-- Frees a mapping of the entries that merge. -/
def flatten (number : Nat) (nodes : Nodes) : Except Fault Nodes := do
  if (nodes.takeMerge? number).isNone then
    return nodes.plainKeys ((nodes.entries number).map (·.1))
  let (found, nodes) ← merged (nodes.entryCount + 1) number nodes
  return nodes.putInFront found number

end ServiceDiscovery.Yaml.Nodes
