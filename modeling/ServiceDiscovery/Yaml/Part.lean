import ServiceDiscovery.Value

/-!
A document as its parts. Every node has become one part, and collections hold the numbers of the
parts in them. A part may be in several places and even inside itself, so the value of a part is put
together only when it is asked for, and where a collection would be met inside itself a mark stands
for it.
-/

namespace ServiceDiscovery.Yaml

inductive Part where
  | single (value : Value)
  /-- What is written as no number, which is one and the same wherever it is written. -/
  | noNumber
  | list (items : List Nat)
  | pairs (items : List (Nat × Nat))
  | set (items : List Nat)
  | map (entries : List (Nat × Nat))
  deriving Repr

namespace Part

/-- The value of a part that is no collection. -/
def single? : Part → Option Value
  | .single value => some value
  | .noNumber => some (.float .notANumber)
  | _ => none

/-- Are two parts the same key? A collection is none. -/
def sameKey : Part → Part → Bool
  | .noNumber, .noNumber => true
  | .single x, .single y => x.sameKey y
  | _, _ => false

/-- Is a part the key of a text? -/
def isText (text : String) (part : Part) : Bool :=
  part.sameKey (.single (.text text))

end Part

structure Document where
  parts : Array Part
  /-- The part that all others are in. An empty stream has none. -/
  root : Option Nat
  deriving Repr

namespace Document

/-- Values that were put together before, by the numbers of their parts. -/
abbrev Known := Array (Option Value)

/-- Puts a list of things together, and tells whether one of them depends on what is around it. -/
def gather {α β : Type} (make : α → StateM Known (β × Bool)) (items : List α) :
    StateM Known (List β × Bool) := do
  let made ← items.mapM make
  return (made.map (·.1), made.any (·.2))

/-- The value of a part, and whether there is a mark in it for a collection around it. Without a
mark it is the same everywhere, and is kept. A fuel above the number of parts is enough. -/
def unfold (parts : Array Part) : Nat → List Nat → Nat → StateM Known (Value × Bool)
  | 0, _, _ => return (.null, false)
  | more + 1, around, number => do
      if let some (some value) := (← get)[number]? then return (value, false)
      let inside := unfold parts more (number :: around)
      let both (entry : Nat × Nat) : StateM Known ((Value × Value) × Bool) := do
        let (first, firstMarked) ← inside entry.1
        let (second, secondMarked) ← inside entry.2
        return ((first, second), firstMarked || secondMarked)
      match parts[number]? with
      | none => return (.null, false)
      | some part =>
          if let some value := part.single? then return (value, false)
          if around.contains number then
            return (.within (match part with | .map _ => true | _ => false), true)
          let (value, marked) ← match part with
            | .list items => do
                let (items, marked) ← gather inside items
                pure (Value.list items, marked)
            | .pairs items => do
                let (items, marked) ← gather both items
                pure (Value.list (items.map fun item => .pair item.1 item.2), marked)
            | .set items => do
                let (items, marked) ← gather inside items
                pure (Value.set items, marked)
            | .map entries => do
                let (entries, marked) ← gather both entries
                pure (Value.map entries, marked)
            | _ => pure (Value.null, false)
          if !marked then modify fun known => known.setIfInBounds number (some value)
          return (value, marked)

variable (document : Document)

def value (number : Nat) : Value :=
  let parts := document.parts
  ((unfold parts (parts.size + 1) [] number).run (Array.replicate parts.size none)).1.1

/-- The number of the part under a key of text. -/
def find? (key : String) (entries : List (Nat × Nat)) : Option Nat :=
  (entries.find? fun entry => document.parts[entry.1]?.any (Part.isText key)).map (·.2)

end Document

end ServiceDiscovery.Yaml
