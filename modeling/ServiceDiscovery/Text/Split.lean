/-!
Cutting texts at a separator. A text with `n` separators has `n + 1` pieces, some of which may be
empty, and joining the pieces with the separator gives the text back.
-/

namespace ServiceDiscovery.Text

variable {α : Type}

/-- Puts one more in front of the first piece. -/
def prependToFirst (c : α) : List (List α) → List (List α)
  | [] => [[c]]
  | piece :: rest => (c :: piece) :: rest

def split [DecidableEq α] (separator : α) : List α → List (List α)
  | [] => [[]]
  | c :: rest =>
      if c = separator then [] :: split separator rest
      else prependToFirst c (split separator rest)

def join (separator : α) (pieces : List (List α)) : List α :=
  [separator].intercalate pieces

/-- The part before the first separator, and the part behind it if there is one. -/
def cut [DecidableEq α] (separator : α) (cs : List α) : List α × Option (List α) :=
  match cs.dropWhile (· ≠ separator) with
  | [] => (cs, none)
  | _ :: rest => (cs.takeWhile (· ≠ separator), some rest)

theorem split_ne_nil [DecidableEq α] (separator : α) (cs : List α) : split separator cs ≠ [] := by
  cases cs with
  | nil => simp [split]
  | cons c rest =>
      unfold split
      split
      · simp
      · cases split separator rest <;> simp [prependToFirst]

def contains [DecidableEq α] (inner : List α) : List α → Bool
  | [] => inner.isEmpty
  | c :: rest => inner.isPrefixOf (c :: rest) || contains inner rest

end ServiceDiscovery.Text
