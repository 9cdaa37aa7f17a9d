/-!
Character classes given by lists of code point ranges. A class is a plain list, so membership is a
decidable statement about numbers and a table can be read and compared range by range.
-/

namespace ServiceDiscovery.Text

/-- Closed ranges of code points. -/
abbrev Ranges := List (Nat × Nat)

def Ranges.has (ranges : Ranges) (code : Nat) : Bool :=
  ranges.any fun range => range.1 ≤ code && code ≤ range.2

end ServiceDiscovery.Text
