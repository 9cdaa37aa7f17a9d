import ServiceDiscovery.Text.Points
import ServiceDiscovery.Text.Ranges

/-!
White space and trimming. A blank is any character that Unicode counts as white space or as a
separator of lines, paragraphs or information units. Trimming takes blanks off both ends and
leaves the blanks inside a text alone.
-/

namespace ServiceDiscovery.Text

/-- The white space characters outside ASCII, and the two blocks inside it. -/
def blankRanges : Ranges :=
  [(0x09, 0x0D), (0x1C, 0x20), (0x85, 0x85), (0xA0, 0xA0), (0x1680, 0x1680), (0x2000, 0x200A),
    (0x2028, 0x2029), (0x202F, 0x202F), (0x205F, 0x205F), (0x3000, 0x3000)]

def isBlank (c : Char) : Bool :=
  blankRanges.has c.toNat

def Point.isBlank (point : Point) : Bool :=
  point.any Text.isBlank

variable {α : Type}

/-- Takes members of a class off the end. -/
def trimRight (drop : α → Bool) (cs : List α) : List α :=
  (cs.reverse.dropWhile drop).reverse

/-- Takes members of a class off both ends. -/
def trim (drop : α → Bool) (cs : List α) : List α :=
  trimRight drop (cs.dropWhile drop)

end ServiceDiscovery.Text
