import ServiceDiscovery.Text.Blank

/-!
Service types. The bare form of a type, such as `_http._tcp`, is what sessions and services carry;
the full form ends with the local domain. Platforms report types with a dot in front, with dots
behind, or in full, and normalising brings all of these to the bare form.
-/

namespace ServiceDiscovery.ServiceType

open Text (Points Point)

/-- The local domain, as it stands behind a bare type. -/
def localSuffix : Points :=
  ".local"

/-- Takes a suffix off a text that ends with it. -/
def withoutSuffix (suffix points : Points) : Points :=
  if suffix.isSuffixOf points then points.take (points.length - suffix.length) else points

/-- Takes one dot off the front. -/
def withoutDot : Points → Points
  | .char '.' :: rest => rest
  | points => points

/-- The bare form of a type: blanks go from both ends, then one dot in front, all dots behind, and
last the local domain. -/
def normalize (type : Points) : Points :=
  withoutSuffix localSuffix
    (Text.trimRight (· == .char '.') (withoutDot (Text.trim Point.isBlank type)))

def qualify (type : Points) : Points :=
  normalize type ++ localSuffix ++ [.char '.']

end ServiceDiscovery.ServiceType
