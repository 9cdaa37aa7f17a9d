import ServiceDiscovery.Fault
import ServiceDiscovery.Service.Type
import ServiceDiscovery.Text.Case
import ServiceDiscovery.Text.Encoding
import ServiceDiscovery.Text.Split

/-!
Names in multicast DNS. A full name ends with a service, a protocol and the local domain, and may
have an instance in front or a subtype marked by `_sub`. A service name starts with an underscore
and has letters, digits and single hyphens. The strict rules are for types, the loose ones for names
of instances: these allow underscores, longer services, and names with nothing but the local domain.
-/

namespace ServiceDiscovery.Mdns

open Text (Point Points)

inductive NameFault where
  | tooLong (name : Points)
  | noProtocol (name : Points)
  | notLocal (name : Points)
  | noService
  | leadingDot (name : Points)
  | noUnderscore (service : Points)
  | longService (label : Points)
  | doubleHyphen (label : Points)
  | hyphenAtEnd (label : Points)
  | noLetter (label : Points)
  /-- The message is given under the strict rules and left out under the loose ones. -/
  | badCharacter (strict : Bool) (label : Points)
  | noSubtype
  | longInstance (part : Points)
  | controlCharacter (part : Points)
  /-- Nothing stands behind the underscore of the service. -/
  | emptyLabel
  /-- The name belongs to another type. -/
  | otherType
  /-- What stands in front of the service has no bytes. -/
  | unencodable (run : Text.Unencodable)
  deriving DecidableEq, Repr

def NameFault.message : NameFault → Points
  | .tooLong name => "Full name (" ++ name ++ ") must be > 256 bytes"
  | .noProtocol name => "Type '" ++ name ++ "' must end with '._tcp.local.' or '._udp.local.'"
  | .notLocal name => "Type '" ++ name ++ "' must end with '.local.'"
  | .noService => "No Service name found"
  | .leadingDot name => "Type '" ++ name ++ "' must not start with '.'"
  | .noUnderscore service => "Service name (" ++ service ++ ") must start with '_'"
  | .longService label => "Service name (" ++ label ++ ") must be <= 15 bytes"
  | .doubleHyphen label => "Service name (" ++ label ++ ") must not contain '--'"
  | .hyphenAtEnd label => "Service name (" ++ label ++ ") may not start or end with '-'"
  | .noLetter label =>
      "Service name (" ++ label ++ ") must contain at least one letter (eg: 'A-Z')"
  | .badCharacter strict label =>
      if strict then
        "Service name (" ++ label ++ ") must contain only these characters: " ++
          "A-Z, a-z, 0-9, hyphen ('-'), underscore ('_')"
      else ""
  | .noSubtype => "_sub requires a subtype name"
  | .longInstance part => "Too long: '" ++ part ++ "'"
  | .controlCharacter part =>
      "Ascii control character 0x00-0x1F and 0x7F illegal in '" ++ part ++ "'"
  | .emptyLabel => Fault.emptyServiceName.message
  | .otherType => ""
  | .unencodable run => run.message

/-- A refused name makes an operation invalid, but for an empty label and for texts without bytes,
which nobody expects. -/
def NameFault.fault : NameFault → Fault
  | .emptyLabel => .emptyServiceName
  | .unencodable run => .unencodable run
  | fault => .invalidService fault.message

/-- A registration is refused for texts without bytes as for any other name. -/
def NameFault.refusal : NameFault → Fault
  | .emptyLabel => .emptyServiceName
  | fault => .invalidService fault.message

def isLetter (c : Char) : Bool :=
  ('A' ≤ c && c ≤ 'Z') || ('a' ≤ c && c ≤ 'z')

/-- May a character stand in the label of a service? -/
def isLabelChar (strict : Bool) (c : Char) : Bool :=
  isLetter c || ('0' ≤ c && c ≤ '9') || c = '-' || (!strict && c = '_')

def isControl (c : Char) : Bool :=
  c.toNat < 0x20 || c.toNat = 0x7F

/-- One line break at the end goes unnoticed when the characters of a label are looked at. -/
def withoutFinalBreak (label : Points) : Points :=
  if label.getLast? = some (.char '\n') then label.dropLast else label

/-- Checks the label of a service, which is what stands behind its underscore. -/
def checkLabel (strict : Bool) (label : Points) : Except NameFault Unit :=
  let body := withoutFinalBreak label
  if strict && 15 < label.length then .error (.longService label)
  else if Text.contains (Points.ofString "--") label then .error (.doubleHyphen label)
  else if label.isEmpty then .error .emptyLabel
  else if label.head? = some (.char '-') || label.getLast? = some (.char '-') then
    .error (.hyphenAtEnd label)
  else if !label.any (Point.any isLetter) then .error (.noLetter label)
  else if body.isEmpty || !body.all (Point.any (isLabelChar strict)) then
    .error (.badCharacter strict label)
  else .ok ()

/-- Splits the last part off as the service and checks it. -/
def checkService (strict : Bool) (name : Points) (parts : List Points) :
    Except NameFault (Points × List Points) :=
  let service := parts.getLastD []
  let rest := parts.dropLast
  match service with
  | [] => .error .noService
  | c :: label =>
      if rest = [[]] then .error (.leadingDot name)
      else if c ≠ .char '_' then .error (.noUnderscore service)
      else (checkLabel strict label).map fun _ => (service, rest)

/-- Checks the text of an instance or a subtype. -/
def checkPart (part : Points) : Except NameFault Unit :=
  match part.encode with
  | .error run => .error (.unencodable run)
  | .ok bytes =>
      if 63 < bytes.length then .error (.longInstance part)
      else if part.any (Point.any isControl) then .error (.controlCharacter part)
      else .ok ()

/-- Checks what stands in front of the service: an instance, which may have dots in it, or a
subtype. -/
def checkRest (parts : List Points) : Except NameFault Unit :=
  let marked := parts.getLast? = some (.ofString "_sub")
  let rest := if marked then parts.dropLast else parts
  if marked && (rest.isEmpty || rest.head? = some []) then .error .noSubtype
  else if rest.isEmpty then .ok ()
  else checkPart (Text.join (.char '.') rest)

/-- Does a text end with a suffix, letters in either case being alike? -/
def endsWithAnyCase (suffix points : Points) : Bool :=
  suffix.isSuffixOf points.lower

/-- Checks a full name and returns its service, protocol and domain. -/
def checkName (strict : Bool) (name : Points) : Except NameFault Points :=
  if 256 < name.length then .error (.tooLong name)
  else if endsWithAnyCase "._tcp.local." name || endsWithAnyCase "._udp.local." name then do
    let trailer := name.drop (name.length - 12)
    let parts := Text.split (.char '.') (name.take (name.length - 12))
    let (service, rest) ← checkService strict name parts
    checkRest rest
    .ok (service ++ trailer)
  else if strict then .error (.noProtocol name)
  else if endsWithAnyCase ".local." name then do
    checkRest (Text.split (.char '.') (name.take (name.length - 7)))
    .ok (name.drop (name.length - 6))
  else .error (.notLocal name)

def checkType (type : Points) : Except NameFault Unit :=
  (checkName true type).map fun _ => ()

/-- Checks the full name of an instance, which must belong to the type. -/
def checkInstance (type name : Points) : Except NameFault Unit :=
  match checkName false name with
  | .error fault => .error fault
  | .ok found => if found.isSuffixOf type then .ok () else .error .otherType

/-- The instance in a full name: what is left without the type, or without it the first label. -/
def instanceName (fullName type : Points) : Points :=
  let suffix := .char '.' :: type
  if suffix.isSuffixOf fullName then fullName.take (fullName.length - suffix.length)
  else (Text.cut (.char '.') fullName).1

end ServiceDiscovery.Mdns
