import ServiceDiscovery.Number.Reading
import ServiceDiscovery.Text.Encoding

/-!
Why an operation ends without a result. Each constructor is a cause; its message is what logs and
callers show. Two families matter to the logic: faults that say an argument was malformed, which
sessions turn into a report, and faults of this library's own, which teardown passes over.
-/

namespace ServiceDiscovery

/-- The family of a fault raised by something outside the library. -/
inductive Fault.Family where
  | library
  | invalidService
  | notStarted
  | value
  | runtime
  | system
  | key
  | other (title : String)
  deriving DecidableEq, Repr

inductive Fault where
  /-- A service name, type, port or TXT record is malformed, or a listener is in use already. -/
  | invalidService (reason : Text.Points)
  /-- The platform has not been started, or has been closed. -/
  | notStarted
  /-- A browse session is asked to start after it was closed. -/
  | browseClosed
  /-- A publication session is asked to register after it was closed. -/
  | publicationClosed
  /-- A resolve queue comes without the registry it routes through. -/
  | registryMissing
  /-- The attributes of a resolve answer are no mapping. -/
  | attributesMissing
  /-- A text stands where something else is needed, or the other way round. -/
  | wrongType
  /-- A field is read from a value that has no fields. -/
  | noSuchField
  /-- The service name in a type is empty behind its underscore. -/
  | emptyServiceName
  /-- A text that is to become bytes has halves of surrogate pairs in it. -/
  | unencodable (run : Text.Unencodable)
  /-- A whole number has too many digits to be written. -/
  | unwritable
  /-- The system refused: no socket, no address for the host, no such file. -/
  | system (message : String)
  /-- A fault of the network library, or of callbacks and channels. -/
  | outside (family : Fault.Family) (message : Text.Points)
  deriving DecidableEq, Repr

namespace Fault

def message : Fault → Text.Points
  | invalidService reason => reason
  | notStarted => "ZeroconfPlatform.start() has not been called"
  | browseClosed => "DiscoverySession is closed"
  | publicationClosed => "PublicationSession is closed"
  | registryMissing => "A shared queue needs the registry it was built with"
  | attributesMissing => "'NoneType' object has no attribute 'items'"
  | wrongType => "argument of the wrong type"
  | noSuchField => "object has no such attribute"
  | emptyServiceName => "string index out of range"
  | unencodable run => run.message
  | unwritable => Number.unwritable
  | system message => message
  | outside .key message => Text.Quoted.points message
  | outside _ message => message

/-- The title under which a family of faults goes in logs. -/
def Family.title : Family → String
  | .library => "nsdkit.errors.NsdError"
  | .invalidService => "nsdkit.errors.InvalidServiceError"
  | .notStarted => "nsdkit.errors.PlatformNotStartedError"
  | .value => "ValueError"
  | .runtime => "RuntimeError"
  | .system => "OSError"
  | .key => "KeyError"
  | .other title => title

/-- The title under which a fault goes in logs. -/
def title : Fault → String
  | invalidService _ => Family.title .invalidService
  | notStarted => Family.title .notStarted
  | browseClosed | publicationClosed => Family.title .runtime
  | registryMissing => Family.title .value
  | attributesMissing | noSuchField => "AttributeError"
  | wrongType => "TypeError"
  | emptyServiceName => "IndexError"
  | unencodable _ => "UnicodeEncodeError"
  | unwritable => Family.title .value
  | system _ => Family.title .system
  | outside family _ => family.title

/-- Title and message; a fault without a message is shown by its title alone. -/
def text (fault : Fault) : Text.Points :=
  if fault.message = [] then fault.title else fault.title ++ ": " ++ fault.message

/-- Does the fault say that an argument was malformed? -/
def isMalformed : Fault → Bool
  | invalidService _ | registryMissing | unencodable _ | unwritable => true
  | outside family _ => family = .invalidService || family = .value
  | _ => false

/-- Is the fault one of this library's own? -/
def isOwn : Fault → Bool
  | invalidService _ | notStarted => true
  | outside family _ => family = .library || family = .invalidService || family = .notStarted
  | _ => false

end Fault

end ServiceDiscovery
