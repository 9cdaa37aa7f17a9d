import ServiceDiscovery.Service.Basic

/-!
What a platform for service discovery offers. Sessions and queues send it requests, each on behalf
of a listener, and it reports to the listeners by notices, at once or at any later time. A listener
is a member of this system, known by its place among its kind, or somebody outside with a label.
-/

namespace ServiceDiscovery

inductive Listener where
  | member (index : Nat)
  | outside (label : String)
  deriving DecidableEq, Repr

inductive Request where
  | resolve (ref : ServiceRef)
  | discover (type : Text.Points)
  | stopDiscovery
  | register (name type : Text.Points) (port : Value) (txt : List (Value × Value))
  | unregister
  deriving Repr

namespace FailureCode

def internal : Int := 0
/-- The resolver is at work on another request. -/
def alreadyActive : Int := 3
def notRunning : Int := 5
def badParameters : Int := 6

end FailureCode

inductive BrowseNotice where
  | started (type : Text.Points)
  | found (ref : ServiceRef)
  | lost (ref : ServiceRef)
  | stopped (type : Text.Points)
  | startFailed (type : Text.Points) (code : Int)
  | stopFailed (type : Text.Points) (code : Int)
  deriving DecidableEq, Repr

inductive RegistrationNotice where
  | registered (name type : Text.Points)
  | failed (code : Int)
  | unregistered
  | unregistrationFailed (code : Int)
  deriving DecidableEq, Repr

/-- What became of a resolve. Outcomes name the service that was asked for, and nothing else tells
which request they answer. -/
inductive ResolveOutcome where
  | resolved (ref : ServiceRef) (answer : ResolveAnswer)
  | failed (ref : ServiceRef) (code : Int)
  deriving Repr

def ResolveOutcome.ref : ResolveOutcome → ServiceRef
  | resolved ref _ => ref
  | failed ref _ => ref

/-- Any notice, with the kind of listener that it is meant for. -/
inductive Notice where
  | browse (notice : BrowseNotice)
  | registration (notice : RegistrationNotice)
  | resolve (outcome : ResolveOutcome)
  deriving Repr

end ServiceDiscovery
