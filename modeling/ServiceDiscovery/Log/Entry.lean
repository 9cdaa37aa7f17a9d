import ServiceDiscovery.Log.Line
import ServiceDiscovery.Log.Template
import ServiceDiscovery.Log.Time

/-!
Entries of a log as they are handed in: a template with its arguments where a record has its
message. An entry becomes a line once its time is a moment and its template is filled. The time
comes first, so an entry with two faults is refused for its time.
-/

namespace ServiceDiscovery.Log

structure Entry where
  /-- Any number may be a level. -/
  level : Value
  component : Text.Points
  thread : Text.Points
  template : Text.Points
  arguments : List Value := []
  fault : Option Fault := none
  /-- How many seconds local time is ahead of universal time. -/
  offset : Int := 0

/-- Why an entry has no line. -/
inductive Entry.Refusal where
  | time (fault : Time.Fault)
  | template (misfit : Template.Misfit)
  deriving DecidableEq, Repr

namespace Entry

def Refusal.message : Refusal → String
  | time fault => fault.message
  | template misfit => misfit.message

def json (time : Time) (entry : Entry) : Except Refusal String := do
  let moment ← (time.moment entry.offset).mapError .time
  let message ← (Template.fill entry.template entry.arguments).mapError .template
  let line : Line := {
    level := Level.nameOf entry.level
    component := entry.component
    thread := entry.thread
    message
    fault := entry.fault }
  return line.timedJson moment

end Entry

end ServiceDiscovery.Log
