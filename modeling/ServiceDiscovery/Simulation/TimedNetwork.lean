import ServiceDiscovery.Simulation.Network

/-!
A network on which things happen at their times: instances come and go some seconds after a browser
was opened, and requests are answered after a while.
-/

namespace ServiceDiscovery.Simulation

/-- What a browser reports some seconds after it was opened. -/
structure Announcement where
  seconds : Double
  change : Mdns.Platform.Change
  /-- The name of the instance, without its type. -/
  name : String

structure DelayedAnswer where
  seconds : Double := .zero
  answer : NetworkAnswer

structure TimedNetwork where
  announcements : List Announcement := []
  /-- The answers to the requests for each instance, the last of which goes on for ever. -/
  answers : List (String × List DelayedAnswer) := []
  register : List NetworkOutcome := []
  unregister : List NetworkOutcome := []
  /-- Outcomes of which something is going to be broadcast. -/
  broadcasts : List NetworkOutcome := []
  browserError : Bool := false
  /-- Cancelling a browser never ends. -/
  cancelHangs : Bool := false

namespace TimedNetwork

/-- Takes the answer to the next request for an instance. The last answer stays. -/
def takeAnswer (name : String) :
    List (String × List DelayedAnswer) → Option DelayedAnswer × List (String × List DelayedAnswer)
  | [] => (none, [])
  | (known, answers) :: rest =>
      if known = name then
        match answers with
        | answer :: second :: later => (some answer, (known, second :: later) :: rest)
        | _ => (answers.head?, (known, answers) :: rest)
      else
        let (taken, rest) := takeAnswer name rest
        (taken, (known, answers) :: rest)

/-- Does an answer come too late for a request that waits a number of milliseconds? -/
def DelayedAnswer.isLate (timeout : Int) (answer : DelayedAnswer) : Bool :=
  match Double.ofInt? timeout with
  | some limit => decide (limit.toFloat ≤ answer.seconds.toFloat * 1000)
  | none => timeout < 0

def seconds (milliseconds : Int) : Double :=
  (Double.ofQuotient milliseconds.natAbs 1000).signed (milliseconds < 0)

/-- What becomes of the next request for an instance: after how many seconds it ends, and with which
answer, if any. -/
def request (name : String) (timeout : Int) (network : TimedNetwork) :
    Double × Option NetworkAnswer × TimedNetwork :=
  let (taken, answers) := takeAnswer name network.answers
  let after := { network with answers }
  match taken with
  | some found =>
      if DelayedAnswer.isLate timeout found then (seconds timeout, none, after)
      else (found.seconds, some found.answer, after)
  | none => (seconds timeout, none, after)

end TimedNetwork

end ServiceDiscovery.Simulation
