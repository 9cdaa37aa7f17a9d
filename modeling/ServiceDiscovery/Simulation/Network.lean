import ServiceDiscovery.Machine

/-!
What a simulated network says. Requests for a service are answered with some of its data, or not at
all; a registration, or the end of one, goes well unless it is said to fail, at once or when it is
broadcast.
-/

namespace ServiceDiscovery.Simulation

variable {ι : Type}

/-- A job goes on with what the network says while it still runs. -/
def networkReply (platform ticket : Nat) (response : Mdns.Response) : Move ι :=
  .perform (.platform platform (.reply ticket response))

/-- A job that waits is woken up with what the network says. -/
def networkWake (platform ticket : Nat) (response : Mdns.Response) : Move ι :=
  .perform (.platform platform (.wake ticket response))

/-- The host's own address, or the fault of looking it up. -/
def hostAddress (fails : Bool) : Except Fault String :=
  if fails then .error (.outside .system "[Errno -2] Name or service not known")
  else .ok "192.168.1.10"

/-- How the network answers a request for a service. -/
structure NetworkAnswer where
  raised : Bool := false
  found : Bool := true
  addresses : Option (List String) := none
  server : Option String := none
  port : Option Int := none
  text : Option Bytes := none
  deriving Repr

namespace NetworkAnswer

def update (answer : NetworkAnswer) : Mdns.InfoUpdate where
  server := answer.server
  port := answer.port
  text := answer.text
  addresses := answer.addresses.map fun texts => texts.filterMap Mdns.Address.ofText?

/-- Brings the answer to the request with a ticket. -/
def moves (platform ticket : Nat) (answer : NetworkAnswer) : List (Move ι) :=
  if answer.raised then
    [networkWake platform ticket (.failed (.outside .system "request failed"))]
  else
    [.perform (.platform platform (.update ticket answer.update)),
      networkWake platform ticket (if answer.found then .done else .notFound)]

end NetworkAnswer

/-- What the network does about one registration or the end of one. -/
structure NetworkOutcome where
  /-- Fails at once with this message. -/
  refused : Option String := none
  rename : Option String := none
  /-- Is the broadcast held back? -/
  hold : Bool := false
  /-- The broadcast fails with this message. -/
  failed : Option String := none

namespace NetworkOutcome

def fault (message : String) : Fault :=
  .outside .runtime message

/-- How the broadcast comes out. -/
def response (outcome : NetworkOutcome) : Mdns.Response :=
  match outcome.failed with
  | some message => .failed (fault message)
  | none => .done

/-- Takes the next outcome of a list. Without one all goes well. -/
def next : List NetworkOutcome → NetworkOutcome × List NetworkOutcome
  | [] => ({}, [])
  | outcome :: rest => (outcome, rest)

/-- What an outcome does about a job before anything is broadcast. -/
def moves (platform ticket : Nat) (outcome : NetworkOutcome) : List (Move ι) :=
  match outcome.refused with
  | some message => [networkReply platform ticket (.failed (fault message))]
  | none =>
      outcome.rename.toList.map (fun name =>
        .perform (.platform platform (.update ticket { name := some name }))) ++
        [networkReply platform ticket .done]

/-- The outcomes of which something is broadcast. -/
def broadcasts (outcome : NetworkOutcome) : List NetworkOutcome :=
  if outcome.refused.isSome then [] else [outcome]

end NetworkOutcome

end ServiceDiscovery.Simulation
