import ServiceDiscovery.Number.Double

/-!
A clock on which waiting takes no time. Alarms go off in the order of their times, those for the
same time in the order in which they were set, and the clock jumps from one to the next. It never
runs backward: an alarm that was due earlier goes off at once.
-/

namespace ServiceDiscovery.Simulation

structure Clock (α : Type) where
  /-- Seconds since the start. -/
  now : Double := .zero
  alarms : List (Double × α) := []

namespace Clock

variable {α : Type}

def before (a b : Double) : Bool :=
  a.toFloat < b.toFloat

def insert (time : Double) (alarm : α) : List (Double × α) → List (Double × α)
  | [] => [(time, alarm)]
  | entry :: rest =>
      if before time entry.1 then (time, alarm) :: entry :: rest
      else entry :: insert time alarm rest

def set (seconds : Double) (alarm : α) (clock : Clock α) : Clock α :=
  let time := Double.ofFloat (clock.now.toFloat + seconds.toFloat)
  { clock with alarms := insert time alarm clock.alarms }

/-- The time past which nobody waits for an alarm. -/
def patience : Double :=
  Double.ofQuotient 1000000 1

/-- The next alarm, unless there is none or it is too far ahead. -/
def next? (clock : Clock α) : Option (α × Clock α) :=
  match clock.alarms with
  | [] => none
  | (time, alarm) :: rest =>
      if before patience time then none
      else
        let now := if before clock.now time then time else clock.now
        some (alarm, { now, alarms := rest })

end Clock

end ServiceDiscovery.Simulation
