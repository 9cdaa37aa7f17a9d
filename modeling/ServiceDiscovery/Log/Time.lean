import ServiceDiscovery.Calendar
import ServiceDiscovery.Number.Double

/-!
The time of a log record, in seconds since the start of 1970. Before it can be shown as a moment it
has to get through a chain of bounds: seconds fit into 64 bits and years, counted from 1900, into
32, and only the years from 1 to 9999 have moments. A year outside of those is called by its lowest
32 bits. The day before has to exist as well, so the first day of year 1 has no moments either. A
moment is told in local time, which is ahead of universal time by an offset; the bound of seconds is
that of universal time, and those of years are local.
-/

namespace ServiceDiscovery.Log

/-- Seconds since the start of 1970. -/
inductive Time where
  | whole (seconds : Int)
  | floating (seconds : Double)
  deriving DecidableEq, Repr

inductive Time.Fault where
  | notANumber
  /-- The seconds do not fit. -/
  | seconds
  /-- The year does not fit. -/
  | years
  | calendar (fault : Calendar.Fault)
  deriving DecidableEq, Repr

namespace Time

def Fault.message : Fault → String
  | notANumber => "Invalid value NaN (not a number)"
  | seconds => "timestamp out of range for platform time_t"
  | years => "Value too large for defined data type"
  | calendar fault => fault.message

/-- A floating point time to the nearest microsecond. The part behind the point is scaled as a
floating point number, and a half goes to the even neighbour. -/
def ofDouble (seconds : Double) : Except Fault Int :=
  match seconds.meaning with
  | .notANumber => .error .notANumber
  | .infinite _ => .error .seconds
  | .finite negative significand exponent =>
      let (num, den) := Double.scaled significand 1 (-exponent)
      let whole : Int := num / den
      let part : Int := match (Double.ofQuotient (num % den * 1000000) den).meaning with
        | .finite _ s e =>
            let (n, d) := Double.scaled s 1 (-e)
            Double.roundedQuotient n d
        | _ => 0
      .ok (if negative then -(whole * 1000000 + part) else whole * 1000000 + part)

/-- The microseconds since the start of 1970. -/
def microseconds : Time → Except Fault Int
  | .whole seconds => .ok (seconds * 1000000)
  | .floating seconds => ofDouble seconds

/-- Does a number fit into a word of so many bits? -/
def fits (bits : Nat) (n : Int) : Bool :=
  Int.bmod n (Nat.pow 2 bits) = n

/-- The first second of the second day of year 1. -/
def earliest : Int := (1 - Calendar.epochDay) * 86400

/-- The moment of a time where local time is so many seconds ahead, from a day before it on. -/
def moment (offset : Int) (time : Time) : Except Fault Moment := do
  let microseconds ← time.microseconds
  let seconds := microseconds.fdiv 1000000
  if !fits 64 seconds then throw .seconds
  let seconds := seconds + offset
  let year := Calendar.yearOfSeconds seconds
  if !fits 32 (year - 1900) then throw .years
  if year < 1 || Calendar.lastYear < year then
    throw (.calendar (.year (Int.bmod year (Nat.pow 2 32))))
  if seconds < earliest then throw (.calendar (.year 0))
  (Calendar.ofMicroseconds (microseconds + offset * 1000000)).mapError .calendar

end Time

end ServiceDiscovery.Log
