/-!
# Instants

An instant is a second of universal time and the nanoseconds since that second began. A leap second
belongs to the second before it, with nanoseconds from one to two billion. `Instant.since` is the
exact difference in nanoseconds; `TimeUnit.elapsed` counts its whole units, truncated toward zero.
-/

namespace DeliveryGate

/-- A moment of universal time: whole seconds from 1970-01-01 and nanoseconds of the second, which
reach into `10 ^ 9 … 2 * 10 ^ 9` during a leap second. -/
structure Instant where
  seconds : Int
  nanos : Nat
  deriving DecidableEq, Repr, Inhabited

namespace Instant

def secondsPerDay : Int := 86400

/-- One second in nanoseconds. -/
def second : Nat := 1000000000

/-- The second of the day. -/
def timeOfDay (t : Instant) : Int := t.seconds % secondsPerDay

def isLeap (t : Instant) : Bool := second ≤ t.nanos

def lt (s t : Instant) : Bool :=
  s.seconds < t.seconds || (s.seconds == t.seconds && s.nanos < t.nanos)

/-- One if a leap second of the earlier time of day lies between the two, counted with the sign of
the way from `start` to `now`; a leap second is known only from an end that lies in it. -/
def leapBetween (now start : Instant) : Int :=
  if start.timeOfDay < now.timeOfDay then (if start.isLeap then 1 else 0)
  else if now.timeOfDay < start.timeOfDay then (if now.isLeap then -1 else 0)
  else 0

/-- The nanoseconds from `start` to `now`, negative if `now` is the earlier one. -/
def since (now start : Instant) : Int :=
  (now.seconds - start.seconds + leapBetween now start) * second
    + ((now.nanos : Int) - start.nanos)

/-- The instant this many milliseconds later, or earlier if negative. Inside a leap second time
goes on; a step out of it counts from its end that is passed. -/
def addMillis (t : Instant) (ms : Int) : Instant :=
  let addSeconds := Int.tdiv ms 1000
  let addNanos := Int.tmod ms 1000 * 1000000
  let nanos : Int := t.nanos
  if t.isLeap && addSeconds == 0 && (addNanos ≤ 0 || nanos + addNanos < 2 * second) then
    ⟨t.seconds, (nanos + addNanos).toNat⟩
  else
    let (seconds, nanos) :=
      if !t.isLeap then (t.seconds, nanos)
      else if 0 < addSeconds || 0 < addNanos then (t.seconds, nanos - second)
      else (t.seconds + 1, nanos - second)
    let total := nanos + addNanos
    ⟨seconds + addSeconds + total / second, (total % second).toNat⟩

end Instant

/-- The unit in which a presence window is given. -/
inductive TimeUnit where
  | minutes
  | hours
  | days
  deriving DecidableEq, Repr

namespace TimeUnit

def seconds : TimeUnit → Int
  | .minutes => 60
  | .hours => 3600
  | .days => 86400

/-- Whole units from `start` to `now`, truncated toward zero. -/
def elapsed (unit : TimeUnit) (now start : Instant) : Int :=
  Int.tdiv (Int.tdiv (now.since start) Instant.second) unit.seconds

end TimeUnit

end DeliveryGate
