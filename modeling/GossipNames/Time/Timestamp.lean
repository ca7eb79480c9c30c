import GossipNames.Time.Calendar

/-! Points in time with nanosecond precision, leap seconds included. -/

namespace GossipNames

/-- Seconds since the first of January 1970 and nanoseconds within the second. A leap second is
the last second of a minute with a second more of nanoseconds. -/
structure Timestamp where
  seconds : Int
  nanos : Nat
  nanosBound : nanos < 2000000000
  leapAtMinuteEnd : 1000000000 ≤ nanos → seconds % 60 = 59
  deriving DecidableEq

namespace Timestamp

def ofParts? (seconds : Int) (nanos : Nat) : Option Timestamp :=
  if within : nanos < 2000000000 ∧ (1000000000 ≤ nanos → seconds % 60 = 59) then
    some { seconds, nanos, nanosBound := within.1, leapAtMinuteEnd := within.2 }
  else none

def ofSeconds (seconds : Int) : Timestamp where
  seconds
  nanos := 0
  nanosBound := by omega
  leapAtMinuteEnd := by omega

/-- Whole seconds and a part of a second below one. -/
def ofPlainParts (seconds : Int) (nanos : Nat) : Timestamp where
  seconds := seconds + nanos / 1000000000
  nanos := nanos % 1000000000
  nanosBound := by omega
  leapAtMinuteEnd := by omega

/-- Seconds count before nanoseconds. -/
def isBefore (first second : Timestamp) : Bool :=
  first.seconds < second.seconds
    ∨ first.seconds = second.seconds ∧ first.nanos < second.nanos

def inLeapSecond (time : Timestamp) : Bool :=
  1000000000 ≤ time.nanos

/-- A time and a span later. Within a leap second the span may stay inside it; otherwise the leap
second counts as the last plain second of its minute. -/
def after (time : Timestamp) (seconds nanos : Nat) : Timestamp :=
  if inside : time.inLeapSecond ∧ seconds = 0 ∧ time.nanos + nanos < 2000000000 then
    { seconds := time.seconds, nanos := time.nanos + nanos,
      nanosBound := inside.2.2,
      leapAtMinuteEnd := fun _ => time.leapAtMinuteEnd (by
        have := inside.1
        simpa [inLeapSecond] using this) }
  else
    ofPlainParts (time.seconds + seconds) (time.nanos % 1000000000 + nanos)

/-- The last second of year 9999, the latest time with a four-digit year. -/
def latest : Timestamp :=
  ofSeconds 253402300799

end Timestamp

end GossipNames
