/-! Ticks at even distances on a clock that never goes back. -/

namespace GossipNames

/-- One more second than the clock counts, in nanoseconds. -/
def Instant.bound : Int := 9223372036854775808 * 1000000000

/-- A reading of the clock in nanoseconds. Whole seconds fit a signed number of 64 bits. -/
structure Instant where
  nanos : Int
  inRange : -Instant.bound ≤ nanos ∧ nanos < Instant.bound
  deriving DecidableEq, Repr

namespace Instant

def zero : Instant where
  nanos := 0
  inRange := by decide

def ofNanos? (nanos : Int) : Option Instant :=
  if inRange : -bound ≤ nanos ∧ nanos < bound then
    some { nanos, inRange }
  else none

/-- The instant a span later, when the clock gets that far. -/
def after? (instant : Instant) (span : Nat) : Option Instant :=
  ofNanos? (instant.nanos + span)

end Instant

/-- The next tick, and the distance between two. -/
structure Ticker where
  due : Instant
  period : Nat
  deriving DecidableEq, Repr

/-- A clock cannot tick without a distance between the ticks; the standard one is kept then. -/
def usablePeriod (wanted standard : Nat) : Nat :=
  if wanted = 0 then standard else wanted

namespace Ticker

/-- The first tick is at once. -/
def now (start : Instant) (period : Nat) : Ticker where
  due := start
  period

/-- The first tick is one period away. -/
def later? (start : Instant) (period : Nat) : Option Ticker := do
  return { due := ← start.after? period, period }

/-- A tick that is not later than this is on time. -/
def tolerance : Nat := 5000000

def thirtyYears : Nat := 30 * 365 * 86400 * 1000000000

/-- The tick after one that is taken at `now`. Ticks that were missed are left out. How long ago the
last of those was due is counted in 64 bits of nanoseconds, and there is no next tick when it was
longer ago than that, or when the clock does not get that far. -/
def next? (ticker : Ticker) (now : Instant) : Option Ticker := do
  let late := now.nanos - ticker.due.nanos
  if late ≤ tolerance then
    let due ← ticker.due.after? ticker.period <|> now.after? thirtyYears
    return { ticker with due }
  else
    let due ← now.after? ticker.period
    if UInt64.size ≤ late % ticker.period then none
    else return { ticker with due := ← Instant.ofNanos? (due.nanos - late % ticker.period) }

/-- The tick after those that are taken at the readings, one after the other. -/
def ticks? : Ticker → List Instant → Option Ticker
  | ticker, [] => some ticker
  | ticker, now :: rest => do (← ticker.next? now).ticks? rest

end Ticker

end GossipNames
