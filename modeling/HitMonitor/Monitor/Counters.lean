/-!
# Monitor counters

Counters over the lifetime of a monitor.  Unlike the planes they are not reset when a window closes.
-/

namespace HitMonitor

structure LifetimeCounters where
  /-- Messages processed. -/
  messages : Nat := 0
  /-- Records read. -/
  records : Nat := 0
  /-- Hits added to the planes. -/
  hits : Nat := 0
  /-- Records dropped because their pixel index lies outside the grid. -/
  dropped : Nat := 0
  /-- Payloads shorter than expected or ending inside a record. -/
  truncated : Nat := 0
  /-- Payloads with more records than expected. -/
  overlong : Nat := 0
  /-- Polls that found nothing. -/
  idlePolls : Nat := 0
  /-- Snapshots handed to the sink. -/
  snapshots : Nat := 0
  /-- Snapshots the sink failed to take. -/
  failedDeliveries : Nat := 0
  deriving DecidableEq, Repr, Inhabited

namespace LifetimeCounters

def zero : LifetimeCounters := {}

/-- Set all counters back to zero. -/
def clear (_ : LifetimeCounters) : LifetimeCounters := zero

/-- The share of the records read that were dropped, if any was read.  Both counters are
rounded to binary64 before they are divided. -/
def droppedShare (counters : LifetimeCounters) : Option Float :=
  if counters.records = 0 then none
  else some (Float.ofNat counters.dropped / Float.ofNat counters.records)

/-- Payloads whose length did not match. -/
def defective (counters : LifetimeCounters) : Nat :=
  counters.truncated + counters.overlong

end LifetimeCounters

end HitMonitor
