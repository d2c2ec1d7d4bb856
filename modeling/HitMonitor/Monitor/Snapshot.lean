import HitMonitor.Projection.Accumulator

/-!
# Window snapshots

A snapshot is the finished content of one window: a plain value that the monitor never touches
again.
-/

namespace HitMonitor

structure Snapshot where
  /-- Sequence number of the window, from zero. -/
  window : Nat
  /-- Messages processed in the window. -/
  messages : Nat
  /-- Hits counted in the window. -/
  hits : Nat
  /-- Records of the window dropped because their pixel index lies outside the grid. -/
  dropped : Nat
  /-- Whether the window was flushed before its period was complete. -/
  isPartial : Bool
  histograms : Histograms
  deriving DecidableEq

end HitMonitor
