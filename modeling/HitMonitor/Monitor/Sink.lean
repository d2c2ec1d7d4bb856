import HitMonitor.Monitor.Notice
import HitMonitor.Monitor.Snapshot

/-!
# Snapshot sinks

A sink takes the snapshot of each window that closes.  It may succeed or fail and keeps a state of
its own, so its behaviour may depend on everything it has seen.
-/

namespace HitMonitor

/-- What a sink did with one snapshot. -/
structure Delivery (State : Type) where
  outcome : Except MonitoringError Unit
  state : State
  notices : List Notice := []

abbrev Sink (State : Type) := Snapshot → State → Delivery State

/-- The delivery seen by a sink whose state holds the state of the one that made it. -/
def Delivery.map {State Outer : Type} (wrap : State → Outer) (delivery : Delivery State) :
    Delivery Outer where
  outcome := delivery.outcome
  state := wrap delivery.state
  notices := delivery.notices

namespace Sink

/-- Fails for the given windows and leaves the others to a sink. -/
def refusing {State : Type} (windows : List Nat) (reason : String) (sink : Sink State) :
    Sink State := fun snapshot state =>
  if snapshot.window ∈ windows then { outcome := .error (.sink reason), state := state }
  else sink snapshot state

/-- Collects snapshots, first one first. -/
def collecting : Sink (List Snapshot) := fun snapshot taken =>
  { outcome := .ok (), state := taken ++ [snapshot] }

/-- Writes no files and reports the totals of each window. -/
def totals {State : Type} : Sink State := fun snapshot state =>
  { outcome := .ok ()
    state := state
    notices := [.totals snapshot.window snapshot.histograms.highest snapshot.dropped] }

end Sink

/-- A queue between a monitor and a receiver that may go away. -/
structure SnapshotChannel where
  queue : List Snapshot
  isOpen : Bool
  deriving DecidableEq

namespace SnapshotChannel

def opened : SnapshotChannel := ⟨[], true⟩

/-- The receiver goes away together with what it has not read. -/
def close (_ : SnapshotChannel) : SnapshotChannel := ⟨[], false⟩

/-- The receiver reads everything that is queued. -/
def drain (channel : SnapshotChannel) : List Snapshot × SnapshotChannel :=
  (channel.queue, { channel with queue := [] })

/-- Forwards snapshots as long as there is a receiver. -/
def sink : Sink SnapshotChannel := fun snapshot channel =>
  if channel.isOpen then
    { outcome := .ok (), state := { channel with queue := channel.queue ++ [snapshot] } }
  else
    { outcome := .error .receiverGone, state := channel }

end SnapshotChannel

end HitMonitor
