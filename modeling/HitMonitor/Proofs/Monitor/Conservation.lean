import HitMonitor.Proofs.Monitor.Counters
import HitMonitor.Proofs.Monitor.Journal
import Mathlib.Algebra.GroupWithZero.Nat

/-!
# Conservation of the counters

A monitor counts the same messages, records and hits in several places: for a message, for the open
window and over its lifetime, and the snapshots carry away what a window held.  No message, record
or hit is lost between these places, however windows are closed and whatever the sinks do.
-/

namespace HitMonitor

/-- Whether the sink failed to take a snapshot. -/
def Emission.failed (emission : Emission) : Bool := !emission.outcome.isOk

theorem Emission.countP_failed_singleton (emission : Emission) :
    [emission].countP failed = if emission.outcome.isOk then 0 else 1 := by
  rw [List.countP_singleton, failed]
  cases emission.outcome.isOk <;> rfl

namespace WindowCycle

/-! ## One message -/

theorem accumulated_count (cycle : WindowCycle) (payload : List UInt8) :
    (cycle.count payload).1.accumulated = (cycle.reader.read payload).indices.countP
      fun index => cycle.accumulator.grid.Addresses index :=
  let adds := Tally.adds_foldl (.start cycle.accumulator) (cycle.reader.read payload).indices
  adds.accumulated.trans (Nat.zero_add _)

theorem dropped_count (cycle : WindowCycle) (payload : List UInt8) :
    (cycle.count payload).1.dropped = (cycle.reader.read payload).indices.countP
      fun index => ¬ cycle.accumulator.grid.Addresses index :=
  let adds := Tally.adds_foldl (.start cycle.accumulator) (cycle.reader.read payload).indices
  adds.dropped.trans (Nat.zero_add _)

/-- The planes get the hits that the receipt of a message reports. -/
theorem hits_count (cycle : WindowCycle) (payload : List UInt8) :
    (cycle.count payload).2.1.accumulator.hits =
      cycle.accumulator.hits + (cycle.count payload).1.accumulated := by
  rw [accumulated_count]
  exact (Tally.adds_foldl (.start cycle.accumulator) (cycle.reader.read payload).indices).hits

/-- Each record of a message is either added to the planes or dropped. -/
theorem records_count (cycle : WindowCycle) (payload : List UInt8) :
    (cycle.count payload).1.records =
      (cycle.count payload).1.accumulated + (cycle.count payload).1.dropped := by
  have records : (cycle.count payload).1.records = (cycle.reader.read payload).indices.length :=
    (RecordBatch.length_indices _).symm
  rw [records, accumulated_count, dropped_count,
    List.length_eq_countP_add_countP fun index => decide (cycle.accumulator.grid.Addresses index)]
  simp only [decide_eq_true_eq]

/-- A message has at most one defect. -/
theorem defective_count (cycle : WindowCycle) (payload : List UInt8) :
    (cycle.count payload).2.1.counters.truncated + (cycle.count payload).2.1.counters.overlong ≤
      cycle.counters.truncated + cycle.counters.overlong + 1 := by
  rw [truncated_count, overlong_count]
  cases (cycle.reader.read payload).defect with
  | none => simp
  | some defect => cases defect <;> simp <;> omega

/-! ## Windows and lifetime -/

/-- The lifetime counters of a cycle are those of the snapshots handed over and of the open
window. -/
structure Balances (cycle : WindowCycle) (emissions : List Emission) : Prop where
  records : cycle.counters.records = cycle.counters.hits + cycle.counters.dropped
  messages : cycle.counters.messages =
    (emissions.map (·.snapshot.messages)).sum + cycle.openMessages
  hits : cycle.counters.hits =
    (emissions.map (·.snapshot.hits)).sum + cycle.accumulator.hits
  dropped : cycle.counters.dropped =
    (emissions.map (·.snapshot.dropped)).sum + cycle.openDropped
  snapshots : cycle.counters.snapshots = cycle.window
  attempts : cycle.counters.snapshots = emissions.length
  failures : cycle.counters.failedDeliveries = emissions.countP Emission.failed
  defective : cycle.counters.truncated + cycle.counters.overlong ≤ cycle.counters.messages

theorem balances_fresh (settings : MonitorSettings) : (fresh settings).Balances [] where
  records := rfl
  messages := rfl
  hits := rfl
  dropped := rfl
  snapshots := rfl
  attempts := rfl
  failures := rfl
  defective := Nat.le_refl 0

namespace Balances

variable {cycle : WindowCycle} {emissions : List Emission}

/-- What a message adds over the lifetime it adds to the open window too. -/
theorem count (balances : cycle.Balances emissions) (payload : List UInt8) :
    (cycle.count payload).2.1.Balances emissions where
  records := by
    have split := cycle.records_count payload
    have before := balances.records
    change cycle.counters.records + (cycle.count payload).1.records =
      cycle.counters.hits + (cycle.count payload).1.accumulated +
        (cycle.counters.dropped + (cycle.count payload).1.dropped)
    omega
  messages := congrArg (· + 1) balances.messages
  hits := by
    rw [hits_count, ← Nat.add_assoc, ← balances.hits]
    rfl
  dropped := by
    have before := congrArg (· + (cycle.count payload).1.dropped) balances.dropped
    exact before.trans (Nat.add_assoc ..)
  snapshots := balances.snapshots
  attempts := balances.attempts
  failures := balances.failures
  defective := Nat.le_trans (cycle.defective_count payload) (Nat.succ_le_succ balances.defective)

/-- What leaves the open window leaves in the snapshot. -/
theorem close {Sunk : Type} {session : Session Sunk}
    (balances : session.cycle.Balances session.emissions) (trigger : Trigger) (sink : Sink Sunk) :
    (session.close trigger sink).cycle.Balances (session.close trigger sink).emissions where
  records := balances.records
  messages := by
    simp only [Session.close, List.map_append, List.sum_append]
    exact balances.messages
  hits := by
    simp only [Session.close, List.map_append, List.sum_append]
    exact balances.hits
  dropped := by
    simp only [Session.close, List.map_append, List.sum_append]
    exact balances.dropped
  snapshots := congrArg (· + 1) balances.snapshots
  attempts := by
    simp only [Session.close, List.length_append]
    exact congrArg (· + 1) balances.attempts
  failures := by
    simp only [Session.close, List.countP_append, Emission.countP_failed_singleton]
    rw [← balances.failures]
    rfl
  defective := balances.defective

theorem idle (balances : cycle.Balances emissions) (polls : Nat) :
    (cycle.idle polls).Balances emissions where
  records := balances.records
  messages := balances.messages
  hits := balances.hits
  dropped := balances.dropped
  snapshots := balances.snapshots
  attempts := balances.attempts
  failures := balances.failures
  defective := balances.defective

end Balances

/-! ## Receipts and lifetime -/

/-- The lifetime counters of a cycle are those of the receipts its callers got. -/
structure Reports (cycle : WindowCycle) (receipts : List Receipt) : Prop where
  /-- Each message that was taken has a receipt, and no other receipts were given. -/
  messages : cycle.counters.messages = receipts.length
  records : cycle.counters.records = (receipts.map (·.records)).sum
  hits : cycle.counters.hits = (receipts.map (·.accumulated)).sum
  dropped : cycle.counters.dropped = (receipts.map (·.dropped)).sum
  split : ∀ receipt ∈ receipts, receipt.records = receipt.accumulated + receipt.dropped

namespace Reports

variable {cycle : WindowCycle} {receipts : List Receipt}

/-- A message is counted over the lifetime as its receipt says. -/
theorem count (reports : cycle.Reports receipts) (payload : List UInt8) :
    (cycle.count payload).2.1.Reports (receipts ++ [(cycle.count payload).1]) where
  messages := by
    rw [List.length_append, ← reports.messages]
    rfl
  records := by
    rw [List.map_append, List.sum_append, ← reports.records]
    rfl
  hits := by
    rw [List.map_append, List.sum_append, ← reports.hits]
    rfl
  dropped := by
    rw [List.map_append, List.sum_append, ← reports.dropped]
    rfl
  split receipt member := by
    rcases List.mem_append.mp member with earlier | last
    · exact reports.split receipt earlier
    · rw [List.mem_singleton.mp last]
      exact cycle.records_count payload

theorem advance (reports : cycle.Reports receipts) (taken : Bool) :
    (cycle.advance taken).Reports receipts where
  messages := reports.messages
  records := reports.records
  hits := reports.hits
  dropped := reports.dropped
  split := reports.split

theorem idle (reports : cycle.Reports receipts) (polls : Nat) :
    (cycle.idle polls).Reports receipts where
  messages := reports.messages
  records := reports.records
  hits := reports.hits
  dropped := reports.dropped
  split := reports.split

end Reports

end WindowCycle

/-! ## Whole histories -/

namespace Journal

variable {Sunk : Type}

/-- The counters of a journal agree with everything that callers and sinks have seen. -/
structure Conserves (journal : Journal Sunk) : Prop where
  balances : journal.cycle.Balances journal.emissions
  reports : journal.cycle.Reports journal.receipts
  /-- Each snapshot was announced, by the receipt of its last message or by a flush. -/
  announced : journal.cycle.counters.snapshots =
    (journal.receipts.countP fun receipt => receipt.emitted) + journal.flushes.count true

theorem snapshots_close (journal : Journal Sunk) (trigger : Trigger) (sink : Sink Sunk) :
    (journal.close trigger sink).cycle.counters.snapshots =
      journal.cycle.counters.snapshots + 1 := rfl

theorem conserves_blank (settings : MonitorSettings) (sunk : Sunk) :
    (blank (.fresh settings) sunk).Conserves where
  balances := WindowCycle.balances_fresh settings
  reports := ⟨rfl, rfl, rfl, rfl, fun _ member => by cases member⟩
  announced := rfl

theorem Conserves.step {journal : Journal Sunk} (conserves : journal.Conserves)
    (event : CycleEvent Sunk) : (journal.step event).Conserves := by
  obtain ⟨balances, reports, announced⟩ := conserves
  cases event with
  | message payload sink =>
      have counted : (journal.count payload).cycle.Balances (journal.count payload).emissions :=
        balances.count payload
      have reported : (journal.count payload).cycle.Reports (journal.count payload).receipts :=
        reports.count payload
      -- The receipt announces the snapshot before the window closes, so the books of snapshots are
      -- level again only behind the close.
      have emitted := journal.countP_emitted_count payload
      have before : (journal.count payload).cycle.counters.snapshots = _ := announced
      rw [step_message]
      simp only
      split
      next complete =>
        refine ⟨counted.close .message sink, reported.advance _, ?_⟩
        rw [snapshots_close, receipts_close, flushes_close]
        simp only [complete, if_true] at emitted
        change _ = _ + journal.flushes.count true
        omega
      next incomplete =>
        refine ⟨counted, reported, ?_⟩
        simp only [incomplete, if_false] at emitted
        change _ = _ + journal.flushes.count true
        omega
  | flush sink =>
      rw [step_flush]
      split
      next =>
        refine ⟨balances, reports, ?_⟩
        simpa using announced
      next =>
        refine ⟨balances.close .flush sink, reports.advance _, ?_⟩
        rw [List.count_append, List.count_singleton_self, ← Nat.add_assoc]
        exact congrArg (· + 1) announced
  | idle =>
      rw [step_idle]
      exact ⟨balances.idle 1, reports.idle 1, announced⟩

theorem conserves_serveAll (settings : MonitorSettings) (sunk : Sunk)
    (requests : List (CycleRequest × Sink Sunk)) :
    ((blank (.fresh settings) sunk).serveAll requests).Conserves :=
  serveAll_of_step (fun _ event conserves => conserves.step event)
    (conserves_blank settings sunk) requests

/-- Whatever is asked of a monitor, in any order and with any sinks, nothing it counts gets lost:
its lifetime counters agree with the snapshots and the open window, with the receipts of all
messages and with the answers of the sinks. -/
theorem requests_conserve_counters {settings : MonitorSettings} {cycle : WindowCycle}
    (accepted : WindowCycle.new settings = .ok cycle) (sunk : Sunk)
    (requests : List (CycleRequest × Sink Sunk)) :
    ((blank cycle sunk).serveAll requests).Conserves := by
  obtain ⟨_, rfl⟩ := WindowCycle.new_eq_ok_iff.mp accepted
  exact conserves_serveAll settings sunk requests

/-- A full window whose sink fails, a run that opens the next one, and a flush of it. -/
theorem requests_conserve_counters_refused :
    let settings := { MonitorSettings.standard with period := 2, recordsExpected := none }
    let message : List UInt8 := [0, 0, 0, 0, 7, 0, 0, 0, 0, 0, 0, 0]
    let refusing := Sink.collecting.refusing [0] "disk full"
    let requests : List (CycleRequest × Sink (List Snapshot)) :=
      [(.receive message, refusing), (.receive [1], refusing),
        (.run Source.script [.message message, .empty, .stop] false, Sink.collecting),
        (.flush, Sink.collecting)]
    WindowCycle.new settings = .ok (.fresh settings) ∧
      ((blank (.fresh settings) []).serveAll requests).Conserves := by
  intro settings message refusing requests
  have accepted : WindowCycle.new settings = .ok (.fresh settings) := rfl
  exact ⟨accepted, requests_conserve_counters accepted [] requests⟩

end Journal

end HitMonitor
