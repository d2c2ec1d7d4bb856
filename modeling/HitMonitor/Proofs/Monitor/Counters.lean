import HitMonitor.Proofs.Monitor.Windows
import HitMonitor.Proofs.Record.Reading

/-!
# Lifetime counters

What the counters of a cycle say about all messages it has taken.  Windows come and go without
changing it, so it is stated over the messages alone; only the number of snapshots follows the
windows.
-/

namespace HitMonitor

/-- Whether a payload was too short. -/
@[simp] def LengthDefect.isTruncated : LengthDefect → Bool
  | .truncated .. => true
  | .overlong .. => false

/-- Whether a payload was too long. -/
@[simp] def LengthDefect.isOverlong : LengthDefect → Bool
  | .truncated .. => false
  | .overlong .. => true

namespace MonitorSettings

/-- The defects of some messages, in order. -/
def defects (settings : MonitorSettings) (messages : List (List UInt8)) : List LengthDefect :=
  messages.filterMap fun payload =>
    (RecordReader.read ⟨settings.layout, settings.recordsExpected⟩ payload).defect

@[simp] theorem defects_append (settings : MonitorSettings) (first second : List (List UInt8)) :
    settings.defects (first ++ second) = settings.defects first ++ settings.defects second :=
  List.filterMap_append ..

theorem defects_singleton (settings : MonitorSettings) (payload : List UInt8) :
    settings.defects [payload] =
      (RecordReader.read ⟨settings.layout, settings.recordsExpected⟩ payload).defect.toList := by
  cases defect : (RecordReader.read ⟨settings.layout, settings.recordsExpected⟩ payload).defect with
  | none => simp [defects, defect]
  | some found => simp [defects, defect]

end MonitorSettings

namespace WindowCycle

/-- The counters of a cycle say of the messages taken so far what can be counted in their
payloads. -/
structure Accounts (cycle : WindowCycle) (settings : MonitorSettings)
    (taken : List (List UInt8)) : Prop where
  settings_eq : cycle.settings = settings
  grid : cycle.accumulator.grid = settings.grid
  messages : cycle.counters.messages = taken.length
  records : cycle.counters.records = (settings.indices taken).length
  hits : cycle.counters.hits =
    (settings.indices taken).countP fun index => settings.grid.Addresses index
  dropped : cycle.counters.dropped =
    (settings.indices taken).countP fun index => ¬ settings.grid.Addresses index
  truncated : cycle.counters.truncated = (settings.defects taken).countP (·.isTruncated)
  overlong : cycle.counters.overlong = (settings.defects taken).countP (·.isOverlong)
  snapshots : cycle.counters.snapshots = cycle.window

theorem accounts_fresh (settings : MonitorSettings) : (fresh settings).Accounts settings [] where
  settings_eq := rfl
  grid := rfl
  messages := rfl
  records := rfl
  hits := rfl
  dropped := rfl
  truncated := rfl
  overlong := rfl
  snapshots := rfl

theorem truncated_count (cycle : WindowCycle) (payload : List UInt8) :
    (cycle.count payload).2.1.counters.truncated = cycle.counters.truncated +
      (cycle.reader.read payload).defect.toList.countP (·.isTruncated) := by
  simp only [WindowCycle.count]
  cases (cycle.reader.read payload).defect with
  | none => rfl
  | some defect => cases defect <;> rfl

theorem overlong_count (cycle : WindowCycle) (payload : List UInt8) :
    (cycle.count payload).2.1.counters.overlong = cycle.counters.overlong +
      (cycle.reader.read payload).defect.toList.countP (·.isOverlong) := by
  simp only [WindowCycle.count]
  cases (cycle.reader.read payload).defect with
  | none => rfl
  | some defect => cases defect <;> rfl

namespace Accounts

variable {cycle : WindowCycle} {settings : MonitorSettings} {taken : List (List UInt8)}

/-- A message adds what can be counted in its payload. -/
theorem count (accounts : cycle.Accounts settings taken) (payload : List UInt8) :
    (cycle.count payload).2.1.Accounts settings (taken ++ [payload]) := by
  obtain ⟨rfl, grid, messages, records, hits, dropped, truncated, overlong, snapshots⟩ := accounts
  have adds := Tally.adds_foldl (.start cycle.accumulator) (cycle.reader.read payload).indices
  have added := adds.accumulated
  have refused := adds.dropped
  rw [show (Tally.start cycle.accumulator).accumulated = 0 from rfl, Nat.zero_add] at added
  rw [show (Tally.start cycle.accumulator).dropped = 0 from rfl, Nat.zero_add] at refused
  refine ⟨rfl, adds.grid.trans grid, ?_, ?_, ?_, ?_, ?_, ?_, snapshots⟩
  · rw [List.length_append, ← messages]
    rfl
  · rw [MonitorSettings.indices_append, MonitorSettings.indices_singleton, List.length_append,
      ← records, RecordBatch.length_indices]
    rfl
  · rw [MonitorSettings.indices_append, MonitorSettings.indices_singleton, List.countP_append,
      ← hits, ← grid]
    exact congrArg (cycle.counters.hits + ·) added
  · rw [MonitorSettings.indices_append, MonitorSettings.indices_singleton, List.countP_append,
      ← dropped, ← grid]
    exact congrArg (cycle.counters.dropped + ·) refused
  · rw [MonitorSettings.defects_append, MonitorSettings.defects_singleton, List.countP_append,
      ← truncated]
    exact truncated_count cycle payload
  · rw [MonitorSettings.defects_append, MonitorSettings.defects_singleton, List.countP_append,
      ← overlong]
    exact overlong_count cycle payload

theorem advance (accounts : cycle.Accounts settings taken) (delivered : Bool) :
    (cycle.advance delivered).Accounts settings taken where
  settings_eq := accounts.settings_eq
  grid := accounts.grid
  messages := accounts.messages
  records := accounts.records
  hits := accounts.hits
  dropped := accounts.dropped
  truncated := accounts.truncated
  overlong := accounts.overlong
  snapshots := congrArg (· + 1) accounts.snapshots

theorem idle (accounts : cycle.Accounts settings taken) (polls : Nat) :
    (cycle.idle polls).Accounts settings taken where
  settings_eq := accounts.settings_eq
  grid := accounts.grid
  messages := accounts.messages
  records := accounts.records
  hits := accounts.hits
  dropped := accounts.dropped
  truncated := accounts.truncated
  overlong := accounts.overlong
  snapshots := accounts.snapshots

end Accounts

end WindowCycle

namespace Session

variable {Sunk : Type} {settings : MonitorSettings} {taken : List (List UInt8)}

/-- Only a message changes what a cycle accounts for. -/
theorem accounts_step (session : Session Sunk) (accounts : session.cycle.Accounts settings taken)
    (event : CycleEvent Sunk) :
    (session.step event).cycle.Accounts settings (taken ++ event.payload?.toList) := by
  cases event with
  | message payload sink =>
      have counted := accounts.count payload
      rw [step_message]
      simp only
      split
      next => exact counted.advance _
      next => exact counted
  | flush sink =>
      simp only [step_flush, CycleEvent.payload?, Option.toList_none, List.append_nil]
      split
      next => exact accounts
      next => exact accounts.advance _
  | idle =>
      simp only [step_idle, CycleEvent.payload?, Option.toList_none, List.append_nil]
      exact accounts.idle 1

theorem accounts_play (session : Session Sunk) (accounts : session.cycle.Accounts settings taken)
    (events : List (CycleEvent Sunk)) :
    (session.play events).cycle.Accounts settings
      (taken ++ events.filterMap CycleEvent.payload?) := by
  induction events generalizing session taken with
  | nil => simpa using accounts
  | cons event events ih =>
      have played := ih (session.step event) (accounts_step session accounts event)
      rw [List.append_assoc, ← CycleEvent.filterMap_payload?_cons] at played
      exact played

/-! ## Sessions without a flush -/

theorem triggers_play_messages (session : Session Sunk) (payloads : List (List UInt8))
    (sink : Sink Sunk) (before : ∀ emission ∈ session.emissions, emission.trigger = .message) :
    ∀ emission ∈ (session.play (payloads.map (.message · sink))).emissions,
      emission.trigger = .message := by
  induction payloads generalizing session with
  | nil => exact before
  | cons payload payloads ih =>
      apply ih
      rw [step_message]
      simp only
      split
      next =>
        intro emission emitted
        rcases List.mem_append.mp emitted with earlier | last
        · exact before emission earlier
        · rw [List.mem_singleton.mp last]
      next => exact before

/-- Windows that are never flushed are full, so their number follows from that of the messages. -/
theorem Covers.length_of_triggers {session : Session Sunk} {blocks : List (List (List UInt8))}
    {opened : List (List UInt8)} (covers : session.Covers settings blocks opened)
    (unflushed : ∀ emission ∈ session.emissions, emission.trigger = .message) :
    blocks.length = (blocks.flatten ++ opened).length / settings.period := by
  have full : ∀ block ∈ blocks, block.length = settings.period := by
    intro block member
    obtain ⟨index, inside, rfl⟩ := List.getElem_of_mem member
    have emitted : index < session.emissions.length := covers.closed.length_eq ▸ inside
    have closes := covers.closed.closes index session.emissions[index] blocks[index]
      (List.getElem?_eq_getElem emitted) (List.getElem?_eq_getElem inside)
    exact closes.length_of_message (unflushed _ (List.getElem_mem emitted))
  have flat : blocks.flatten.length = blocks.length * settings.period := by
    rw [List.length_flatten, List.map_eq_replicate_iff.mpr full, List.sum_replicate_nat]
  have isOpen := covers.isOpen
  have positive : 0 < settings.period := Nat.zero_lt_of_lt isOpen
  rw [List.length_append, flat, Nat.mul_comm, Nat.mul_add_div positive, Nat.div_eq_of_lt isOpen,
    Nat.add_zero]

/-- Without a flush, the messages alone determine the number of snapshots. -/
theorem snapshots_play_messages (valid : settings.validate = .ok ()) (sunk : Sunk)
    (payloads : List (List UInt8)) (sink : Sink Sunk) :
    (play { cycle := .fresh settings, sink := sunk }
      (payloads.map (.message · sink))).cycle.counters.snapshots =
      payloads.length / settings.period := by
  obtain ⟨blocks, opened, covers, partition⟩ :=
    (covers_fresh valid sunk).play (payloads.map (.message · sink))
  have accounts := accounts_play { cycle := .fresh settings, sink := sunk }
    (WindowCycle.accounts_fresh settings) (payloads.map (.message · sink))
  have unflushed := triggers_play_messages { cycle := .fresh settings, sink := sunk } payloads sink
    (fun emission emitted => by cases emitted)
  rw [accounts.snapshots, covers.holds.window_eq, covers.length_of_triggers unflushed, partition,
    CycleEvent.filterMap_payload?_messages]
  rfl

end Session

end HitMonitor
