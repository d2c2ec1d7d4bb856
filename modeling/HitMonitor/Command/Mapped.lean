import HitMonitor.Command.Run

/-!
# Replays over a mapped file

A replay does not copy its capture.  The file is mapped when it is opened, and the bytes of a frame
are read only when the frame is handed over, possibly behind snapshots that have been written in the
meantime.  Mapping a file is sound only as long as nobody writes to it, and the due time of a
message must be one that the clock can show.  A replay breaks off at the first poll that finds
otherwise; nothing is said about what it leaves behind.
-/

namespace HitMonitor

/-- Why a replay breaks off. -/
inductive ReplayFault where
  /-- The clock cannot show when the next message is due. -/
  | dueTime
  /-- A frame is read from a file that is no longer what it was when it was mapped. -/
  | captureChanged
  deriving DecidableEq, Repr

/-- Whether the file of a capture still holds what it held when it was opened. -/
def Capture.isUnchanged (capture : Capture) (tree : FileTree) : Bool :=
  match tree.readBytes capture.path with
  | .ok bytes => bytes = capture.bytes
  | .error _ => false

namespace RunState

variable {Fed Sunk : Type}

/-- The state of a run behind the next poll, if there is one and it does not end the run. -/
def next? (source : Source Fed) (sink : Sink Sunk) (state : RunState Fed Sunk) :
    Option (RunState Fed Sunk) :=
  if state.stopRequested then
    none
  else
    let polled := source.poll state.cycle.settings.pollWaitMs state.source
    match polled.outcome with
    | .message payload => some ((state.afterPoll polled).receive sink payload)
    | .empty => some (state.afterPoll polled).countEmpty
    | .closed => none

/-- The state behind the next poll comes from a message or from a poll in vain. -/
theorem next?_cases {source : Source Fed} {sink : Sink Sunk} {state next : RunState Fed Sunk}
    (moves : state.next? source sink = some next) :
    let polled := source.poll state.cycle.settings.pollWaitMs state.source
    state.stopRequested = false ∧
      ((∃ payload, polled.outcome = .message payload ∧
        next = (state.afterPoll polled).receive sink payload) ∨
      polled.outcome = .empty ∧ next = (state.afterPoll polled).countEmpty) := by
  intro polled
  unfold next? at moves
  split at moves
  next => cases moves
  next down =>
    refine ⟨by simpa using down, ?_⟩
    dsimp only at moves
    split at moves
    next payload outcome => exact .inl ⟨payload, outcome, (Option.some.inj moves).symm⟩
    next outcome => exact .inr ⟨outcome, (Option.some.inj moves).symm⟩
    next => cases moves

theorem pending_next?_lt {source : Source Fed} {sink : Sink Sunk} {state next : RunState Fed Sunk}
    (moves : state.next? source sink = some next) :
    source.pending next.source < source.pending state.source := by
  obtain ⟨_, ⟨payload, outcome, rfl⟩ | ⟨outcome, rfl⟩⟩ := next?_cases moves
  all_goals exact source.pending_lt _ _ (by simp [outcome])

/-- The first fault of a run, when `check` tells the fault of the poll that comes next. -/
def fault? (source : Source Fed) (sink : Sink Sunk)
    (check : RunState Fed Sunk → Option ReplayFault) (state : RunState Fed Sunk) :
    Option ReplayFault :=
  if state.stopRequested then
    none
  else
    match check state with
    | some fault => some fault
    | none =>
        match _moves : state.next? source sink with
        | some next => next.fault? source sink check
        | none => none
termination_by source.pending state.source
decreasing_by exact pending_next?_lt _moves

end RunState

namespace ReplayRequest

/-- What is wrong with the next poll of a replay, if anything is.  The due time is worked out before
the frame is read. -/
def pollFault? {Sunk : Type} (latest : Nat) (capture : Capture) (treeOf : Sunk → FileTree)
    (state : RunState ReplayClock Sunk) : Option ReplayFault :=
  let clock := state.source
  let timeout := state.cycle.settings.pollWaitMs * ReplayClock.ticksPerMs
  match clock.replay.pollInTime latest clock.now timeout with
  | .error _ => some .dueTime
  | .ok polled =>
      match polled.outcome with
      | .message _ =>
          if capture.isUnchanged (treeOf state.sink) then none else some .captureChanged
      | .empty | .closed => none

/-- The first fault of a replay into a sink. -/
def faultInto? {Sunk : Type} (request : ReplayRequest) (timing : ReplayTiming) (latest : Nat)
    (sink : Sink Sunk) (sunk : Sunk) (treeOf : Sunk → FileTree) (settings : MonitorSettings)
    (capture : Capture) : Option ReplayFault :=
  match WindowCycle.new settings with
  | .error _ => none
  | .ok cycle =>
      let clock := request.clock timing (request.replayOf settings capture)
      let (signal, board) := stopSignal clock
      (RunState.under board signal cycle clock sunk).fault? ReplayClock.source sink
        (pollFault? latest capture treeOf)

/-- The first fault of a replay. -/
def fault? (request : ReplayRequest) (timing : ReplayTiming) (latest : Nat) (tree : FileTree) :
    Option ReplayFault :=
  match request.prepare tree with
  | .error _ => none
  | .ok (settings, capture) =>
      match request.snapshotFormat with
      | none => request.faultInto? timing latest Sink.totals () (fun _ => tree) settings capture
      | some format =>
          match SnapshotWriter.create format request.outputDirectory tree with
          | .error _ => none
          | .ok folder =>
              request.faultInto? timing latest SnapshotFolder.sink folder SnapshotFolder.tree
                settings capture

/-- Replay a capture from its mapped file, under a clock that shows no time behind `latest`. -/
def runMapped (request : ReplayRequest) (timing : ReplayTiming) (latest : Nat) (tree : FileTree) :
    Except ReplayFault Outcome :=
  match request.fault? timing latest tree with
  | some fault => .error fault
  | none => .ok (request.run timing tree)

end ReplayRequest

end HitMonitor
