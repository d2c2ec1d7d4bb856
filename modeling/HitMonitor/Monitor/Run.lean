import HitMonitor.Monitor.Cycle
import HitMonitor.Monitor.Source
import HitMonitor.Monitor.StopSignal

/-!
# Monitor run

A run polls a source and counts its messages until the stop signal is raised or the source closes.
The signal is looked at once before each poll, so a message is either processed completely or not
taken from the source at all.
-/

namespace HitMonitor

/-- Everything a run changes. -/
structure RunState (Fed Sunk : Type) where
  cycle : WindowCycle
  source : Fed
  sink : Sunk
  /-- Whether the stop signal is raised. -/
  stopRequested : Bool
  notices : Array Notice := #[]

/-- Why a run stopped and what it left behind. -/
structure RunResult (Fed Sunk : Type) where
  reason : StopReason
  final : RunState Fed Sunk

namespace RunState

variable {Fed Sunk : Type}

/-- Add notices behind those of the run so far. -/
def note (state : RunState Fed Sunk) (notices : List Notice) : RunState Fed Sunk :=
  { state with notices := state.notices ++ notices }

/-- The state after a poll, before its message is processed. -/
def afterPoll (state : RunState Fed Sunk) (polled : Polled Fed) : RunState Fed Sunk :=
  { state.note polled.notices with
    source := polled.state
    stopRequested := state.stopRequested || polled.requestsStop }

/-- Process the message of a poll. -/
def receive (sink : Sink Sunk) (state : RunState Fed Sunk) (payload : List UInt8) :
    RunState Fed Sunk :=
  let stepped := state.cycle.receive sink payload state.sink
  { state.note stepped.notices with
    cycle := stepped.cycle
    sink := stepped.sink }

/-- Count a poll that found nothing. -/
def countEmpty (state : RunState Fed Sunk) : RunState Fed Sunk :=
  let counters := state.cycle.counters
  { state with
    cycle :=
      { state.cycle with
        counters := { counters with idlePolls := counters.idlePolls + 1 } } }

@[simp] theorem source_receive (sink : Sink Sunk) (state : RunState Fed Sunk)
    (payload : List UInt8) : (state.receive sink payload).source = state.source := rfl

@[simp] theorem source_countEmpty (state : RunState Fed Sunk) :
    state.countEmpty.source = state.source := rfl

@[simp] theorem source_afterPoll (state : RunState Fed Sunk) (polled : Polled Fed) :
    (state.afterPoll polled).source = polled.state := rfl

/-- Poll until the signal is raised or the source closes. -/
def loop (source : Source Fed) (sink : Sink Sunk) (state : RunState Fed Sunk) :
    RunResult Fed Sunk :=
  if state.stopRequested then
    ⟨.requested, state⟩
  else
    let polled := source.poll state.cycle.settings.pollWaitMs state.source
    match _ : polled.outcome with
    | .message payload => loop source sink ((state.afterPoll polled).receive sink payload)
    | .empty => loop source sink (state.afterPoll polled).countEmpty
    | .closed => ⟨.exhausted, state.afterPoll polled⟩
termination_by source.pending state.source
decreasing_by
  all_goals
    simp only [source_receive, source_countEmpty, source_afterPoll]
    apply source.pending_lt
    simp_all [polled]

/-- Run a window cycle until it is told to stop or the source closes. -/
def run (source : Source Fed) (sink : Sink Sunk) (state : RunState Fed Sunk) :
    RunResult Fed Sunk :=
  let result := (state.note [.started state.cycle.settings]).loop source sink
  ⟨result.reason,
    result.final.note [.stopped result.reason result.final.cycle.counters]⟩

/-- The state in which a run starts that looks at a signal of a board. -/
def under (board : SignalBoard) (signal : StopSignal) (cycle : WindowCycle) (fed : Fed)
    (sunk : Sunk) : RunState Fed Sunk where
  cycle := cycle
  source := fed
  sink := sunk
  stopRequested := board.isRaised signal

/-- Run under a signal of a board, which is raised there if a poll asks for it. -/
def runUnder (source : Source Fed) (sink : Sink Sunk) (board : SignalBoard) (signal : StopSignal)
    (cycle : WindowCycle) (fed : Fed) (sunk : Sunk) : RunResult Fed Sunk × SignalBoard :=
  let result := (under board signal cycle fed sunk).run source sink
  (result, if result.final.stopRequested then board.raise signal else board)

end RunState

end HitMonitor
