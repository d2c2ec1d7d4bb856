import HitMonitor.Monitor.Cycle

/-!
# Sessions

A session is a window cycle together with its sink and a record of every snapshot that was handed
over.  The record is what an observer in front of the sink sees: it takes down each snapshot and the
sink's answer and passes both on, so it does not depend on what the sink itself remembers.

Events may each bring a sink of their own.  A poll that finds nothing is an event as well, since it
is counted.
-/

namespace HitMonitor

/-- What made a window close. -/
inductive Trigger where
  /-- A message completed the period. -/
  | message
  /-- The window was flushed. -/
  | flush
  deriving DecidableEq, Repr

/-- Whether a window that closes this way may be short of its period. -/
def Trigger.isPartial : Trigger → Bool
  | .message => false
  | .flush => true

/-- A snapshot as it was handed over, with the answer of the sink. -/
structure Emission where
  trigger : Trigger
  snapshot : Snapshot
  outcome : Except MonitoringError Unit

/-- A sink behind an observer that takes down what is handed over. -/
def Sink.recorded {Sunk : Type} (trigger : Trigger) (sink : Sink Sunk) :
    Sink (Sunk × List Emission) := fun snapshot (sunk, emissions) =>
  let delivery := sink snapshot sunk
  delivery.map (·, emissions ++ [⟨trigger, snapshot, delivery.outcome⟩])

/-- What can happen to a window cycle. -/
inductive CycleEvent (Sunk : Type) where
  | message (payload : List UInt8) (sink : Sink Sunk)
  | flush (sink : Sink Sunk)
  /-- A poll found nothing. -/
  | idle

/-- The cycle at the start of its first window. -/
def WindowCycle.fresh (settings : MonitorSettings) : WindowCycle where
  settings := settings
  accumulator := .empty settings.grid
  phase := .accumulating
  countdown := settings.period
  window := 0
  openMessages := 0
  openDropped := 0
  counters := .zero

/-- Settings are accepted exactly if they are valid. -/
theorem WindowCycle.new_eq_ok_iff {settings : MonitorSettings} {cycle : WindowCycle} :
    WindowCycle.new settings = .ok cycle ↔
      settings.validate = .ok () ∧ cycle = .fresh settings := by
  unfold WindowCycle.new
  cases settings.validate with
  | error fault => simp [bind, Except.bind]
  | ok => simp [bind, Except.bind, pure, Except.pure, fresh, eq_comm]

/-- Count polls that found nothing. -/
def WindowCycle.idle (cycle : WindowCycle) (polls : Nat) : WindowCycle :=
  { cycle with
    counters := { cycle.counters with idlePolls := cycle.counters.idlePolls + polls } }

namespace CycleEvent

variable {Sunk : Type}

/-- The message an event brings. -/
def payload? : CycleEvent Sunk → Option (List UInt8)
  | .message payload _ => some payload
  | .flush _ | .idle => none

theorem filterMap_payload?_cons (event : CycleEvent Sunk) (events : List (CycleEvent Sunk)) :
    (event :: events).filterMap payload? =
      event.payload?.toList ++ events.filterMap payload? := by
  cases event <;> rfl

/-- The messages of events that are nothing else are those messages. -/
@[simp] theorem filterMap_payload?_messages (payloads : List (List UInt8)) (sink : Sink Sunk) :
    (payloads.map (CycleEvent.message · sink)).filterMap payload? = payloads := by
  rw [List.filterMap_map]
  exact List.filterMap_some

/-- The cycle and the sink after an event. -/
def apply : CycleEvent Sunk → WindowCycle → Sunk → WindowCycle × Sunk
  | .message payload sink, cycle, sunk =>
      let stepped := cycle.receive sink payload sunk
      (stepped.cycle, stepped.sink)
  | .flush sink, cycle, sunk =>
      let stepped := cycle.flush sink sunk
      (stepped.cycle, stepped.sink)
  | .idle, cycle, sunk => (cycle.idle 1, sunk)

/-- The same event with an observer in front of its sink. -/
def recorded : CycleEvent Sunk → CycleEvent (Sunk × List Emission)
  | .message payload sink => .message payload (sink.recorded .message)
  | .flush sink => .flush (sink.recorded .flush)
  | .idle => .idle

/-- What is handed over in the course of an event. -/
def emissions (event : CycleEvent Sunk) (cycle : WindowCycle) (sunk : Sunk) : List Emission :=
  (event.recorded.apply cycle (sunk, [])).2.2

end CycleEvent

/-- A cycle and its sink, with everything handed over so far. -/
structure Session (Sunk : Type) where
  cycle : WindowCycle
  sink : Sunk
  emissions : List Emission := []

namespace Session

variable {Sunk : Type}

def step (session : Session Sunk) (event : CycleEvent Sunk) : Session Sunk :=
  let (cycle, sink) := event.apply session.cycle session.sink
  { cycle := cycle
    sink := sink
    emissions := session.emissions ++ event.emissions session.cycle session.sink }

/-- The session after some events, first one first. -/
def play (session : Session Sunk) (events : List (CycleEvent Sunk)) : Session Sunk :=
  events.foldl step session

@[simp] theorem play_nil (session : Session Sunk) : session.play [] = session := rfl

@[simp] theorem play_cons (session : Session Sunk) (event : CycleEvent Sunk)
    (events : List (CycleEvent Sunk)) :
    session.play (event :: events) = (session.step event).play events := rfl

theorem play_append (session : Session Sunk) (first second : List (CycleEvent Sunk)) :
    session.play (first ++ second) = (session.play first).play second :=
  List.foldl_append ..

/-- The session after its window was handed over. -/
def close (session : Session Sunk) (trigger : Trigger) (sink : Sink Sunk) : Session Sunk :=
  let snapshot := session.cycle.snapshot trigger.isPartial
  let delivery := sink snapshot session.sink
  { cycle := session.cycle.advance delivery.outcome.isOk
    sink := delivery.state
    emissions := session.emissions ++ [⟨trigger, snapshot, delivery.outcome⟩] }

end Session

/-! ## What an event does

Every later argument about events goes through the three equations at the end of this section. -/

namespace WindowCycle

variable {Sunk : Type}

theorem cycle_emit (sink : Sink Sunk) (isPartial : Bool) (cycle : WindowCycle) (sunk : Sunk) :
    (cycle.emit sink isPartial sunk).cycle =
      cycle.advance (sink (cycle.snapshot isPartial) sunk).outcome.isOk := by
  have handed : { cycle with phase := .emitting }.snapshot isPartial = cycle.snapshot isPartial :=
    rfl
  unfold emit
  simp only [handed]
  cases (sink (cycle.snapshot isPartial) sunk).outcome with
  | ok => rfl
  | error => rfl

theorem sink_emit (sink : Sink Sunk) (isPartial : Bool) (cycle : WindowCycle) (sunk : Sunk) :
    (cycle.emit sink isPartial sunk).sink = (sink (cycle.snapshot isPartial) sunk).state := rfl

end WindowCycle

namespace Session

variable {Sunk : Type}

theorem step_message (session : Session Sunk) (payload : List UInt8) (sink : Sink Sunk) :
    session.step (.message payload sink) =
      let counted := { session with cycle := (session.cycle.count payload).2.1 }
      if counted.cycle.countdown = 0 then counted.close .message sink else counted := by
  simp only [step, CycleEvent.emissions, CycleEvent.recorded, CycleEvent.apply,
    WindowCycle.receive]
  by_cases complete : session.cycle.countdown - 1 = 0
  · have emitted : (session.cycle.count payload).1.emitted = true := decide_eq_true complete
    have counted : (session.cycle.count payload).2.1.countdown = 0 := complete
    simp only [emitted, counted, if_true, WindowCycle.cycle_emit, WindowCycle.sink_emit]
    rfl
  · have emitted : (session.cycle.count payload).1.emitted = false := decide_eq_false complete
    have counted : (session.cycle.count payload).2.1.countdown ≠ 0 := complete
    simp [emitted, counted]

theorem step_flush (session : Session Sunk) (sink : Sink Sunk) :
    session.step (.flush sink) =
      if session.cycle.openMessages = 0 then session else session.close .flush sink := by
  simp only [step, CycleEvent.emissions, CycleEvent.recorded, CycleEvent.apply, WindowCycle.flush]
  split
  · simp
  · simp only [WindowCycle.cycle_emit, WindowCycle.sink_emit]
    rfl

theorem step_idle (session : Session Sunk) :
    session.step .idle = { session with cycle := session.cycle.idle 1 } := by
  simp [step, CycleEvent.emissions, CycleEvent.recorded, CycleEvent.apply]

theorem settings_step (session : Session Sunk) (event : CycleEvent Sunk) :
    (session.step event).cycle.settings = session.cycle.settings := by
  cases event with
  | message payload sink =>
      rw [step_message]
      simp only
      split <;> rfl
  | flush sink =>
      rw [step_flush]
      split <;> rfl
  | idle => rw [step_idle]; rfl

@[simp] theorem settings_play (session : Session Sunk) (events : List (CycleEvent Sunk)) :
    (session.play events).cycle.settings = session.cycle.settings := by
  induction events generalizing session with
  | nil => rfl
  | cons event events ih => rw [play_cons, ih, settings_step]

end Session

/-! ## Observed sinks -/

namespace CycleEvent

variable {Sunk : Type}

/-- The observer takes down what is handed over, and nothing else is different. -/
theorem apply_recorded (event : CycleEvent Sunk) (cycle : WindowCycle) (sunk : Sunk)
    (log : List Emission) :
    event.recorded.apply cycle (sunk, log) =
      ((event.apply cycle sunk).1, (event.apply cycle sunk).2,
        log ++ event.emissions cycle sunk) := by
  cases event with
  | message payload sink =>
      simp only [emissions, recorded, apply, WindowCycle.receive]
      split
      next =>
        simp only [WindowCycle.cycle_emit, WindowCycle.sink_emit]
        rfl
      next => simp
  | flush sink =>
      simp only [emissions, recorded, apply, WindowCycle.flush]
      split
      next => simp
      next =>
        simp only [WindowCycle.cycle_emit, WindowCycle.sink_emit]
        rfl
  | idle => simp [emissions, recorded, apply]

end CycleEvent

namespace Session

variable {Sunk : Type}

/-- With an observer in front of its sinks, a session finds what was handed over in its sink. -/
theorem play_recorded (session : Session Sunk) (watched : Session (Sunk × List Emission))
    (cycle_eq : watched.cycle = session.cycle)
    (sink_eq : watched.sink = (session.sink, session.emissions))
    (events : List (CycleEvent Sunk)) :
    (watched.play (events.map .recorded)).cycle = (session.play events).cycle ∧
      (watched.play (events.map .recorded)).sink =
        ((session.play events).sink, (session.play events).emissions) := by
  induction events generalizing session watched with
  | nil => exact ⟨cycle_eq, sink_eq⟩
  | cons event events ih =>
      apply ih (session.step event) (watched.step event.recorded)
      · change (event.recorded.apply watched.cycle watched.sink).1 =
          (event.apply session.cycle session.sink).1
        rw [cycle_eq, sink_eq, CycleEvent.apply_recorded]
      · change (event.recorded.apply watched.cycle watched.sink).2 =
          ((event.apply session.cycle session.sink).2,
            session.emissions ++ event.emissions session.cycle session.sink)
        rw [cycle_eq, sink_eq, CycleEvent.apply_recorded]

end Session

end HitMonitor
