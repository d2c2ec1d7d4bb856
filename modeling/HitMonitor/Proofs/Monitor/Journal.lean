import HitMonitor.Proofs.Monitor.Runs

/-!
# Journals

A journal is a session together with what its callers were told: the receipt of each message and the
answer to each flush.  Callers hand in messages, flush, or let the monitor run over a source.  A run
keeps the receipts of its messages to itself, so they are taken from the messages that the observer
of its source has seen.

Serving a request is playing the events it stands for, and which events these are does not depend on
the sink.
-/

namespace HitMonitor

variable {Sunk : Type}

namespace CycleEvent

/-- The receipt of the message that an event brings. -/
def receipt? : CycleEvent Sunk → WindowCycle → Sunk → Option Receipt
  | .message payload sink, cycle, sunk => some (cycle.receive sink payload sunk).result
  | .flush _, _, _ | .idle, _, _ => none

/-- Whether a flush has closed a window. -/
def flushed? : CycleEvent Sunk → WindowCycle → Sunk → Option Bool
  | .flush sink, cycle, sunk => some (cycle.flush sink sunk).result
  | .message .., _, _ | .idle, _, _ => none

end CycleEvent

/-- What a caller can ask of a monitor. -/
inductive CycleRequest : Type 1 where
  | receive (payload : List UInt8)
  | flush
  /-- Run over a source from one of its states on, with the stop signal raised or not. -/
  | run {Fed : Type} (source : Source Fed) (fed : Fed) (stopRequested : Bool)

/-- The events that a request stands for, when a poll waits as long as given. -/
def CycleRequest.events (pollWaitMs : Nat) (sink : Sink Sunk) :
    CycleRequest → List (CycleEvent Sunk)
  | .receive payload => [.message payload sink]
  | .flush => [.flush sink]
  | .run source fed stopRequested =>
      ((source.issued pollWaitMs stopRequested fed).map Polled.outcome).filterMap (Poll.event? sink)

/-- A session with what its callers were told. -/
@[ext] structure Journal (Sunk : Type) extends Session Sunk where
  receipts : List Receipt := []
  flushes : List Bool := []

namespace Journal

/-- A journal without an entry. -/
def blank (cycle : WindowCycle) (sunk : Sunk) : Journal Sunk where
  cycle := cycle
  sink := sunk

/-- Where a journal has got to, with its entries behind those of an earlier one. -/
def behind (earlier later : Journal Sunk) : Journal Sunk where
  cycle := later.cycle
  sink := later.sink
  emissions := earlier.emissions ++ later.emissions
  receipts := earlier.receipts ++ later.receipts
  flushes := earlier.flushes ++ later.flushes

theorem behind_blank (journal : Journal Sunk) :
    journal.behind (blank journal.cycle journal.sink) = journal := by
  simp only [behind, blank, List.append_nil]

/-- Count a message into the open window and write down its receipt. -/
def count (journal : Journal Sunk) (payload : List UInt8) : Journal Sunk :=
  { journal with
    cycle := (journal.cycle.count payload).2.1
    receipts := journal.receipts ++ [(journal.cycle.count payload).1] }

/-- The receipt of a message says whether the message is the last one of its window. -/
theorem countP_emitted_count (journal : Journal Sunk) (payload : List UInt8) :
    ((journal.count payload).receipts.countP fun receipt => receipt.emitted) =
      (journal.receipts.countP fun receipt => receipt.emitted) +
        if (journal.count payload).cycle.countdown = 0 then 1 else 0 := by
  have emitted : (journal.cycle.count payload).1.emitted =
      decide ((journal.count payload).cycle.countdown = 0) := rfl
  rw [count, List.countP_append, List.countP_singleton, emitted]
  simp only [decide_eq_true_eq]
  rfl

/-- Close the window and write down the snapshot. -/
def close (journal : Journal Sunk) (trigger : Trigger) (sink : Sink Sunk) : Journal Sunk :=
  { journal with toSession := journal.toSession.close trigger sink }

@[simp] theorem receipts_close (journal : Journal Sunk) (trigger : Trigger) (sink : Sink Sunk) :
    (journal.close trigger sink).receipts = journal.receipts := rfl

@[simp] theorem flushes_close (journal : Journal Sunk) (trigger : Trigger) (sink : Sink Sunk) :
    (journal.close trigger sink).flushes = journal.flushes := rfl

def step (journal : Journal Sunk) (event : CycleEvent Sunk) : Journal Sunk where
  toSession := journal.toSession.step event
  receipts := journal.receipts ++ (event.receipt? journal.cycle journal.sink).toList
  flushes := journal.flushes ++ (event.flushed? journal.cycle journal.sink).toList

/-- The journal after some events, first one first. -/
def play (journal : Journal Sunk) (events : List (CycleEvent Sunk)) : Journal Sunk :=
  events.foldl step journal

theorem play_cons (journal : Journal Sunk) (event : CycleEvent Sunk)
    (events : List (CycleEvent Sunk)) :
    journal.play (event :: events) = (journal.step event).play events := rfl

/-! ## What an event leaves in a journal -/

theorem step_message (journal : Journal Sunk) (payload : List UInt8) (sink : Sink Sunk) :
    journal.step (.message payload sink) =
      let counted := journal.count payload
      if counted.cycle.countdown = 0 then counted.close .message sink else counted := by
  have receipt_eq : (journal.cycle.receive sink payload journal.sink).result =
      (journal.cycle.count payload).1 := by
    unfold WindowCycle.receive
    simp only
    split <;> rfl
  simp only [step, CycleEvent.receipt?, CycleEvent.flushed?, receipt_eq, Option.toList_some,
    Option.toList_none, List.append_nil, Session.step_message]
  by_cases complete : (journal.cycle.count payload).2.1.countdown = 0
  · have counted : (journal.count payload).cycle.countdown = 0 := complete
    rw [if_pos complete, if_pos counted]
    rfl
  · have counted : (journal.count payload).cycle.countdown ≠ 0 := complete
    rw [if_neg complete, if_neg counted]
    rfl

/-- A message that is not the last one of its window is counted and nothing more. -/
theorem step_message_of_open {journal : Journal Sunk} (isOpen : 1 < journal.cycle.countdown)
    (payload : List UInt8) (sink : Sink Sunk) :
    journal.step (.message payload sink) = journal.count payload := by
  have remains : (journal.count payload).cycle.countdown ≠ 0 := by
    change journal.cycle.countdown - 1 ≠ 0
    omega
  exact (step_message ..).trans (if_neg remains)

theorem step_flush (journal : Journal Sunk) (sink : Sink Sunk) :
    journal.step (.flush sink) =
      if journal.cycle.openMessages = 0 then
        { journal with flushes := journal.flushes ++ [false] }
      else { journal.close .flush sink with flushes := journal.flushes ++ [true] } := by
  simp only [step, CycleEvent.receipt?, CycleEvent.flushed?, WindowCycle.flush, Option.toList_some,
    Option.toList_none, List.append_nil, Session.step_flush, close]
  split <;> rfl

theorem step_idle (journal : Journal Sunk) :
    journal.step .idle = { journal with cycle := journal.cycle.idle 1 } := by
  simp only [step, CycleEvent.receipt?, CycleEvent.flushed?, Option.toList_none, List.append_nil,
    Session.step_idle]

/-- A journal is kept of the session, without a part in it. -/
theorem toSession_play (journal : Journal Sunk) (events : List (CycleEvent Sunk)) :
    (journal.play events).toSession = journal.toSession.play events := by
  induction events generalizing journal with
  | nil => rfl
  | cons event events ih => exact ih (journal.step event)

/-- Earlier entries do not change later ones. -/
theorem play_behind (earlier later : Journal Sunk) (events : List (CycleEvent Sunk)) :
    (earlier.behind later).play events = earlier.behind (later.play events) := by
  induction events generalizing later with
  | nil => rfl
  | cons event events ih =>
      have stepped : (earlier.behind later).step event = earlier.behind (later.step event) := by
        simp only [step, Session.step, behind, List.append_assoc]
      rw [play_cons, play_cons, stepped, ih]

/-- The polls of a run bring no flush. -/
theorem flushes_play_outcomes (journal : Journal Sunk) (sink : Sink Sunk) (outcomes : List Poll) :
    (journal.play (outcomes.filterMap (Poll.event? sink))).flushes = journal.flushes := by
  induction outcomes generalizing journal with
  | nil => rfl
  | cons outcome outcomes ih =>
      cases outcome with
      | message payload =>
          have unchanged : (journal.step (.message payload sink)).flushes = journal.flushes :=
            List.append_nil _
          exact (ih (journal.step (.message payload sink))).trans unchanged
      | empty =>
          have unchanged : (journal.step .idle).flushes = journal.flushes := List.append_nil _
          exact (ih (journal.step .idle)).trans unchanged
      | closed => exact ih journal

end Journal

/-- The receipts of the messages that a run processes. -/
def RunState.receipts {Fed : Type} (source : Source Fed) (sink : Sink Sunk)
    (state : RunState Fed Sunk) : List Receipt :=
  ((Journal.blank state.cycle state.sink).play
    (((state.polls source sink).map Polled.outcome).filterMap (Poll.event? sink))).receipts

namespace Journal

/-- The journal after a request. -/
def serve (journal : Journal Sunk) (sink : Sink Sunk) : CycleRequest → Journal Sunk
  | .receive payload => journal.step (.message payload sink)
  | .flush => journal.step (.flush sink)
  | .run source fed stopRequested =>
      let state : RunState _ Sunk :=
        { cycle := journal.cycle
          source := fed
          sink := journal.sink
          stopRequested := stopRequested }
      let final := (state.run source sink).final
      { cycle := final.cycle
        sink := final.sink
        emissions := journal.emissions ++ state.emissions source sink
        receipts := journal.receipts ++ state.receipts source sink
        flushes := journal.flushes }

/-- The journal after some requests, each with the sink that gets its snapshots. -/
def serveAll (journal : Journal Sunk) (requests : List (CycleRequest × Sink Sunk)) : Journal Sunk :=
  requests.foldl (fun journal (request, sink) => journal.serve sink request) journal

/-- A run leaves behind the entries of a journal those of its own events. -/
theorem serve_run {Fed : Type} (journal : Journal Sunk) (sink : Sink Sunk) (source : Source Fed)
    (fed : Fed) (stopRequested : Bool) :
    let request := CycleRequest.run source fed stopRequested
    journal.serve sink request = journal.behind ((blank journal.cycle journal.sink).play
      (request.events journal.cycle.settings.pollWaitMs sink)) := by
  intro request
  let state : RunState Fed Sunk :=
    { cycle := journal.cycle
      source := fed
      sink := journal.sink
      stopRequested := stopRequested }
  let later := blank journal.cycle journal.sink
  let events := request.events journal.cycle.settings.pollWaitMs sink
  have polls_eq : state.polls source sink =
      source.issued journal.cycle.settings.pollWaitMs stopRequested fed :=
    state.polls_eq_issued source sink
  have played : (later.play events).toSession = later.toSession.play events :=
    toSession_play later events
  obtain ⟨cycle_eq, sink_eq⟩ :=
    (RunState.follows_run source sink state).session later.toSession rfl rfl
  have emissions_eq := state.emissions_eq_played source sink
  rw [polls_eq] at emissions_eq
  have receipts_eq : state.receipts source sink = (later.play events).receipts := by
    rw [RunState.receipts, polls_eq]
    rfl
  have flushes_eq : (later.play events).flushes = [] := flushes_play_outcomes later sink _
  apply Journal.ext
  · exact cycle_eq.trans (congrArg Session.cycle played).symm
  · exact sink_eq.trans (congrArg Session.sink played).symm
  · exact congrArg (journal.emissions ++ ·)
      (emissions_eq.trans (congrArg Session.emissions played).symm)
  · exact congrArg (journal.receipts ++ ·) receipts_eq
  · exact (List.append_nil _).symm.trans (congrArg (journal.flushes ++ ·) flushes_eq.symm)

/-- Serving a request is playing its events. -/
theorem serve_eq_play (journal : Journal Sunk) (sink : Sink Sunk) (request : CycleRequest) :
    journal.serve sink request =
      journal.play (request.events journal.cycle.settings.pollWaitMs sink) := by
  cases request with
  | receive payload => rfl
  | flush => rfl
  | run source fed stopRequested => rw [serve_run, ← play_behind, behind_blank]

/-- Serving requests is playing the events that they stand for. -/
theorem serveAll_eq_play (journal : Journal Sunk) (requests : List (CycleRequest × Sink Sunk)) :
    journal.serveAll requests = journal.play (requests.flatMap fun (request, sink) =>
      request.events journal.cycle.settings.pollWaitMs sink) := by
  induction requests generalizing journal with
  | nil => rfl
  | cons entry requests ih =>
      obtain ⟨request, sink⟩ := entry
      let events := request.events journal.cycle.settings.pollWaitMs sink
      have settings_eq : (journal.play events).cycle.settings = journal.cycle.settings := by
        have kept := journal.toSession.settings_play events
        rwa [← toSession_play] at kept
      have served : journal.serve sink request = journal.play events :=
        journal.serve_eq_play sink request
      have rest := ih (journal.serve sink request)
      rw [served, settings_eq] at rest
      rw [serveAll, List.foldl_cons, List.flatMap_cons, play, List.foldl_append]
      simp only [served]
      exact rest

/-- What every event keeps, requests keep. -/
theorem serveAll_of_step {Keeps : Journal Sunk → Prop}
    (keeps_step : ∀ journal event, Keeps journal → Keeps (journal.step event))
    {journal : Journal Sunk} (start : Keeps journal) (requests : List (CycleRequest × Sink Sunk)) :
    Keeps (journal.serveAll requests) := by
  have keeps_play (events : List (CycleEvent Sunk)) (journal : Journal Sunk)
      (start : Keeps journal) : Keeps (journal.play events) := by
    induction events generalizing journal with
    | nil => exact start
    | cons event events ih => exact ih (journal.step event) (keeps_step journal event start)
  induction requests generalizing journal with
  | nil => exact start
  | cons entry requests ih =>
      obtain ⟨request, sink⟩ := entry
      have served : Keeps (journal.serve sink request) := by
        rw [serve_eq_play]
        exact keeps_play _ journal start
      exact ih served

end Journal

end HitMonitor
