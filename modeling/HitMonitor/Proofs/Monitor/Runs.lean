import HitMonitor.Monitor.Run
import HitMonitor.Proofs.Monitor.Polls
import HitMonitor.Proofs.Monitor.Session

/-!
# Runs as folds over polls

A run processes exactly the messages of the polls it issues, in order, and counts the polls that
found nothing.  Since it keeps no state of its own between polls, a run that is stopped can be taken
up again where it stood.
-/

namespace HitMonitor

variable {Fed Sunk : Type}

/-- What the outcome of a poll means for the window cycle of a run. -/
def Poll.event? (sink : Sink Sunk) : Poll → Option (CycleEvent Sunk)
  | .message payload => some (.message payload sink)
  | .empty => some .idle
  | .closed => none

theorem Poll.filterMap_event?_recorded (sink : Sink Sunk) (outcomes : List Poll) :
    outcomes.filterMap (Poll.event? (sink.recorded .message)) =
      (outcomes.filterMap (Poll.event? sink)).map .recorded := by
  rw [List.map_filterMap]
  congr 1
  funext outcome
  cases outcome <;> rfl

namespace Session

/-- A session in which some polls found nothing. -/
def idle (session : Session Sunk) (polls : Nat) : Session Sunk :=
  { session with cycle := session.cycle.idle polls }

@[simp] theorem idle_idle (session : Session Sunk) (polls more : Nat) :
    (session.idle polls).idle more = session.idle (polls + more) := by
  simp only [idle, WindowCycle.idle, Nat.add_assoc]

theorem step_message_idle (session : Session Sunk) (polls : Nat) (payload : List UInt8)
    (sink : Sink Sunk) :
    (session.idle polls).step (.message payload sink) =
      (session.step (.message payload sink)).idle polls := by
  rw [step_message, step_message]
  simp only
  by_cases complete : (session.cycle.count payload).2.1.countdown = 0
  · have idle_complete : ((session.idle polls).cycle.count payload).2.1.countdown = 0 := complete
    rw [if_pos complete, if_pos idle_complete]
    rfl
  · have idle_incomplete : ((session.idle polls).cycle.count payload).2.1.countdown ≠ 0 := complete
    rw [if_neg complete, if_neg idle_incomplete]
    rfl

theorem play_messages_idle (session : Session Sunk) (polls : Nat)
    (payloads : List (List UInt8)) (sink : Sink Sunk) :
    (session.idle polls).play (payloads.map (.message · sink)) =
      (session.play (payloads.map (.message · sink))).idle polls := by
  induction payloads generalizing session with
  | nil => rfl
  | cons payload payloads ih =>
      rw [List.map_cons, play_cons, play_cons, step_message_idle, ih]

/-- Polls that find nothing can be counted after all messages are processed. -/
theorem play_outcomes (session : Session Sunk) (sink : Sink Sunk) (outcomes : List Poll) :
    session.play (outcomes.filterMap (Poll.event? sink)) =
      (session.play ((outcomes.filterMap Poll.message?).map (.message · sink))).idle
        (outcomes.count .empty) := by
  induction outcomes generalizing session with
  | nil => rfl
  | cons outcome outcomes ih =>
      cases outcome with
      | message payload =>
          simp only [Poll.event?, Poll.message?, List.filterMap_cons, List.map_cons, play_cons, ih]
          rw [List.count_cons_of_ne (by simp)]
      | empty =>
          simp only [Poll.event?, Poll.message?, List.filterMap_cons, play_cons,
            List.count_cons_self]
          have stepped : session.step .idle = session.idle 1 := step_idle session
          rw [ih, stepped, play_messages_idle, idle_idle, Nat.add_comm]
      | closed =>
          simp only [Poll.event?, Poll.message?, List.filterMap_cons, ih]
          rw [List.count_cons_of_ne (by simp)]

end Session

theorem StopReason.eq_of_exhausted_iff {left right : StopReason}
    (same : left = .exhausted ↔ right = .exhausted) : left = right := by
  cases left <;> cases right <;> simp_all

namespace RunState

/-- What a run makes of the polls that it issues. -/
structure Follows (state : RunState Fed Sunk) (sink : Sink Sunk) (polls : List (Polled Fed))
    (result : RunResult Fed Sunk) : Prop where
  exhausted_iff : result.reason = .exhausted ↔ .closed ∈ polls.map Polled.outcome
  source : result.final.source = Source.stateAfter state.source polls
  stopRequested : result.final.stopRequested = Source.signalAfter state.stopRequested polls
  session : ∀ session : Session Sunk, session.cycle = state.cycle → session.sink = state.sink →
    let played := session.play ((polls.map Polled.outcome).filterMap (Poll.event? sink))
    result.final.cycle = played.cycle ∧ result.final.sink = played.sink

namespace Follows

variable {state next : RunState Fed Sunk} {sink : Sink Sunk} {polled : Polled Fed}
  {polls : List (Polled Fed)} {result : RunResult Fed Sunk}

theorem stopped (state : RunState Fed Sunk) (sink : Sink Sunk) :
    state.Follows sink [] ⟨.requested, state⟩ where
  exhausted_iff := by simp
  source := rfl
  stopRequested := (Source.signalAfter_nil _).symm
  session _ cycle_eq sink_eq := ⟨cycle_eq.symm, sink_eq.symm⟩

theorem closed (sink : Sink Sunk) (down : state.stopRequested = false)
    (outcome : polled.outcome = .closed) :
    state.Follows sink [polled] ⟨.exhausted, state.afterPoll polled⟩ where
  exhausted_iff := by simp [outcome]
  source := rfl
  stopRequested := by
    rw [down, Source.signalAfter_cons, Source.signalAfter_nil]
    simp [afterPoll, down]
  session session cycle_eq sink_eq := by
    simp only [List.map_cons, List.map_nil, outcome, List.filterMap_cons, Poll.event?]
    exact ⟨cycle_eq.symm, sink_eq.symm⟩

theorem requested_iff {state : RunState Fed Sunk} (follows : state.Follows sink polls result) :
    result.reason = .requested ↔ .closed ∉ polls.map Polled.outcome := by
  rw [← follows.exhausted_iff]
  cases result.reason <;> simp

/-- A poll that brings an event comes before what is made of the state that the event leaves. -/
theorem cons {event : CycleEvent Sunk} (down : state.stopRequested = false)
    (brings : polled.outcome.event? sink = some event) (source_eq : next.source = polled.state)
    (signal_eq : next.stopRequested = polled.requestsStop)
    (applied : event.apply state.cycle state.sink = (next.cycle, next.sink))
    (rest : next.Follows sink polls result) : state.Follows sink (polled :: polls) result where
  exhausted_iff := by
    have isOpen : .closed ≠ polled.outcome := by
      intro outcome
      rw [← outcome] at brings
      cases brings
    rw [rest.exhausted_iff, List.map_cons, List.mem_cons, or_iff_right isOpen]
  source := by
    rw [rest.source, source_eq]
    rfl
  stopRequested := by rw [rest.stopRequested, down, Source.signalAfter_cons, signal_eq]
  session session cycle_eq sink_eq := by
    rw [← cycle_eq, ← sink_eq] at applied
    have stepped := rest.session (session.step event) (congrArg Prod.fst applied)
      (congrArg Prod.snd applied)
    simp only [List.map_cons, List.filterMap_cons, brings]
    exact stepped

end Follows

/-- The polls of a run are those that its source and its signal allow. -/
theorem follows_loop (source : Source Fed) (sink : Sink Sunk) (state : RunState Fed Sunk) :
    state.Follows sink
      (source.issued state.cycle.settings.pollWaitMs state.stopRequested state.source)
      (state.loop source sink) := by
  fun_induction state.loop source sink with
  | case1 state raised =>
      rw [raised, Source.issued_of_stop]
      exact .stopped state sink
  | case2 state down polled payload outcome ih =>
      have unset : state.stopRequested = false := by simpa using down
      have isOpen : polled.outcome ≠ .closed := by simp [outcome]
      have signal : ((state.afterPoll polled).receive sink payload).stopRequested =
          polled.requestsStop := by simp [receive, note, afterPoll, unset]
      have settings : ((state.afterPoll polled).receive sink payload).cycle.settings =
          state.cycle.settings :=
        Session.settings_step { cycle := state.cycle, sink := state.sink } (.message payload sink)
      rw [signal, settings] at ih
      rw [unset, Source.issued_of_open isOpen]
      exact .cons unset (congrArg (Poll.event? sink) outcome) rfl signal rfl ih
  | case3 state down polled outcome ih =>
      have unset : state.stopRequested = false := by simpa using down
      have isOpen : polled.outcome ≠ .closed := by simp [outcome]
      have signal : (state.afterPoll polled).countEmpty.stopRequested = polled.requestsStop := by
        simp [countEmpty, note, afterPoll, unset]
      rw [signal] at ih
      rw [unset, Source.issued_of_open isOpen]
      exact .cons unset (congrArg (Poll.event? sink) outcome) rfl signal rfl ih
  | case4 state down polled outcome =>
      have unset : state.stopRequested = false := by simpa using down
      rw [unset, Source.issued_of_closed outcome]
      exact .closed sink unset outcome

/-- The notices at the beginning and the end of a run are all that it adds to the loop. -/
theorem follows_run (source : Source Fed) (sink : Sink Sunk) (state : RunState Fed Sunk) :
    state.Follows sink
      (source.issued state.cycle.settings.pollWaitMs state.stopRequested state.source)
      (state.run source sink) := by
  have follows := follows_loop source sink (state.note [.started state.cycle.settings])
  exact ⟨follows.exhausted_iff, follows.source, follows.stopRequested, follows.session⟩

/-- A run leaves its own signal up on the board if it has seen it raised, and leaves the other
signals alone. -/
theorem isRaised_runUnder {board : SignalBoard} {signal : StopSignal} (knows : board.Knows signal)
    (source : Source Fed) (sink : Sink Sunk) (cycle : WindowCycle) (fed : Fed) (sunk : Sunk) :
    let (result, after) := runUnder source sink board signal cycle fed sunk
    after.isRaised signal = result.final.stopRequested ∧
      ∀ other, other ≠ signal → after.isRaised other = board.isRaised other := by
  have follows := follows_run source sink (under board signal cycle fed sunk)
  unfold runUnder
  cases stopped : ((under board signal cycle fed sunk).run source sink).final.stopRequested with
  | true =>
      simp only [stopped, if_true]
      exact ⟨SignalBoard.isRaised_raise knows, fun _ => board.isRaised_raise_of_ne⟩
  | false =>
      have quiet := follows.stopRequested.symm.trans stopped
      rw [Source.signalAfter, Bool.or_eq_false_iff] at quiet
      have down : board.isRaised signal = false := quiet.1
      simp [stopped, down]

/-! ## Observed runs -/

/-- A run with an observer in front of its source and one in front of its sink. -/
def observed (state : RunState Fed Sunk) :
    RunState (Fed × List (Polled Fed)) (Sunk × List Emission) where
  cycle := state.cycle
  source := (state.source, [])
  sink := (state.sink, [])
  stopRequested := state.stopRequested
  notices := state.notices

/-- The polls of a run, as the observer in front of the source takes them down. -/
def polls (source : Source Fed) (sink : Sink Sunk) (state : RunState Fed Sunk) :
    List (Polled Fed) :=
  (state.observed.run source.recorded (sink.recorded .message)).final.source.2

/-- What a run hands over, as the observer in front of the sink takes it down. -/
def emissions (source : Source Fed) (sink : Sink Sunk) (state : RunState Fed Sunk) :
    List Emission :=
  (state.observed.run source.recorded (sink.recorded .message)).final.sink.2

theorem polls_eq_issued (source : Source Fed) (sink : Sink Sunk) (state : RunState Fed Sunk) :
    state.polls source sink =
      source.issued state.cycle.settings.pollWaitMs state.stopRequested state.source := by
  have follows := follows_run source.recorded (sink.recorded .message) state.observed
  obtain ⟨_, _, stateAfter_eq⟩ := source.issued_recorded state.cycle.settings.pollWaitMs
    state.stopRequested state.source []
  have final := follows.source.trans stateAfter_eq
  rw [List.nil_append] at final
  exact congrArg Prod.snd final

/-- The observer of the sink sees what a session hands over that gets the polls as events. -/
theorem emissions_eq_played (source : Source Fed) (sink : Sink Sunk) (state : RunState Fed Sunk) :
    state.emissions source sink =
      (Session.play { cycle := state.cycle, sink := state.sink }
        (((state.polls source sink).map Polled.outcome).filterMap
          (Poll.event? sink))).emissions := by
  have follows := follows_run source.recorded (sink.recorded .message) state.observed
  have seen := (follows.session { cycle := state.cycle, sink := (state.sink, []) } rfl rfl).2
  have outcomes_eq : (source.recorded.issued state.observed.cycle.settings.pollWaitMs
      state.observed.stopRequested state.observed.source).map Polled.outcome =
      (state.polls source sink).map Polled.outcome := by
    rw [polls_eq_issued]
    exact (source.issued_recorded _ _ _ []).1
  rw [outcomes_eq, Poll.filterMap_event?_recorded] at seen
  have recorded := (Session.play_recorded { cycle := state.cycle, sink := state.sink }
    { cycle := state.cycle, sink := (state.sink, []) } rfl rfl
    (((state.polls source sink).map Polled.outcome).filterMap (Poll.event? sink))).2
  exact congrArg Prod.snd (seen.trans recorded)

/-- What a run does, in terms of the polls that an observer of its source sees. -/
structure Processes (source : Source Fed) (sink : Sink Sunk) (state : RunState Fed Sunk)
    (result : RunResult Fed Sunk) : Prop where
  /-- A poll is issued only while the signal is down. -/
  signal_down : ∀ index < (state.polls source sink).length,
    Source.signalAfter state.stopRequested ((state.polls source sink).take index) = false
  requested_iff : result.reason = .requested ↔
    .closed ∉ (state.polls source sink).map Polled.outcome ∧
      Source.signalAfter state.stopRequested (state.polls source sink) = true
  exhausted_iff : result.reason = .exhausted ↔
    .closed ∈ (state.polls source sink).map Polled.outcome
  /-- A source that has closed is not polled again. -/
  open_before_last : .closed ∉ ((state.polls source sink).map Polled.outcome).dropLast
  source_eq : result.final.source = Source.stateAfter state.source (state.polls source sink)
  /-- The messages of the polls are processed in order, and the empty polls are counted. -/
  processed :
    let outcomes := (state.polls source sink).map Polled.outcome
    let folded := Session.play { cycle := state.cycle, sink := state.sink }
      ((outcomes.filterMap Poll.message?).map (.message · sink))
    result.final.cycle = folded.cycle.idle (outcomes.count .empty) ∧
      result.final.sink = folded.sink ∧ state.emissions source sink = folded.emissions

theorem processes_run (source : Source Fed) (sink : Sink Sunk) (state : RunState Fed Sunk) :
    Processes source sink state (state.run source sink) := by
  have follows := follows_run source sink state
  rw [← polls_eq_issued source sink] at follows
  have played := follows.session { cycle := state.cycle, sink := state.sink } rfl rfl
  have emitted := emissions_eq_played source sink state
  rw [Session.play_outcomes] at played emitted
  exact
    { signal_down := by
        rw [polls_eq_issued]
        exact source.signal_down_of_issued _ _ _
      requested_iff := by
        have raised := source.signal_up_of_not_closed state.cycle.settings.pollWaitMs
          state.stopRequested state.source
        rw [← polls_eq_issued source sink] at raised
        rw [follows.requested_iff]
        exact ⟨fun isOpen => ⟨isOpen, raised isOpen⟩, And.left⟩
      exhausted_iff := follows.exhausted_iff
      open_before_last := by
        rw [polls_eq_issued]
        exact source.open_before_last _ _ _
      source_eq := follows.source
      processed := ⟨played.1, played.2, emitted⟩ }

end RunState

/-! ## Stopping and resuming -/

namespace Source

/-- A source whose polls follow a script, closed after its end.  The state is the number of polls
that have been issued.  The signal is raised while the poll lasts after which there are `stopAt`. -/
def timed (script : List Poll) (stopAt : Option Nat) : Source Nat where
  poll _ count :=
    { outcome := script[count]?.getD .closed
      state := count + 1
      requestsStop := some (count + 1) = stopAt }
  pending count := script.length - count
  pending_lt _ count isOpen := by
    have inside : count < script.length := by
      apply Nat.lt_of_not_le
      intro outside
      simp [List.getElem?_eq_none outside] at isOpen
    simp only
    omega

theorem stateAfter_append (fed : Fed) (first second : List (Polled Fed)) :
    stateAfter fed (first ++ second) = stateAfter (stateAfter fed first) second :=
  List.foldl_append ..

theorem outcome_timed {script rest : List Poll} {outcome : Poll} {count : Nat}
    {stopAt : Option Nat} {timeoutMs : Nat} (position : script.drop count = outcome :: rest) :
    ((timed script stopAt).poll timeoutMs count).outcome = outcome := by
  have here : script[count]? = some outcome := by
    rw [← List.head?_drop, position]
    rfl
  simp [timed, here]

theorem drop_succ_of_drop {script rest : List Poll} {outcome : Poll} {count : Nat}
    (position : script.drop count = outcome :: rest) : script.drop (count + 1) = rest := by
  rw [← List.tail_drop, position]
  rfl

/-- While nobody raises the signal, the polls of a script without a closed poll come one after the
other, and polling goes on behind them. -/
theorem issued_timed_none {script ahead behind : List Poll} {count : Nat}
    (position : script.drop count = ahead ++ behind) (isOpen : .closed ∉ ahead) (timeoutMs : Nat) :
    ∃ polls, (timed script none).issued timeoutMs false count =
        polls ++ (timed script none).issued timeoutMs false (count + ahead.length) ∧
      polls.map Polled.outcome = ahead ∧ stateAfter count polls = count + ahead.length := by
  induction ahead generalizing count with
  | nil => exact ⟨[], rfl, rfl, rfl⟩
  | cons outcome ahead ih =>
      rw [List.mem_cons, not_or] at isOpen
      have polled : ((timed script none).poll timeoutMs count).outcome = outcome :=
        outcome_timed position
      obtain ⟨polls, issued_eq, outcomes_eq, state_eq⟩ := ih (drop_succ_of_drop position) isOpen.2
      have moved : count + 1 + ahead.length = count + (outcome :: ahead).length := by
        rw [List.length_cons, Nat.add_assoc, Nat.add_comm 1]
      rw [moved] at issued_eq state_eq
      refine ⟨(timed script none).poll timeoutMs count :: polls, ?_, ?_, state_eq⟩
      · rw [issued_of_open (by rw [polled]; exact fun closed => isOpen.1 closed.symm)]
        exact congrArg (_ :: ·) issued_eq
      · rw [List.map_cons, polled, outcomes_eq]

/-- Polling stops at the poll at which the signal is found raised. -/
theorem issued_timed_some {script ahead behind : List Poll} {count stopAt : Nat}
    (position : script.drop count = ahead ++ behind) (isOpen : .closed ∉ ahead)
    (reached : count + ahead.length = stopAt) (timeoutMs : Nat) :
    let polls := (timed script (some stopAt)).issued timeoutMs (some count = some stopAt) count
    polls.map Polled.outcome = ahead ∧ stateAfter count polls = stopAt := by
  induction ahead generalizing count with
  | nil =>
      rw [List.length_nil, Nat.add_zero] at reached
      subst reached
      simp [issued_of_stop, stateAfter]
  | cons outcome ahead ih =>
      rw [List.mem_cons, not_or] at isOpen
      have polled : ((timed script (some stopAt)).poll timeoutMs count).outcome = outcome :=
        outcome_timed position
      have next := ih (drop_succ_of_drop position) isOpen.2
        (by rw [← reached, List.length_cons, Nat.add_assoc, Nat.add_comm 1])
      have early : decide (some count = some stopAt) = false := by
        rw [List.length_cons] at reached
        simp
        omega
      simp only [early]
      rw [issued_of_open (by rw [polled]; exact fun closed => isOpen.1 closed.symm)]
      exact ⟨by rw [List.map_cons, polled]; exact congrArg (outcome :: ·) next.1, next.2⟩

end Source

namespace RunState

/-- A run over a script, at whose polls the signal is raised as in `Source.timed`. -/
def atStart (cycle : WindowCycle) (sunk : Sunk) (stopAt : Option Nat) : RunState Nat Sunk where
  cycle := cycle
  source := 0
  sink := sunk
  stopRequested := some 0 = stopAt

/-- A run that is stopped behind the first part of a script and taken up again leaves everything as
a run that goes on. -/
theorem run_resumed (cycle : WindowCycle) (sink : Sink Sunk) (sunk : Sunk)
    {first : List Poll} (second : List Poll) (isOpen : .closed ∉ first) :
    let script := first ++ second
    let whole := (atStart cycle sunk none).run (Source.timed script none) sink
    let stopped := (atStart cycle sunk (some first.length)).run
      (Source.timed script (some first.length)) sink
    let resumed := { stopped.final with stopRequested := false }.run (Source.timed script none) sink
    stopped.reason = .requested ∧ stopped.final.source = first.length ∧
      resumed.reason = whole.reason ∧ resumed.final.source = whole.final.source ∧
      resumed.final.cycle = whole.final.cycle ∧ resumed.final.sink = whole.final.sink := by
  intro script whole stopped resumed
  have atFront : script.drop 0 = first ++ second := rfl
  obtain ⟨polls, issued_eq, outcomes_eq, state_eq⟩ :=
    Source.issued_timed_none atFront isOpen cycle.settings.pollWaitMs
  obtain ⟨stopped_outcomes, stopped_state⟩ :=
    Source.issued_timed_some atFront isOpen (Nat.zero_add _) cycle.settings.pollWaitMs
  rw [Nat.zero_add] at issued_eq state_eq
  let start : Session Sunk := { cycle := cycle, sink := sunk }
  let front := first.filterMap (Poll.event? sink)
  let behind := (Source.timed script none).issued cycle.settings.pollWaitMs false first.length
  -- The run up to the stop.
  have stopped_follows : (atStart cycle sunk (some first.length)).Follows sink
      ((Source.timed script (some first.length)).issued cycle.settings.pollWaitMs
        (some 0 = some first.length) 0) stopped := follows_run _ sink _
  have stopped_reason : stopped.reason = .requested := by
    rw [stopped_follows.requested_iff, stopped_outcomes]
    exact isOpen
  have stopped_source : stopped.final.source = first.length :=
    stopped_follows.source.trans stopped_state
  have stopped_session := stopped_follows.session start rfl rfl
  rw [stopped_outcomes] at stopped_session
  -- The second run polls from there.
  have settings_eq : stopped.final.cycle.settings = cycle.settings := by
    rw [stopped_session.1, Session.settings_play]
  have resumed_follows : ({ stopped.final with stopRequested := false } : RunState Nat Sunk).Follows
      sink behind resumed := by
    have follows := follows_run (Source.timed script none) sink
      { stopped.final with stopRequested := false }
    rwa [settings_eq, stopped_source] at follows
  have resumed_session := resumed_follows.session (start.play front) stopped_session.1.symm
    stopped_session.2.symm
  -- The run that goes on polls the same in both parts.
  have whole_follows : (atStart cycle sunk none).Follows sink (polls ++ behind) whole := by
    have follows := follows_run (Source.timed script none) sink (atStart cycle sunk none)
    rw [← issued_eq]
    exact follows
  have whole_session := whole_follows.session start rfl rfl
  simp only [List.map_append, outcomes_eq, List.filterMap_append, Session.play_append]
    at whole_session
  have same_end : resumed.reason = .exhausted ↔ whole.reason = .exhausted := by
    rw [resumed_follows.exhausted_iff, whole_follows.exhausted_iff, List.map_append, outcomes_eq,
      List.mem_append, or_iff_right isOpen]
  refine ⟨stopped_reason, stopped_source, StopReason.eq_of_exhausted_iff same_end, ?_, ?_, ?_⟩
  · rw [resumed_follows.source, whole_follows.source, Source.stateAfter_append]
    change Source.stateAfter stopped.final.source behind =
      Source.stateAfter (Source.stateAfter 0 polls) behind
    rw [stopped_source, state_eq]
  · exact resumed_session.1.trans whole_session.1.symm
  · exact resumed_session.2.trans whole_session.2.symm

/-- A run is a fold over the messages of its polls, whatever its source and the cycle it starts
from, and stopping it behind any part of a script and running on over the rest is one run over the
whole, for the cycle as well as for everything that is handed over. -/
theorem run_folds_polls_and_resumes (sink : Sink Sunk) :
    (∀ (Fed : Type) (source : Source Fed) (state : RunState Fed Sunk),
      Processes source sink state (state.run source sink)) ∧
    ∀ (cycle : WindowCycle) (sunk : Sunk) (first second : List Poll), .closed ∉ first →
      let script := first ++ second
      let watched := sink.recorded .message
      let whole := (atStart cycle (sunk, []) none).run (Source.timed script none) watched
      let stopped := (atStart cycle (sunk, []) (some first.length)).run
        (Source.timed script (some first.length)) watched
      let resumed := { stopped.final with stopRequested := false }.run
        (Source.timed script none) watched
      stopped.reason = .requested ∧ stopped.final.source = first.length ∧
        resumed.reason = whole.reason ∧ resumed.final.source = whole.final.source ∧
        resumed.final.cycle = whole.final.cycle ∧ resumed.final.sink = whole.final.sink :=
  ⟨fun _ source state => processes_run source sink state, fun cycle sunk _ second isOpen =>
    run_resumed cycle (sink.recorded .message) (sunk, []) second isOpen⟩

/-- A run that is stopped between two messages and then runs until its script closes. -/
theorem run_folds_polls_and_resumes_halfway :
    let first : List Poll := [.message [0, 0], .empty]
    let script := first ++ [.message [1], .closed, .message [2]]
    let watched := Sink.collecting.recorded .message
    let start := atStart (.fresh .standard) (([] : List Snapshot), ([] : List Emission))
    let whole := (start none).run (Source.timed script none) watched
    let stopped := (start (some 2)).run (Source.timed script (some 2)) watched
    let resumed := { stopped.final with stopRequested := false }.run
      (Source.timed script none) watched
    .closed ∉ first ∧ stopped.reason = .requested ∧ stopped.final.source = 2 ∧
      resumed.reason = whole.reason ∧ resumed.final.source = whole.final.source ∧
      resumed.final.cycle = whole.final.cycle ∧ resumed.final.sink = whole.final.sink := by
  intro first
  have isOpen : .closed ∉ first := by decide
  exact ⟨isOpen, (run_folds_polls_and_resumes Sink.collecting).2 (.fresh .standard) [] first
    [.message [1], .closed, .message [2]] isOpen⟩

end RunState

end HitMonitor
