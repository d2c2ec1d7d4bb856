import HitMonitor.Proofs.Capture.DueTimes
import HitMonitor.Proofs.Monitor.Runs

/-!
# Sources that replay

A source replays if each of its polls is a poll of some replay, whatever clock it goes by.  A run
over such a source processes the frames that are short enough and comes to an end.
-/

namespace HitMonitor

namespace Source

variable {Fed : Type}

/-- Each poll of a source is a poll of a replay at some time and with some wait, which does not
break off under a clock that ends at `latest` and never raises the stop signal.  A relation says
which replay a state of the source stands for, so any clock may drive the replay. -/
structure Replays (source : Source Fed) (latest : Nat) (Shows : Fed → Replay → Prop) : Prop where
  poll : ∀ (timeoutMs : Nat) {fed : Fed} {replay : Replay}, Shows fed replay →
    ∃ now timeout, replay.pollInTime latest now timeout = .ok (replay.poll now timeout) ∧
      (source.poll timeoutMs fed).outcome = (replay.poll now timeout).outcome ∧
        (source.poll timeoutMs fed).requestsStop = false ∧
        Shows (source.poll timeoutMs fed).state (replay.poll now timeout).state

namespace Replays

variable {source : Source Fed} {latest : Nat} {Shows : Fed → Replay → Prop}

/-- The polls of a source that replays are polls of the replay, one after the other. -/
theorem issued_eq_pollEach (replays : source.Replays latest Shows) (timeoutMs : Nat)
    {stopRequested : Bool} (down : stopRequested = false) {fed : Fed} {replay : Replay}
    (shows : Shows fed replay) :
    signalAfter stopRequested (source.issued timeoutMs stopRequested fed) = false ∧
      ∃ waits,
        (source.issued timeoutMs stopRequested fed).map Polled.outcome =
          (replay.pollEach waits).1 ∧
        Shows (stateAfter fed (source.issued timeoutMs stopRequested fed))
          (replay.pollEach waits).2 := by
  fun_induction source.issued timeoutMs stopRequested fed generalizing replay with
  | case1 => cases down
  | case2 fed polled closed =>
      obtain ⟨now, timeout, _, outcome, quiet, next⟩ := replays.poll timeoutMs shows
      refine ⟨?_, [(now, timeout)], congrArg (· :: []) outcome, next⟩
      rw [signalAfter_cons, signalAfter_nil]
      exact quiet
  | case3 fed polled isOpen ih =>
      obtain ⟨now, timeout, _, outcome, quiet, next⟩ := replays.poll timeoutMs shows
      obtain ⟨later, waits, outcomes, last⟩ := ih quiet next
      refine ⟨?_, (now, timeout) :: waits, ?_, last⟩
      · rw [signalAfter_cons]
        exact later
      · rw [List.map_cons, outcomes, Replay.pollEach]
        exact congrArg (· :: _) outcome

/-- Polling a source that replays goes on until every frame is passed. -/
theorem passes_all (replays : source.Replays latest Shows) (timeoutMs : Nat) {fed : Fed}
    {replay : Replay} (shows : Shows fed replay) :
    let polls := source.issued timeoutMs false fed
    .closed ∈ polls.map Polled.outcome ∧
      ∃ last, Shows (stateAfter fed polls) last ∧
        replay.Passes replay.frames ((polls.map Polled.outcome).filterMap Poll.message?) last := by
  intro polls
  obtain ⟨down, waits, outcomes, last⟩ := replays.issued_eq_pollEach timeoutMs rfl shows
  have closed : .closed ∈ polls.map Polled.outcome := by
    -- Polls that do not close end with the signal up, and a replay leaves it down.
    apply Decidable.byContradiction
    intro isOpen
    have up := source.signal_up_of_not_closed timeoutMs false fed isOpen
    rw [down] at up
    cases up
  obtain ⟨passed, passes⟩ := replay.passes_pollEach waits
  have frames_eq := passes.frames
  rw [Replay.frames_pollEach_of_closed (outcomes ▸ closed), List.append_nil] at frames_eq
  rw [frames_eq, outcomes]
  exact ⟨outcomes ▸ closed, _, last, passes⟩

end Replays

end Source

/-- A clock without a limit that goes on for long enough drives its replay and does nothing else. -/
theorem ReplayClock.replays (latest : Nat) :
    source.Replays latest fun clock replay =>
      clock.replay = replay ∧ clock.limit = none ∧ clock.HasTime latest where
  poll timeoutMs clock replay := by
    rintro ⟨rfl, unlimited, hasTime⟩
    have inTime := Replay.pollInTime_eq_ok_iff.mpr
      ⟨hasTime.inTime (timeoutMs * ticksPerMs), rfl⟩
    refine ⟨clock.now, timeoutMs * ticksPerMs, inTime, rfl, ?_, rfl, unlimited,
      hasTime.poll timeoutMs⟩
    simp [source, poll, isPast, unlimited]

/-! ## Time limits -/

namespace ReplayClock

/-- A poll raises the stop signal if the clock has passed the limit when the delay is over. -/
theorem requestsStop_poll (timeoutMs : Nat) {clock : ReplayClock} {limit : Nat}
    (limited : clock.limit = some limit) :
    (source.poll timeoutMs clock).requestsStop =
      decide (limit < clock.woken timeoutMs + clock.delays.headD 0) := by
  change isPast clock.limit _ = _
  rw [limited]
  rfl

/-- A limit behind the horizon can stop a clock after any of its polls: the time that is missing
until then passes all at once. -/
theorem issued_of_delays (timeoutMs : Nat) {limit count : Nat} {clock : ReplayClock}
    (limited : clock.limit = some limit)
    (early : clock.replay.horizon clock.now (clock.replay.interval.getD 0) ≤ limit)
    (delays : clock.delays = List.replicate count 0 ++ [limit + 1]) :
    let polls := source.issued timeoutMs false clock
    polls.length = count + 1 ∨
      polls.length < count + 1 ∧ .closed ∈ polls.map Polled.outcome := by
  intro polls
  unfold polls
  clear polls
  induction count generalizing clock with
  | zero =>
      by_cases closed : (source.poll timeoutMs clock).outcome = .closed
      · simp [Source.issued_of_closed closed]
      · have up : (source.poll timeoutMs clock).requestsStop = true := by
          simp only [requestsStop_poll timeoutMs limited, delays, List.replicate_zero,
            List.nil_append, List.headD_cons, decide_eq_true_eq]
          omega
        simp [Source.issued_of_open closed, up, Source.issued_of_stop]
  | succ count ih =>
      by_cases closed : (source.poll timeoutMs clock).outcome = .closed
      · simp [Source.issued_of_closed closed, closed]
      · let interval := clock.replay.interval.getD 0
        have same : ∀ chosen ∈ clock.replay.interval, chosen = interval := by
          rintro chosen (paced : clock.replay.interval = some chosen)
          simp [interval, paced]
        have early : clock.replay.horizon clock.now interval ≤ limit := early
        obtain ⟨inside, moved⟩ := clock.horizon_woken_le timeoutMs same
        have down : (source.poll timeoutMs clock).requestsStop = false := by
          simp only [requestsStop_poll timeoutMs limited, delays, List.replicate_succ,
            List.cons_append, List.headD_cons, decide_eq_false_iff_not]
          omega
        let next := (source.poll timeoutMs clock).state
        have now : next.now = clock.woken timeoutMs := by
          change clock.woken timeoutMs + clock.delays.headD 0 = _
          simp [delays, List.replicate_succ]
        have left : next.delays = List.replicate count 0 ++ [limit + 1] := by
          change clock.delays.tail = _
          simp [delays, List.replicate_succ]
        obtain ⟨passed, passes⟩ := clock.replay.passes_poll clock.now (timeoutMs * ticksPerMs)
        have interval_eq : next.replay.interval = clock.replay.interval := passes.interval
        have rest : next.replay.horizon next.now (next.replay.interval.getD 0) ≤ limit := by
          rw [now, interval_eq]
          exact Nat.le_trans moved early
        have stops := ih (show next.limit = some limit from limited) rest left
        rw [Source.issued_of_open closed, down]
        simp only [List.length_cons, List.map_cons, List.mem_cons]
        exact stops.imp (congrArg (· + 1)) fun ⟨short, ends⟩ => ⟨Nat.succ_lt_succ short, .inr ends⟩

end ReplayClock

/-! ## Runs over a replay -/

namespace RunState

variable {Fed Sunk : Type}

/-- A run that starts from a state of its source, with the stop signal down. -/
def starting (fed : Fed) (cycle : WindowCycle) (sunk : Sunk) : RunState Fed Sunk where
  cycle := cycle
  source := fed
  sink := sunk
  stopRequested := false

/-- A run over a source that replays processes the frames that are short enough and counts the
others, however many polls it takes. -/
theorem run_over_replay {source : Source Fed} {latest : Nat} {Shows : Fed → Replay → Prop}
    (replays : source.Replays latest Shows) {fed : Fed} {replay : Replay} (shows : Shows fed replay)
    (sink : Sink Sunk) (cycle : WindowCycle) (sunk : Sunk) :
    let start := starting fed cycle sunk
    let result := start.run source sink
    let messages := (replay.frames.filter fun frame =>
      frame.length ≤ replay.longestMessage).map Frame.payload
    let folded := Session.play { cycle := cycle, sink := sunk } (messages.map (.message · sink))
    result.reason = .exhausted ∧
      result.final.cycle =
        folded.cycle.idle (((start.polls source sink).map Polled.outcome).count .empty) ∧
      result.final.sink = folded.sink ∧ start.emissions source sink = folded.emissions ∧
      ∃ last, Shows result.final.source last ∧
        last.skipped = replay.skipped +
          replay.frames.countP fun frame => replay.longestMessage < frame.length := by
  intro start result messages folded
  have processes := processes_run source sink start
  have polls_eq : start.polls source sink =
      source.issued cycle.settings.pollWaitMs false fed := start.polls_eq_issued source sink
  obtain ⟨closed, last, shows_last, passes⟩ := replays.passes_all cycle.settings.pollWaitMs shows
  have source_eq := processes.source_eq
  rw [← polls_eq] at closed shows_last passes
  obtain ⟨cycle_eq, sink_eq, emissions_eq⟩ := processes.processed
  simp only [passes.delivered] at cycle_eq sink_eq emissions_eq
  refine ⟨processes.exhausted_iff.mpr closed, cycle_eq, sink_eq, emissions_eq, last, ?_,
    passes.skipped⟩
  rw [source_eq]
  exact shows_last

end RunState

end HitMonitor
