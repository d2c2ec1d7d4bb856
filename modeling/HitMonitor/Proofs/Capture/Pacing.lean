import HitMonitor.Proofs.Capture.Sources

/-!
# Pacing

How long the polls of a replay wait, and which of them come in time for a message, decides when a
message is handed over and nothing else: at any moment the messages so far are those of the frames
that were passed, and a run over a replay comes to the same end at any pace.  The only exception is
a due time that the clock cannot show: the poll that needs it breaks off and loses its frame.
-/

namespace HitMonitor

namespace Replay

/-! ## Frames handed over, passed over and left -/

/-- What the polls of a replay have brought, in terms of the frames they have passed. -/
structure Delivers (replay : Replay) (frames : List Frame) (limit : Nat) (outcomes : List Poll) :
    Prop where
  remaining_le : replay.remaining ≤ frames.length
  messages : outcomes.filterMap Poll.message? =
    ((frames.take (frames.length - replay.remaining)).filter fun frame =>
      frame.length ≤ limit).map Frame.payload
  skipped : replay.skipped = (frames.take (frames.length - replay.remaining)).countP
    fun frame => limit < frame.length
  total : (outcomes.filterMap Poll.message?).length + replay.skipped + replay.remaining =
    frames.length

theorem Passes.delivers {before after : Replay} {passed : List Frame} {outcomes : List Poll}
    (passes : before.Passes passed (outcomes.filterMap Poll.message?) after)
    (unskipped : before.skipped = 0) :
    after.Delivers before.frames before.longestMessage outcomes := by
  have length_eq : before.frames.length = passed.length + after.remaining := by
    rw [passes.frames, List.length_append]
    rfl
  have front : before.frames.take (before.frames.length - after.remaining) = passed := by
    rw [length_eq, Nat.add_sub_cancel, passes.frames, List.take_left]
  have skipped : after.skipped =
      passed.countP fun frame => before.longestMessage < frame.length := by
    rw [passes.skipped, unskipped, Nat.zero_add]
  have parts := List.length_eq_countP_add_countP
    (fun frame : Frame => decide (frame.length ≤ before.longestMessage)) (l := passed)
  constructor
  · omega
  · rw [front]
    exact passes.delivered
  · rw [front]
    exact skipped
  · rw [passes.delivered, List.length_map, ← List.countP_eq_length_filter, skipped, length_eq,
      parts]
    simp

/-- What polls have brought before one of them has broken off: its frame is neither handed over nor
counted nor left, and the others are as before. -/
structure Loses (replay : Replay) (frames : List Frame) (limit : Nat) (outcomes : List Poll) :
    Prop where
  lost : ∃ frame, frames[frames.length - (replay.remaining + 1)]? = some frame ∧
    frame.length ≤ limit
  messages : outcomes.filterMap Poll.message? =
    ((frames.take (frames.length - (replay.remaining + 1))).filter fun frame =>
      frame.length ≤ limit).map Frame.payload
  skipped : replay.skipped = (frames.take (frames.length - (replay.remaining + 1))).countP
    fun frame => limit < frame.length
  total : (outcomes.filterMap Poll.message?).length + replay.skipped + replay.remaining + 1 =
    frames.length

/-- The frame of a poll that breaks off is lost. -/
theorem Passes.loses {before after : Replay} {passed : List Frame} {outcomes : List Poll}
    (passes : before.Passes passed (outcomes.filterMap Poll.message?) after)
    (unskipped : before.skipped = 0) {now timeout : Nat} {payload : List UInt8}
    (brings : (after.poll now timeout).outcome = .message payload) :
    (after.leftBehind now timeout).Loses before.frames before.longestMessage outcomes := by
  obtain ⟨oversized, front, frame, reaches, last, front_eq, short⟩ := passes_poll_of_message brings
  have reached : before.Passes (passed ++ oversized) (outcomes.filterMap Poll.message?) front := by
    have joined := passes.trans reaches
    rwa [List.append_nil] at joined
  have delivers := reached.delivers unskipped
  have remaining : front.remaining = (after.leftBehind now timeout).remaining + 1 :=
    congrArg List.length front_eq
  have admitted : front.longestMessage = before.longestMessage := reached.longestMessage
  have fits : frame.length ≤ before.longestMessage := passes.longestMessage ▸ short
  have skipped : (after.leftBehind now timeout).skipped = front.skipped := by
    have same := last.skipped
    rw [admitted, List.countP_singleton, decide_eq_false (Nat.not_lt.mpr fits)] at same
    exact same
  have total := delivers.total
  rw [remaining, ← skipped] at total
  refine ⟨⟨frame, ?_, fits⟩, remaining ▸ delivers.messages, ?_, by omega⟩
  · have length_eq := congrArg List.length reached.frames
    rw [List.length_append, show front.frames.length = front.remaining from rfl] at length_eq
    rw [← remaining, length_eq, Nat.add_sub_cancel, reached.frames, front_eq,
      List.getElem?_append_right (Nat.le_refl _), Nat.sub_self]
    rfl
  · rw [skipped, ← remaining]
    exact delivers.skipped

/-! ## Due times -/

/-- Only a replay with an interval ever has something to wait for, and then for a time that a poll
can miss. -/
structure Timed (replay : Replay) : Prop where
  interval_pos : ∀ interval, replay.interval = some interval → 0 < interval
  due_pos : ∀ due, replay.dueAt = some due → replay.interval ≠ none ∧ 0 < due

/-- A poll leaves the interval alone and sets the due time by it. -/
theorem Timed.poll {replay : Replay} (timed : replay.Timed) (now timeout : Nat) :
    (replay.poll now timeout).state.Timed := by
  unfold Replay.poll
  split
  next => exact timed
  next =>
    split
    next => exact timed
    next =>
      generalize skipOversized replay.longestMessage replay.frames replay.cursor [] = skip
      obtain ⟨kept, next, noted⟩ := skip
      cases kept with
      | nil => exact ⟨timed.interval_pos, timed.due_pos⟩
      | cons frame rest =>
          refine ⟨timed.interval_pos, ?_⟩
          intro due due_eq
          simp only [Option.map_eq_some_iff] at due_eq
          obtain ⟨interval, interval_eq, rfl⟩ := due_eq
          have positive := timed.interval_pos interval interval_eq
          exact ⟨by simp [interval_eq], by omega⟩

theorem Timed.pollEach {replay : Replay} (timed : replay.Timed) (waits : List (Nat × Nat)) :
    (replay.pollEach waits).2.Timed := by
  induction waits generalizing replay with
  | nil => exact timed
  | cons wait waits ih => exact ih (timed.poll wait.1 wait.2)

/-- A replay that has something to wait for can be polled in time and too early. -/
theorem Timed.exists_isDue {replay : Replay} (timed : replay.Timed)
    (waiting : replay.dueAt ≠ none) (isDue : Bool) :
    ∃ now timeout, replay.isDue now timeout = isDue := by
  obtain ⟨due, due_eq⟩ := Option.ne_none_iff_exists'.mp waiting
  obtain ⟨_, positive⟩ := timed.due_pos due due_eq
  cases isDue with
  | false => exact ⟨0, 0, by simp only [Replay.isDue, due_eq, decide_eq_false_iff_not]; omega⟩
  | true => exact ⟨due, 0, by simp [Replay.isDue, due_eq]⟩

/-- A poll is in vain exactly if there is a frame left and the poll comes too early. -/
theorem outcome_poll_eq_empty_iff {replay : Replay} {now timeout : Nat} :
    (replay.poll now timeout).outcome = .empty ↔
      replay.remaining ≠ 0 ∧ replay.isDue now timeout = false := by
  by_cases exhausted : replay.frames = []
  · simp [poll, remaining, exhausted]
  · cases due : replay.isDue now timeout with
    | false => simp [poll, remaining, exhausted, due]
    | true =>
        simp only [poll, List.isEmpty_iff, exhausted, due]
        generalize skipOversized replay.longestMessage replay.frames replay.cursor [] = skip
        obtain ⟨kept, next, noted⟩ := skip
        cases kept with
        | nil => simp
        | cons frame rest => simp

/-- A poll in vain leaves a replay as it is. -/
theorem state_poll_of_empty {replay : Replay} {now timeout : Nat}
    (empty : (replay.poll now timeout).outcome = .empty) :
    (replay.poll now timeout).state = replay := by
  obtain ⟨left, early⟩ := outcome_poll_eq_empty_iff.mp empty
  have frames_ne : replay.frames ≠ [] := fun exhausted => left (by simp [remaining, exhausted])
  simp [poll, frames_ne, early]

/-- A poll that is too early brings no message. -/
theorem isDue_of_message {replay : Replay} {now timeout : Nat} {payload : List UInt8}
    (brings : (replay.poll now timeout).outcome = .message payload) :
    replay.isDue now timeout = true := by
  cases due : replay.isDue now timeout with
  | true => rfl
  | false =>
      unfold poll at brings
      split at brings
      next => cases brings
      next => simp [due] at brings

theorem Timed.interval_of_empty {replay : Replay} (timed : replay.Timed) {now timeout : Nat}
    (empty : (replay.poll now timeout).outcome = .empty) : replay.interval ≠ none := by
  obtain ⟨_, early⟩ := outcome_poll_eq_empty_iff.mp empty
  cases due_eq : replay.dueAt with
  | none => simp [isDue, due_eq] at early
  | some due => exact (timed.due_pos due due_eq).1

/-- Without an interval no poll is in vain. -/
theorem Timed.empty_not_mem {replay : Replay} (timed : replay.Timed)
    (unpaced : replay.interval = none) (waits : List (Nat × Nat)) :
    .empty ∉ (replay.pollEach waits).1 := by
  induction waits generalizing replay with
  | nil => simp [Replay.pollEach]
  | cons wait waits ih =>
      obtain ⟨passed, passes⟩ := replay.passes_poll wait.1 wait.2
      simp only [Replay.pollEach, List.mem_cons, not_or]
      refine ⟨?_, ih (timed.poll wait.1 wait.2) (passes.interval.trans unpaced)⟩
      intro empty
      exact timed.interval_of_empty empty.symm unpaced

/-- What the next poll of a replay can bring when it brings no message and does not break off. -/
structure Answers (replay : Replay) (latest interval : Nat) : Prop where
  /-- A poll breaks off only over a message and its due time. -/
  broken : ∀ now timeout left, replay.pollInTime latest now timeout = .error left →
    0 < interval ∧ latest < replay.wake now timeout + interval ∧
      replay.isDue now timeout = true
  empty_iff : ∀ now timeout, (∃ polled, replay.pollInTime latest now timeout = .ok polled ∧
    polled.outcome = .empty) ↔ replay.remaining ≠ 0 ∧ replay.isDue now timeout = false
  of_empty : ∀ now timeout polled, replay.pollInTime latest now timeout = .ok polled →
    polled.outcome = .empty → polled.state = replay ∧ 0 < interval
  of_closed : ∀ now timeout polled, replay.pollInTime latest now timeout = .ok polled →
    polled.outcome = .closed → polled.state.remaining = 0 ∧
      ∀ waits, polled.state.pollEachInTime latest waits =
        .ok (List.replicate waits.length .closed, polled.state)
  /-- As soon as there is something to wait for, a poll may be due or not. -/
  exists_isDue : replay.dueAt ≠ none →
    ∀ isDue : Bool, ∃ now timeout, replay.isDue now timeout = isDue

/-- The due times of a new replay fit if every poll leaves time for all frames behind it. -/
theorem dueTimesFit_of_early (frames : List Frame) (limit interval : Nat) {latest : Nat}
    {waits : List (Nat × Nat)}
    (early : interval = 0 ∨ ∀ wait ∈ waits, wait.1 + frames.length * interval ≤ latest) :
    (((ofFrames frames).limitedTo limit).pacedBy interval).DueTimesFit latest waits := by
  rcases early with rfl | early
  · exact .of_unpaced rfl latest waits
  · cases waits with
    | nil => exact trivial
    | cons wait waits =>
        have enough : frames.length * interval ≤ latest := by
          have first := early wait List.mem_cons_self
          omega
        refine dueTimesFit_of_horizon (latest - frames.length * interval) ?_ ?_
        · intro chosen chosen_eq
          rw [pacedBy, Option.ite_none_left_eq_some, Option.some.injEq] at chosen_eq
          obtain ⟨_, rfl⟩ := chosen_eq
          change max (latest - frames.length * interval) 0 + frames.length * interval ≤ latest
          omega
        · exact fun wait member => Nat.le_sub_of_add_le (early wait member)

theorem timed_pacedBy (frames : List Frame) (limit interval : Nat) :
    (((ofFrames frames).limitedTo limit).pacedBy interval).Timed where
  interval_pos chosen chosen_eq := by
    simp only [pacedBy, Option.ite_none_left_eq_some, Option.some.injEq] at chosen_eq
    obtain ⟨nonzero, rfl⟩ := chosen_eq
    exact Nat.pos_of_ne_zero nonzero
  due_pos due due_eq := by cases due_eq

/-- A replay that was set up with an interval answers by it, whatever polls came before. -/
theorem Timed.answers {replay : Replay} (timed : replay.Timed) {interval : Nat}
    (interval_eq : replay.interval = if interval = 0 then none else some interval)
    (latest : Nat) : replay.Answers latest interval where
  broken now timeout left broken := by
    rcases replay.pollInTime_eq latest now timeout with ⟨_, done⟩ | ⟨late, _⟩
    · rw [done] at broken
      cases broken
    · obtain ⟨payload, wait, brings, paced, behind⟩ := exists_of_not_inTime late
      rw [interval_eq, Option.ite_none_left_eq_some, Option.some.injEq] at paced
      obtain ⟨nonzero, rfl⟩ := paced
      exact ⟨Nat.pos_of_ne_zero nonzero, behind, isDue_of_message brings⟩
  empty_iff now timeout := by
    rw [← outcome_poll_eq_empty_iff]
    constructor
    · rintro ⟨polled, done, empty⟩
      exact (pollInTime_eq_ok_iff.mp done).2 ▸ empty
    · intro empty
      exact ⟨_, pollInTime_eq_ok_iff.mpr ⟨.of_no_message (by rw [empty]; rfl) latest, rfl⟩, empty⟩
  of_empty now timeout polled done empty := by
    obtain ⟨_, rfl⟩ := pollInTime_eq_ok_iff.mp done
    refine ⟨state_poll_of_empty empty, Nat.pos_of_ne_zero fun zero => ?_⟩
    exact timed.interval_of_empty empty (by rw [interval_eq, if_pos zero])
  of_closed now timeout polled done closed := by
    obtain ⟨_, rfl⟩ := pollInTime_eq_ok_iff.mp done
    have exhausted := frames_of_closed closed
    refine ⟨congrArg List.length exhausted, fun waits => ?_⟩
    rw [(DueTimesFit.of_frames_nil exhausted latest waits).pollEachInTime_eq,
      pollEach_of_frames_nil exhausted]
  exists_isDue waiting isDue := timed.exists_isDue waiting isDue

end Replay

/-! ## Runs at any pace -/

namespace RunState

variable {Fed Sunk : Type}

/-- A run over a source that replays without an interval has no poll in vain. -/
theorem count_empty_of_unpaced {source : Source Fed} {latest : Nat}
    {Shows : Fed → Replay → Prop} (replays : source.Replays latest Shows) {fed : Fed}
    {replay : Replay} (shows : Shows fed replay) (timed : replay.Timed)
    (unpaced : replay.interval = none) (sink : Sink Sunk) (cycle : WindowCycle) (sunk : Sunk) :
    (((starting fed cycle sunk).polls source sink).map Polled.outcome).count .empty = 0 := by
  obtain ⟨_, waits, outcomes, _⟩ :=
    replays.issued_eq_pollEach cycle.settings.pollWaitMs rfl shows
  rw [polls_eq_issued, List.count_eq_zero]
  exact outcomes ▸ timed.empty_not_mem unpaced waits

end RunState

namespace Replay

/-- A replay hands over each frame that is short enough exactly once and in order, and counts the
others, whatever the size limit, the interval and the times of the polls, as long as the clock shows
the due times.  The first poll whose due time it cannot show breaks off and loses its frame; the
clock shows all of them if there is no interval, or if it goes on behind the last poll for as long
as it takes to hand over all frames.  So a run over the replay, under any clock under which no poll
breaks off, ends with the same snapshots and in the same state as a run without an interval, but for
the number of polls in vain. -/
theorem replay_delivers_at_any_pace (latest : Nat) (capture : Capture) (limit interval : Nat) :
    let frames := capture.content.frames
    let straight := (ofCapture capture).1.limitedTo limit
    let paced := straight.pacedBy interval
    (∀ waits, paced.DueTimesFit latest waits →
      ∃ outcomes after, paced.pollEachInTime latest waits = .ok (outcomes, after) ∧
        after.Delivers frames limit outcomes ∧ after.Answers latest interval) ∧
    (∀ waits, ¬ paced.DueTimesFit latest waits →
      ∃ outcomes left, paced.pollEachInTime latest waits = .error (outcomes, left) ∧
        left.Loses frames limit outcomes) ∧
    (∀ waits, (interval = 0 ∨ ∀ wait ∈ waits, wait.1 + frames.length * interval ≤ latest) →
      paced.DueTimesFit latest waits) ∧
    ∀ (Fed Other Sunk : Type) (source : Source Fed) (other : Source Other)
      (Shows : Fed → Replay → Prop) (ShowsOther : Other → Replay → Prop),
      source.Replays latest Shows → other.Replays latest ShowsOther →
      ∀ fed otherFed, Shows fed paced → ShowsOther otherFed straight →
      ∀ (sink : Sink Sunk) (cycle : WindowCycle) (sunk : Sunk),
        let slow := RunState.starting fed cycle sunk
        let fast := RunState.starting otherFed cycle sunk
        let vain := ((slow.polls source sink).map Polled.outcome).count .empty
        (slow.run source sink).reason = .exhausted ∧ (fast.run other sink).reason = .exhausted ∧
          (slow.run source sink).final.cycle = (fast.run other sink).final.cycle.idle vain ∧
          (slow.run source sink).final.sink = (fast.run other sink).final.sink ∧
          slow.emissions source sink = fast.emissions other sink := by
  intro frames straight paced
  have timed : paced.Timed := timed_pacedBy frames limit interval
  refine ⟨fun waits fits => ?_, fun waits unfit => ?_, fun waits early => ?_, ?_⟩
  · obtain ⟨passed, passes⟩ := paced.passes_pollEach waits
    exact ⟨_, _, fits.pollEachInTime_eq, passes.delivers rfl,
      (timed.pollEach waits).answers passes.interval latest⟩
  · obtain ⟨before, now, timeout, payload, brings, broken⟩ := exists_broken_poll unfit
    obtain ⟨passed, passes⟩ := paced.passes_pollEach before
    exact ⟨_, _, broken, passes.loses rfl brings⟩
  · exact dueTimesFit_of_early frames limit interval early
  · intro Fed Other Sunk source other Shows ShowsOther replays otherReplays fed otherFed shows
      otherShows sink cycle sunk slow fast vain
    -- Without a call for an interval, a replay is the one paced by zero.
    have straight_timed : straight.Timed := timed_pacedBy frames limit 0
    have no_vain := RunState.count_empty_of_unpaced otherReplays otherShows straight_timed rfl sink
      cycle sunk
    obtain ⟨slow_reason, slow_cycle, slow_sink, slow_emissions, _⟩ :=
      RunState.run_over_replay replays shows sink cycle sunk
    obtain ⟨fast_reason, fast_cycle, fast_sink, fast_emissions, _⟩ :=
      RunState.run_over_replay otherReplays otherShows sink cycle sunk
    rw [no_vain] at fast_cycle
    refine ⟨slow_reason, fast_reason, ?_, slow_sink.trans fast_sink.symm,
      slow_emissions.trans fast_emissions.symm⟩
    rw [slow_cycle, fast_cycle]
    rfl

/-- A capture whose second frame is too long, replayed once a minute to a monitor that polls for
fifty milliseconds: its polls fit under a clock of the usual length, and a run over it ends like one
without an interval. -/
theorem replay_delivers_at_any_pace_minutely :
    let minute := 60000 * ReplayClock.ticksPerMs
    let capture : Capture := ⟨"run.cap", [1, 0, 0, 0, 5, 2, 0, 0, 0, 7, 7, 0, 0, 0, 0]⟩
    let straight := (ofCapture capture).1.limitedTo 1
    let paced := straight.pacedBy minute
    let Shows (clock : ReplayClock) (replay : Replay) : Prop :=
      clock.replay = replay ∧ clock.limit = none ∧ clock.HasTime ReplayClock.latest
    let clock (replay : Replay) : ReplayClock := { replay := replay, now := 0, limit := none }
    let slow := RunState.starting (clock paced) (.fresh .standard) []
    let fast := RunState.starting (clock straight) (.fresh .standard) []
    (∃ outcomes after,
      paced.pollEachInTime ReplayClock.latest [(0, 50), (50, 50)] = .ok (outcomes, after) ∧
        after.Delivers capture.content.frames 1 outcomes ∧
        after.Answers ReplayClock.latest minute) ∧
      ReplayClock.source.Replays ReplayClock.latest Shows ∧
      (slow.run ReplayClock.source Sink.collecting).reason = .exhausted ∧
      slow.emissions ReplayClock.source Sink.collecting =
        fast.emissions ReplayClock.source Sink.collecting := by
  intro minute capture straight paced Shows clock slow fast
  have replays := ReplayClock.replays ReplayClock.latest
  have count : capture.content.frames.length = 3 := by decide +kernel
  have hasTime : (clock paced).HasTime ReplayClock.latest := by
    intro interval interval_eq
    obtain rfl : minute = interval := Option.some.inj interval_eq
    change max 0 0 + capture.content.frames.length * minute + 0 ≤ ReplayClock.latest
    rw [count]
    decide
  have shown : ∀ wait ∈ [(0, 50), (50, 50)],
      wait.1 + capture.content.frames.length * minute ≤ ReplayClock.latest := by
    rw [count]
    decide
  obtain ⟨fit, _, early, runs⟩ :=
    replay_delivers_at_any_pace ReplayClock.latest capture 1 minute
  obtain ⟨reason, _, _, _, emissions⟩ := runs _ _ _ _ _ _ _ replays replays (clock paced)
    (clock straight) ⟨rfl, rfl, hasTime⟩ ⟨rfl, rfl, .of_unpaced rfl _⟩ Sink.collecting
    (.fresh .standard) []
  exact ⟨fit _ (early _ (.inr shown)), replays, reason, emissions⟩

end Replay

end HitMonitor
