import HitMonitor.Proofs.Capture.Replays
import Mathlib.Algebra.GroupWithZero.Nat

/-!
# Due times

A message is due an interval after the one before it.  A clock that ends somewhere cannot show every
due time, and a poll that would need such a time breaks off when it has taken its frame.  Under such
a clock a poll is the same as any other as long as its due time can be shown, and every due time can
be shown if the clock goes on long enough for one interval for each frame.
-/

namespace HitMonitor

namespace Replay

/-- A poll that hands over a message sets the due time of the next one by the time when it stops
waiting. -/
theorem dueAt_poll (replay : Replay) (now timeout : Nat) :
    (replay.poll now timeout).state.dueAt =
      match (replay.poll now timeout).outcome with
      | .message _ => replay.interval.map (replay.wake now timeout + ·)
      | .empty | .closed => replay.dueAt := by
  unfold poll
  split
  next => rfl
  next =>
    split
    next => rfl
    next =>
      generalize skipOversized replay.longestMessage replay.frames replay.cursor [] = skip
      obtain ⟨kept, next, noted⟩ := skip
      cases kept <;> rfl

/-- A clock shows the due time that a poll sets. -/
def InTime (replay : Replay) (latest now timeout : Nat) : Prop :=
  ∀ payload interval, (replay.poll now timeout).outcome = .message payload →
    replay.interval = some interval → replay.wake now timeout + interval ≤ latest

theorem InTime.of_unpaced {replay : Replay} (unpaced : replay.interval = none)
    (latest now timeout : Nat) : replay.InTime latest now timeout := by
  intro payload interval _ paced
  rw [unpaced] at paced
  cases paced

/-- The replay that is left behind by a poll that breaks off: without the frame, and with the due
time of before. -/
def leftBehind (replay : Replay) (now timeout : Nat) : Replay :=
  { (replay.poll now timeout).state with dueAt := replay.dueAt }

/-- A poll under a clock breaks off exactly if the clock cannot show the due time. -/
theorem pollInTime_eq (replay : Replay) (latest now timeout : Nat) :
    (replay.InTime latest now timeout ∧
        replay.pollInTime latest now timeout = .ok (replay.poll now timeout)) ∨
      ¬ replay.InTime latest now timeout ∧
        replay.pollInTime latest now timeout = .error (replay.leftBehind now timeout) ∧
        ∃ payload, (replay.poll now timeout).outcome = .message payload := by
  have due := replay.dueAt_poll now timeout
  unfold InTime pollInTime leftBehind
  cases outcome : (replay.poll now timeout).outcome with
  | empty => exact .inl ⟨nofun, by simp [outcome]⟩
  | closed => exact .inl ⟨nofun, by simp [outcome]⟩
  | message payload =>
      rw [outcome] at due
      cases interval : replay.interval with
      | none =>
          simp only [interval, Option.map_none] at due
          exact .inl ⟨nofun, by simp [outcome, due]⟩
      | some wait =>
          simp only [interval, Option.map_some] at due
          by_cases shown : replay.wake now timeout + wait ≤ latest
          · exact .inl ⟨fun _ _ _ paced => Option.some.inj paced ▸ shown,
              by simp [outcome, due, shown]⟩
          · exact .inr ⟨fun inTime => shown (inTime payload wait rfl rfl),
              by simp [outcome, due, shown], payload, rfl⟩

theorem pollInTime_eq_ok_iff {replay : Replay} {latest now timeout : Nat}
    {polled : Polled Replay} :
    replay.pollInTime latest now timeout = .ok polled ↔
      replay.InTime latest now timeout ∧ replay.poll now timeout = polled := by
  rcases replay.pollInTime_eq latest now timeout with ⟨inTime, done⟩ | ⟨late, broken, _⟩
  · simp [done, inTime]
  · simp [broken, late]

/-- A due time that the clock cannot show is that of a message, an interval behind the end of the
wait. -/
theorem exists_of_not_inTime {replay : Replay} {latest now timeout : Nat}
    (late : ¬ replay.InTime latest now timeout) :
    ∃ payload interval, (replay.poll now timeout).outcome = .message payload ∧
      replay.interval = some interval ∧ latest < replay.wake now timeout + interval := by
  simpa only [InTime, Classical.not_forall, Nat.not_le, exists_prop] using late

/-- A poll that brings no message has no due time to work out. -/
theorem InTime.of_no_message {replay : Replay} {now timeout : Nat}
    (none : (replay.poll now timeout).outcome.message? = none) (latest : Nat) :
    replay.InTime latest now timeout := by
  intro payload interval brings
  rw [brings] at none
  cases none

/-! ## Poll after poll -/

/-- Polls one after the other under a clock, up to the first one that breaks off.  What has been
brought by then is returned in both cases, together with the replay that is left. -/
def pollEachInTime (replay : Replay) (latest : Nat) :
    (waits : List (Nat × Nat)) → Except (List Poll × Replay) (List Poll × Replay)
  | [] => .ok ([], replay)
  | (now, timeout) :: waits =>
      match replay.pollInTime latest now timeout with
      | .error left => .error ([], left)
      | .ok polled =>
          let behind (rest : List Poll × Replay) := (polled.outcome :: rest.1, rest.2)
          ((polled.state.pollEachInTime latest waits).mapError behind).map behind

/-- A clock shows the due times that polls set. -/
def DueTimesFit (replay : Replay) (latest : Nat) : (waits : List (Nat × Nat)) → Prop
  | [] => True
  | (now, timeout) :: waits =>
      replay.InTime latest now timeout ∧ (replay.poll now timeout).state.DueTimesFit latest waits

/-- A replay without a frame left has no due time to work out. -/
theorem DueTimesFit.of_frames_nil {replay : Replay} (exhausted : replay.frames = [])
    (latest : Nat) (waits : List (Nat × Nat)) : replay.DueTimesFit latest waits := by
  induction waits with
  | nil => exact trivial
  | cons wait waits ih =>
      have polled : replay.poll wait.1 wait.2 = { outcome := .closed, state := replay } := by
        simp [poll, exhausted]
      refine ⟨.of_no_message (by rw [polled]; rfl) latest, ?_⟩
      rw [polled]
      exact ih

theorem DueTimesFit.of_unpaced {replay : Replay} (unpaced : replay.interval = none)
    (latest : Nat) (waits : List (Nat × Nat)) : replay.DueTimesFit latest waits := by
  induction waits generalizing replay with
  | nil => exact trivial
  | cons wait waits ih =>
      obtain ⟨passed, passes⟩ := replay.passes_poll wait.1 wait.2
      exact ⟨InTime.of_unpaced unpaced latest _ _, ih (passes.interval.trans unpaced)⟩

/-- Polls whose due times can be shown are the same under a clock. -/
theorem DueTimesFit.pollEachInTime_eq {latest : Nat} {waits : List (Nat × Nat)} {replay : Replay}
    (fits : replay.DueTimesFit latest waits) :
    replay.pollEachInTime latest waits = .ok (replay.pollEach waits) := by
  induction waits generalizing replay with
  | nil => rfl
  | cons wait waits ih =>
      have done := pollInTime_eq_ok_iff.mpr ⟨fits.1, rfl⟩
      rw [pollEachInTime, done]
      simp only [ih fits.2]
      rfl

/-- Otherwise they break off at the first poll whose due time cannot be shown. -/
theorem exists_broken_poll {latest : Nat} {waits : List (Nat × Nat)} {replay : Replay}
    (unfit : ¬ replay.DueTimesFit latest waits) :
    ∃ before now timeout payload,
      let (outcomes, last) := replay.pollEach before
      (last.poll now timeout).outcome = .message payload ∧
        replay.pollEachInTime latest waits = .error (outcomes, last.leftBehind now timeout) := by
  induction waits generalizing replay with
  | nil => exact (unfit trivial).elim
  | cons wait waits ih =>
      obtain ⟨now, timeout⟩ := wait
      rcases replay.pollInTime_eq latest now timeout with ⟨inTime, done⟩ | ⟨_, broken, brings⟩
      · obtain ⟨before, later, wait, payload, brings, broken⟩ :=
          ih fun rest => unfit ⟨inTime, rest⟩
        refine ⟨(now, timeout) :: before, later, wait, payload, brings, ?_⟩
        rw [pollEachInTime, done]
        simp only [broken]
        rfl
      · obtain ⟨payload, brings⟩ := brings
        refine ⟨[], now, timeout, payload, brings, ?_⟩
        rw [pollEachInTime, broken]

/-! ## Clocks that go on long enough -/

/-- A poll never waits longer than for the due time. -/
theorem wake_le (replay : Replay) (now timeout : Nat) :
    replay.wake now timeout ≤ max now (replay.dueAt.getD 0) := by
  unfold wake
  cases replay.dueAt with
  | none => simp
  | some due =>
      simp only [Option.getD_some]
      split
      next => exact Nat.le_max_left ..
      next => exact Nat.le_trans (Nat.min_le_left ..) (Nat.le_max_right ..)

/-- The last due time of a replay that is polled until some time and hands over a message for each
frame. -/
def horizon (replay : Replay) (time interval : Nat) : Nat :=
  max time (replay.dueAt.getD 0) + replay.frames.length * interval

theorem horizon_mono (replay : Replay) {time later : Nat} (earlier : time ≤ later)
    (interval : Nat) : replay.horizon time interval ≤ replay.horizon later interval := by
  unfold horizon
  omega

theorem horizon_wait_le (replay : Replay) (time wait interval : Nat) :
    replay.horizon (time + wait) interval ≤ replay.horizon time interval + wait := by
  unfold horizon
  omega

/-- Waiting for the due time is part of the horizon. -/
theorem horizon_waited (replay : Replay) (time interval : Nat) :
    replay.horizon (max time (replay.dueAt.getD 0)) interval = replay.horizon time interval := by
  unfold horizon
  omega

/-- A message moves the due time by an interval, if at all, and takes a frame. -/
theorem horizon_of_message {replay : Replay} {now timeout : Nat} {payload : List UInt8}
    (brings : (replay.poll now timeout).outcome = .message payload) {interval : Nat}
    (paced : ∀ chosen ∈ replay.interval, chosen = interval) {time : Nat}
    (early : now ≤ time) :
    replay.wake now timeout + interval ≤ replay.horizon time interval ∧
      (replay.poll now timeout).state.horizon time interval ≤ replay.horizon time interval := by
  have due : (replay.poll now timeout).state.dueAt.getD 0 ≤
      replay.wake now timeout + interval := by
    rw [dueAt_poll, brings]
    cases chosen : replay.interval with
    | none => exact Nat.zero_le _
    | some wait => exact Nat.le_of_eq (congrArg _ (paced wait chosen))
  have woken := replay.wake_le now timeout
  obtain ⟨oversized, front, frame, passes, _, front_eq, _⟩ := passes_poll_of_message brings
  have frames := congrArg List.length passes.frames
  rw [front_eq, List.length_append, List.length_cons, ← Nat.add_assoc, Nat.add_right_comm]
    at frames
  simp only [horizon, frames, Nat.add_mul, Nat.one_mul]
  generalize oversized.length * interval = passed
  generalize (replay.poll now timeout).state.frames.length * interval = left
  omega

/-- A poll without a message leaves the due time alone. -/
theorem horizon_of_no_message {replay : Replay} {now timeout : Nat}
    (none : (replay.poll now timeout).outcome.message? = none) (time interval : Nat) :
    (replay.poll now timeout).state.horizon time interval ≤ replay.horizon time interval := by
  have due : (replay.poll now timeout).state.dueAt = replay.dueAt := by
    rw [dueAt_poll]
    cases outcome : (replay.poll now timeout).outcome with
    | message payload =>
        rw [outcome] at none
        cases none
    | empty => rfl
    | closed => rfl
  obtain ⟨passed, passes⟩ := replay.passes_poll now timeout
  have frames := congrArg List.length passes.frames
  rw [List.length_append] at frames
  simp only [horizon, due, frames, Nat.add_mul]
  omega

/-- Whatever a poll brings, the horizon does not move away. -/
theorem horizon_poll_le {replay : Replay} {now timeout interval time : Nat}
    (paced : ∀ chosen ∈ replay.interval, chosen = interval) (early : now ≤ time) :
    (replay.poll now timeout).state.horizon time interval ≤ replay.horizon time interval := by
  cases outcome : (replay.poll now timeout).outcome with
  | message payload => exact (horizon_of_message outcome paced early).2
  | empty => exact horizon_of_no_message (by rw [outcome]; rfl) time interval
  | closed => exact horizon_of_no_message (by rw [outcome]; rfl) time interval

/-- A clock that goes on to the horizon shows the due time of the next message. -/
theorem inTime_of_horizon {replay : Replay} {now timeout time latest : Nat}
    (shown : ∀ interval, replay.interval = some interval → replay.horizon time interval ≤ latest)
    (early : now ≤ time) : replay.InTime latest now timeout := by
  intro payload interval brings paced
  have same : ∀ chosen ∈ replay.interval, chosen = interval := by simp [paced]
  exact Nat.le_trans (horizon_of_message brings same early).1 (shown interval paced)

/-- Polls that come early enough have due times that the clock can show. -/
theorem dueTimesFit_of_horizon (time : Nat) {latest : Nat} {waits : List (Nat × Nat)}
    {replay : Replay}
    (shown : ∀ interval, replay.interval = some interval → replay.horizon time interval ≤ latest)
    (early : ∀ wait ∈ waits, wait.1 ≤ time) : replay.DueTimesFit latest waits := by
  induction waits generalizing replay with
  | nil => exact trivial
  | cons wait waits ih =>
      rw [List.forall_mem_cons] at early
      refine ⟨inTime_of_horizon shown early.1, ih (fun interval paced => ?_) early.2⟩
      obtain ⟨passed, passes⟩ := replay.passes_poll wait.1 wait.2
      rw [passes.interval] at paced
      have same : ∀ chosen ∈ replay.interval, chosen = interval := by simp [paced]
      exact Nat.le_trans (horizon_poll_le same early.1) (shown interval paced)

end Replay

namespace ReplayClock

/-- The clock goes on for long enough to show the due times of all messages, even if no time is
saved in waits. -/
def HasTime (clock : ReplayClock) (latest : Nat) : Prop :=
  ∀ interval, clock.replay.interval = some interval →
    clock.replay.horizon clock.now interval + clock.delays.sum ≤ latest

theorem HasTime.of_unpaced {clock : ReplayClock} (unpaced : clock.replay.interval = none)
    (latest : Nat) : clock.HasTime latest := by
  intro interval paced
  rw [unpaced] at paced
  cases paced

theorem HasTime.inTime {clock : ReplayClock} {latest : Nat} (hasTime : clock.HasTime latest)
    (timeout : Nat) : clock.replay.InTime latest clock.now timeout :=
  Replay.inTime_of_horizon
    (fun interval paced => Nat.le_trans (Nat.le_add_right ..) (hasTime interval paced))
    (Nat.le_refl _)

/-- When a poll of a clock stops waiting. -/
def woken (clock : ReplayClock) (timeoutMs : Nat) : Nat :=
  if clock.replay.frames.isEmpty then clock.now
  else clock.replay.wake clock.now (timeoutMs * ticksPerMs)

/-- Waiting does not move the horizon away. -/
theorem horizon_woken_le (clock : ReplayClock) (timeoutMs : Nat) {interval : Nat}
    (paced : ∀ chosen ∈ clock.replay.interval, chosen = interval) :
    clock.woken timeoutMs ≤ clock.replay.horizon clock.now interval ∧
      (clock.poll timeoutMs).state.replay.horizon (clock.woken timeoutMs) interval ≤
        clock.replay.horizon clock.now interval := by
  let polled := clock.replay.poll clock.now (timeoutMs * ticksPerMs)
  let reached := max clock.now (clock.replay.dueAt.getD 0)
  have woken_le : clock.woken timeoutMs ≤ reached := by
    unfold woken
    split
    next => exact Nat.le_max_left ..
    next => exact clock.replay.wake_le ..
  constructor
  · exact Nat.le_trans woken_le (Nat.le_add_right ..)
  · calc polled.state.horizon (clock.woken timeoutMs) interval
        ≤ polled.state.horizon reached interval := polled.state.horizon_mono woken_le interval
      _ ≤ clock.replay.horizon reached interval :=
          Replay.horizon_poll_le paced (Nat.le_max_left ..)
      _ = clock.replay.horizon clock.now interval := clock.replay.horizon_waited ..

/-- A clock that goes on for long enough still does so after a poll. -/
theorem HasTime.poll {clock : ReplayClock} {latest : Nat} (hasTime : clock.HasTime latest)
    (timeoutMs : Nat) : (clock.poll timeoutMs).state.HasTime latest := by
  intro interval paced
  obtain ⟨passed, passes⟩ := clock.replay.passes_poll clock.now (timeoutMs * ticksPerMs)
  have paced : clock.replay.interval = some interval := passes.interval.symm.trans paced
  have same : ∀ chosen ∈ clock.replay.interval, chosen = interval := by simp [paced]
  obtain ⟨_, moved⟩ := clock.horizon_woken_le timeoutMs same
  let next := (clock.poll timeoutMs).state
  have delayed :=
    next.replay.horizon_wait_le (clock.woken timeoutMs) (clock.delays.headD 0) interval
  have delays : clock.delays.headD 0 + clock.delays.tail.sum = clock.delays.sum := by
    cases clock.delays <;> rfl
  have moved : next.replay.horizon (clock.woken timeoutMs) interval ≤
      clock.replay.horizon clock.now interval := moved
  calc next.replay.horizon (clock.woken timeoutMs + clock.delays.headD 0) interval +
        clock.delays.tail.sum
      ≤ clock.replay.horizon clock.now interval + clock.delays.sum := by omega
    _ ≤ latest := hasTime interval paced

end ReplayClock

end HitMonitor
