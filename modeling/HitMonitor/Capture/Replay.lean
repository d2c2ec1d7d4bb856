import HitMonitor.Capture.File
import HitMonitor.Monitor.Source

/-!
# Capture replay

A replay hands over the frames of a capture as messages.  Frames longer than a limit are passed over
and counted.  With an interval, a message is due only an interval after the one before it; a poll
waits for that at most as long as its timeout.

The clock is not part of a replay: a poll is told the time.  A clock that ends somewhere cannot show
every due time; `Replay.pollInTime` is the poll under such a clock, which may break off.
`ReplayClock` is a clock that the waits of the polls move, and whatever else takes time between
them.
-/

namespace HitMonitor

/-- The frames of a capture that are still to be handed over. -/
structure Replay where
  frames : List Frame
  /-- Frames handed over or passed over so far. -/
  cursor : Nat
  /-- The longest frame that is handed over. -/
  longestMessage : Nat
  /-- The least time between two messages. -/
  interval : Option Nat
  /-- When the next message is due. -/
  dueAt : Option Nat
  /-- Frames passed over because of their length. -/
  skipped : Nat
  deriving DecidableEq, Repr

namespace Replay

/-- Replay some frames without a limit or an interval. -/
def ofFrames (frames : List Frame) : Replay where
  frames := frames
  cursor := 0
  longestMessage := word64Max
  interval := none
  dueAt := none
  skipped := 0

/-- Replay a capture.  Bytes after its last complete frame are mentioned and left out. -/
def ofCapture (capture : Capture) : Replay × List Notice :=
  let content := capture.content
  (ofFrames content.frames,
    if content.endsInsideFrame then
      [.trailing capture.path content.trailing content.frames.length]
    else [])

def limitedTo (replay : Replay) (bytes : Nat) : Replay :=
  { replay with longestMessage := bytes }

/-- Hand over at most one message per interval.  An interval of zero is none. -/
def pacedBy (replay : Replay) (interval : Nat) : Replay :=
  { replay with interval := if interval = 0 then none else some interval }

/-- Frames neither handed over nor passed over. -/
def remaining (replay : Replay) : Nat := replay.frames.length

/-- Whether a message may be handed over by a poll that starts at `now` and waits for `timeout`. -/
def isDue (replay : Replay) (now timeout : Nat) : Bool :=
  match replay.dueAt with
  | none => true
  | some due => due ≤ now + timeout

/-- When a poll that starts at `now` stops waiting.  A wait in vain takes at least one tick. -/
def wake (replay : Replay) (now timeout : Nat) : Nat :=
  match replay.dueAt with
  | none => now
  | some due => if due ≤ now then now else min due (now + max timeout 1)

/-- Pass over the frames that are too long, with a notice for each. -/
def skipOversized (limit : Nat) : (frames : List Frame) → (cursor : Nat) → (notices : List Notice) →
    List Frame × Nat × List Notice
  | [], cursor, notices => ([], cursor, notices.reverse)
  | frame :: rest, cursor, notices =>
      if limit < frame.length then
        skipOversized limit rest (cursor + 1) (.oversized cursor frame.length limit :: notices)
      else (frame :: rest, cursor, notices.reverse)

theorem length_skipOversized_le (limit : Nat) (frames : List Frame) (cursor : Nat)
    (notices : List Notice) :
    (skipOversized limit frames cursor notices).1.length ≤ frames.length := by
  induction frames generalizing cursor notices with
  | nil => simp [skipOversized]
  | cons frame rest ih =>
    unfold skipOversized
    split
    · exact Nat.le_succ_of_le (ih ..)
    · simp

/-- Poll for the next message at a time. -/
def poll (replay : Replay) (now timeout : Nat) : Polled Replay :=
  if replay.frames.isEmpty then
    { outcome := .closed, state := replay }
  else if ¬ replay.isDue now timeout then
    { outcome := .empty, state := replay }
  else
    let (frames, cursor, notices) :=
      skipOversized replay.longestMessage replay.frames replay.cursor []
    let skipped := replay.skipped + notices.length
    match frames with
    | [] =>
        { outcome := .closed
          state := { replay with frames := [], cursor := cursor, skipped := skipped }
          notices := notices }
    | frame :: rest =>
        { outcome := .message frame.payload
          state :=
            { replay with
              frames := rest
              cursor := cursor + 1
              skipped := skipped
              dueAt := replay.interval.map (replay.wake now timeout + ·) }
          notices := notices ++ [.replaying cursor frame.length] }

/-- Poll under a clock that shows no time behind `latest`.  The due time is worked out when the
frame has been taken: where the clock cannot show it, the poll breaks off, and the replay is left
without the frame. -/
def pollInTime (replay : Replay) (latest now timeout : Nat) : Except Replay (Polled Replay) :=
  let polled := replay.poll now timeout
  match polled.outcome, polled.state.dueAt with
  | .message _, some due =>
      if due ≤ latest then .ok polled else .error { polled.state with dueAt := replay.dueAt }
  | _, _ => .ok polled

end Replay

/-- A replay with a clock. -/
structure ReplayClock where
  replay : Replay
  now : Nat
  /-- The stop signal is raised once the clock has passed this time. -/
  limit : Option Nat
  /-- The times that pass behind the next polls.  No time passes behind later ones. -/
  delays : List Nat := []
  deriving DecidableEq, Repr

namespace ReplayClock

/-- Whether a time is past the limit. -/
def isPast (limit : Option Nat) (time : Nat) : Bool :=
  match limit with
  | none => false
  | some limit => limit < time

/-- Ticks of the clock in a millisecond. -/
def ticksPerMs : Nat := 1000000

/-- The latest time of a clock that counts the seconds in a signed word of 64 bits, and the ticks
below a second beside them. -/
def latest : Nat :=
  let ticksPerSecond := 1000 * ticksPerMs
  word64Max / 2 * ticksPerSecond + (ticksPerSecond - 1)

/-- Poll at the time of the clock and move the clock by the wait and by what passes behind it. -/
def poll (timeoutMs : Nat) (clock : ReplayClock) : Polled ReplayClock :=
  let timeout := timeoutMs * ticksPerMs
  let polled := clock.replay.poll clock.now timeout
  let woken :=
    if clock.replay.frames.isEmpty then clock.now else clock.replay.wake clock.now timeout
  let now := woken + clock.delays.headD 0
  { outcome := polled.outcome
    state := { clock with replay := polled.state, now := now, delays := clock.delays.tail }
    requestsStop := isPast clock.limit now
    notices := polled.notices }

/-- Each frame left takes at most a message and the waits of one interval, and the first may have to
wait for its time. -/
def pending (clock : ReplayClock) : Nat :=
  clock.replay.frames.length * (clock.replay.interval.getD 0 + 1) +
    (clock.replay.dueAt.getD 0 - clock.now)

theorem pending_poll_lt (timeoutMs : Nat) (clock : ReplayClock)
    (isOpen : (clock.poll timeoutMs).outcome ≠ .closed) :
    (clock.poll timeoutMs).state.pending < clock.pending := by
  obtain ⟨replay, now, limit, delays⟩ := clock
  simp only [poll, Replay.poll] at isOpen ⊢
  by_cases isEmpty : replay.frames.isEmpty
  · simp [isEmpty] at isOpen
  · simp only [isEmpty, Bool.false_eq_true, if_false] at isOpen ⊢
    by_cases isDue : replay.isDue now (timeoutMs * ticksPerMs)
    · simp only [isDue, not_true_eq_false, if_false] at isOpen ⊢
      have shorter := Replay.length_skipOversized_le replay.longestMessage replay.frames
        replay.cursor []
      rcases skipped : Replay.skipOversized replay.longestMessage replay.frames replay.cursor []
        with ⟨frames, cursor, notices⟩
      rw [skipped] at shorter
      simp only [skipped] at isOpen ⊢
      cases frames with
      | nil => simp at isOpen
      | cons frame rest =>
        simp only [List.length_cons] at shorter
        simp only [pending]
        have fewer : (rest.length + 1) * (replay.interval.getD 0 + 1) ≤
            replay.frames.length * (replay.interval.getD 0 + 1) :=
          Nat.mul_le_mul_right _ shorter
        cases interval : replay.interval with
        | none => simp_all; omega
        | some interval => simp_all [Nat.add_mul]; omega
    · simp only [isDue, Bool.false_eq_true, not_false_eq_true, if_true]
      simp only [pending]
      unfold Replay.isDue at isDue
      unfold Replay.wake
      split at isDue
      · simp at isDue
      · rename_i due dueEq
        simp only [decide_eq_true_eq] at isDue
        simp only [dueEq, Option.getD_some]
        split <;> omega

/-- A replay as a source that a run can drive. -/
def source : Source ReplayClock where
  poll := poll
  pending := pending
  pending_lt := pending_poll_lt

end ReplayClock

end HitMonitor
