import HitMonitor.Capture.Replay
import HitMonitor.Proofs.Monitor.Polls

/-!
# What a replay hands over

Each poll of a replay passes a run of frames from the front of those that are left.  The frames that
are short enough are handed over and the others are counted, so both follow from the frames that
were passed, in whatever portions the polls have passed them.
-/

namespace HitMonitor

namespace Replay

/-- A replay has passed some frames and handed over the payloads of those that are short enough. -/
structure Passes (before : Replay) (passed : List Frame) (delivered : List (List UInt8))
    (after : Replay) : Prop where
  frames : before.frames = passed ++ after.frames
  cursor : after.cursor = before.cursor + passed.length
  longestMessage : after.longestMessage = before.longestMessage
  interval : after.interval = before.interval
  skipped : after.skipped = before.skipped +
    passed.countP fun frame => before.longestMessage < frame.length
  delivered : delivered = (passed.filter fun frame =>
    frame.length ≤ before.longestMessage).map Frame.payload

namespace Passes

theorem refl (replay : Replay) : replay.Passes [] [] replay where
  frames := rfl
  cursor := rfl
  longestMessage := rfl
  interval := rfl
  skipped := rfl
  delivered := rfl

theorem trans {first second third : Replay} {passed more : List Frame}
    {delivered later : List (List UInt8)} (left : first.Passes passed delivered second)
    (right : second.Passes more later third) :
    first.Passes (passed ++ more) (delivered ++ later) third where
  frames := by rw [left.frames, right.frames, List.append_assoc]
  cursor := by rw [right.cursor, left.cursor, List.length_append, Nat.add_assoc]
  longestMessage := right.longestMessage.trans left.longestMessage
  interval := right.interval.trans left.interval
  skipped := by
    rw [right.skipped, left.skipped, left.longestMessage, List.countP_append, Nat.add_assoc]
  delivered := by
    rw [right.delivered, left.delivered, left.longestMessage, List.filter_append, List.map_append]

end Passes

/-- Frames that are all too long are passed over. -/
theorem passes_oversized (replay : Replay) {oversized kept : List Frame}
    (frames_eq : replay.frames = oversized ++ kept)
    (long : ∀ frame ∈ oversized, replay.longestMessage < frame.length) :
    replay.Passes oversized []
      { replay with
        frames := kept
        cursor := replay.cursor + oversized.length
        skipped := replay.skipped + oversized.length } where
  frames := frames_eq
  cursor := rfl
  longestMessage := rfl
  interval := rfl
  skipped := by
    rw [List.countP_eq_length.mpr fun frame member => decide_eq_true (long frame member)]
  delivered := by
    rw [List.filter_eq_nil_iff.mpr, List.map_nil]
    intro frame member
    simpa using long frame member

/-- A frame in front that is short enough is handed over. -/
theorem passes_front (replay : Replay) {frame : Frame} {rest : List Frame}
    (frames_eq : replay.frames = frame :: rest) (short : frame.length ≤ replay.longestMessage)
    (dueAt : Option Nat) :
    replay.Passes [frame] [frame.payload]
      { replay with frames := rest, cursor := replay.cursor + 1, dueAt := dueAt } where
  frames := frames_eq
  cursor := rfl
  longestMessage := rfl
  interval := rfl
  skipped := by simp [short]
  delivered := by simp [short]

/-- The frames that are skipped are those in front of the first one that is short enough. -/
theorem skipOversized_eq (limit : Nat) (frames : List Frame) (cursor : Nat)
    (notices : List Notice) :
    let oversized := frames.takeWhile fun frame => limit < frame.length
    let (kept, next, noted) := skipOversized limit frames cursor notices
    kept = (frames.dropWhile fun frame => limit < frame.length) ∧
      next = cursor + oversized.length ∧ noted.length = notices.length + oversized.length := by
  induction frames generalizing cursor notices with
  | nil => simp [skipOversized]
  | cons frame rest ih =>
      by_cases oversized : limit < frame.length
      · obtain ⟨kept_eq, next_eq, noted_eq⟩ := ih (cursor + 1)
          (.oversized cursor frame.length limit :: notices)
        simp only [skipOversized, oversized, if_true, decide_true, List.takeWhile_cons,
          List.dropWhile_cons, List.length_cons]
        refine ⟨kept_eq, ?_, ?_⟩
        · rw [next_eq, Nat.add_assoc, Nat.add_comm 1]
        · rw [noted_eq, List.length_cons, Nat.add_assoc, Nat.add_comm 1]
      · simp [skipOversized, oversized]

/-- What is skipped in front of a message is passed, and the message itself is short enough. -/
theorem passes_skipOversized (replay : Replay) :
    let (kept, next, noted) :=
      skipOversized replay.longestMessage replay.frames replay.cursor []
    ∃ oversized,
      replay.Passes oversized []
        { replay with
          frames := kept
          cursor := next
          skipped := replay.skipped + noted.length } ∧
      ∀ frame rest, kept = frame :: rest → frame.length ≤ replay.longestMessage := by
  obtain ⟨kept_eq, next_eq, noted_eq⟩ :=
    skipOversized_eq replay.longestMessage replay.frames replay.cursor []
  let isLong := fun frame : Frame => decide (replay.longestMessage < frame.length)
  have parts : replay.frames =
      replay.frames.takeWhile isLong ++ replay.frames.dropWhile isLong :=
    List.takeWhile_append_dropWhile.symm
  have long : ∀ frame ∈ replay.frames.takeWhile isLong,
      replay.longestMessage < frame.length := by
    intro frame member
    exact of_decide_eq_true (List.all_eq_true.mp List.all_takeWhile frame member)
  refine ⟨replay.frames.takeWhile isLong, ?_, ?_⟩
  · rw [kept_eq, next_eq, noted_eq, List.length_nil, Nat.zero_add]
    exact replay.passes_oversized parts long
  · intro frame rest found
    have head := List.head?_dropWhile_not isLong replay.frames
    rw [show replay.frames.dropWhile isLong = frame :: rest from kept_eq.symm.trans found] at head
    simpa [isLong] using head

/-- A poll passes some frames, and hands over at most one of them. -/
theorem passes_poll (replay : Replay) (now timeout : Nat) :
    ∃ passed, replay.Passes passed (replay.poll now timeout).outcome.message?.toList
      (replay.poll now timeout).state := by
  unfold poll
  split
  next => exact ⟨[], .refl replay⟩
  next =>
    split
    next => exact ⟨[], .refl replay⟩
    next =>
      obtain ⟨oversized, passes, short⟩ := replay.passes_skipOversized
      generalize skipOversized replay.longestMessage replay.frames replay.cursor [] = skip
        at passes short ⊢
      obtain ⟨kept, next, noted⟩ := skip
      cases kept with
      | nil => exact ⟨oversized, passes⟩
      | cons frame rest =>
          refine ⟨oversized ++ [frame], passes.trans ?_⟩
          exact passes_front { replay with
            frames := frame :: rest
            cursor := next
            skipped := replay.skipped + noted.length } rfl (short frame rest rfl) _

/-- A poll that brings a message hands over the first frame that is short enough. -/
theorem passes_poll_of_message {replay : Replay} {now timeout : Nat} {payload : List UInt8}
    (brings : (replay.poll now timeout).outcome = .message payload) :
    ∃ oversized front frame, replay.Passes oversized [] front ∧
      front.Passes [frame] [payload] (replay.poll now timeout).state ∧
      front.frames = frame :: (replay.poll now timeout).state.frames ∧
      frame.length ≤ replay.longestMessage := by
  unfold poll at brings ⊢
  split at brings
  next => cases brings
  next notEmpty =>
    split at brings
    next => cases brings
    next isDue =>
      simp only [notEmpty, isDue] at brings ⊢
      obtain ⟨oversized, passes, short⟩ := replay.passes_skipOversized
      generalize skipOversized replay.longestMessage replay.frames replay.cursor [] = skip
        at passes short brings ⊢
      obtain ⟨kept, next, noted⟩ := skip
      cases kept with
      | nil => cases brings
      | cons frame rest =>
          cases brings
          have fits := short frame rest rfl
          exact ⟨oversized, _, frame, passes, passes_front { replay with
            frames := frame :: rest
            cursor := next
            skipped := replay.skipped + noted.length } rfl fits _, rfl, fits⟩

/-- A replay closes only when no frame is left. -/
theorem frames_of_closed {replay : Replay} {now timeout : Nat}
    (closed : (replay.poll now timeout).outcome = .closed) :
    (replay.poll now timeout).state.frames = [] := by
  unfold poll at closed ⊢
  split at closed
  next isEmpty =>
    rw [if_pos isEmpty]
    exact List.isEmpty_iff.mp isEmpty
  next notEmpty =>
    split at closed
    next => cases closed
    next isDue =>
      simp only [notEmpty, isDue] at closed ⊢
      generalize skipOversized replay.longestMessage replay.frames replay.cursor [] = skip
        at closed ⊢
      obtain ⟨kept, next, noted⟩ := skip
      cases kept with
      | nil => rfl
      | cons frame rest => cases closed

/-! ## Poll after poll -/

/-- Polls one after the other, each at a time of its own and with a wait of its own.  Nothing is
asked of the times, so they stand for any pattern of polls that are due and polls that are not. -/
def pollEach (replay : Replay) : (waits : List (Nat × Nat)) → List Poll × Replay
  | [] => ([], replay)
  | (now, timeout) :: waits =>
      let polled := replay.poll now timeout
      let (outcomes, last) := polled.state.pollEach waits
      (polled.outcome :: outcomes, last)

theorem passes_pollEach (replay : Replay) (waits : List (Nat × Nat)) :
    ∃ passed, replay.Passes passed ((replay.pollEach waits).1.filterMap Poll.message?)
      (replay.pollEach waits).2 := by
  induction waits generalizing replay with
  | nil => exact ⟨[], .refl replay⟩
  | cons wait waits ih =>
      obtain ⟨now, timeout⟩ := wait
      obtain ⟨passed, passes⟩ := replay.passes_poll now timeout
      obtain ⟨more, later⟩ := ih (replay.poll now timeout).state
      refine ⟨passed ++ more, ?_⟩
      rw [pollEach, Poll.filterMap_message?_cons]
      exact passes.trans later

/-- A replay without a frame left stays as it is. -/
theorem pollEach_of_frames_nil {replay : Replay} (exhausted : replay.frames = [])
    (waits : List (Nat × Nat)) :
    replay.pollEach waits = (List.replicate waits.length .closed, replay) := by
  induction waits with
  | nil => rfl
  | cons wait waits ih =>
      have polled : replay.poll wait.1 wait.2 = { outcome := .closed, state := replay } := by
        simp [poll, exhausted]
      simp only [pollEach, polled, ih]
      rfl

theorem frames_pollEach_of_closed {replay : Replay} {waits : List (Nat × Nat)}
    (closed : .closed ∈ (replay.pollEach waits).1) : (replay.pollEach waits).2.frames = [] := by
  induction waits generalizing replay with
  | nil => cases closed
  | cons wait waits ih =>
      rcases List.mem_cons.mp closed with here | later
      · have exhausted : (replay.poll wait.1 wait.2).state.frames = [] :=
          frames_of_closed here.symm
        simp only [pollEach, pollEach_of_frames_nil exhausted, exhausted]
      · exact ih later

end Replay

end HitMonitor
