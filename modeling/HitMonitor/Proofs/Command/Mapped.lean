import HitMonitor.Command.Mapped
import HitMonitor.Proofs.Capture.Sources
import HitMonitor.Proofs.Snapshot.Files

/-!
# Replays that nothing breaks off

A window closes only when enough messages have been read, so the window that is written next is
known from the frames that are left.  If none of the files that are written while frames are left is
the capture itself, the file holds at each poll what it held when it was mapped; and if the clock
goes on for long enough, it shows each due time.  Then a replay over the mapped file is one over a
copy of it.
-/

namespace HitMonitor

variable {Fed Sunk : Type}

/-! ## Runs from poll to poll -/

namespace RunState

variable {source : Source Fed} {sink : Sink Sunk} {check : RunState Fed Sunk → Option ReplayFault}

/-- A run ends as it does from the state behind the next poll. -/
theorem loop_of_next? {state next : RunState Fed Sunk}
    (moves : state.next? source sink = some next) :
    state.loop source sink = next.loop source sink := by
  obtain ⟨down, goesOn⟩ := next?_cases moves
  fun_cases state.loop source sink with
  | case1 raised =>
      rw [raised] at down
      cases down
  | case2 _ polled payload outcome =>
      obtain ⟨other, found, rfl⟩ | ⟨found, _⟩ := goesOn
      · cases outcome.symm.trans found
        rfl
      · cases outcome.symm.trans found
  | case3 _ polled outcome =>
      obtain ⟨_, found, _⟩ | ⟨_, rfl⟩ := goesOn
      · cases outcome.symm.trans found
      · rfl
  | case4 _ polled outcome =>
      obtain ⟨_, found, _⟩ | ⟨found, _⟩ := goesOn
      · cases outcome.symm.trans found
      · cases outcome.symm.trans found

/-- A fault is that of a state which the run comes to. -/
theorem exists_of_fault? {state : RunState Fed Sunk} {fault : ReplayFault}
    (found : state.fault? source sink check = some fault) :
    ∃ reached : RunState Fed Sunk, reached.stopRequested = false ∧ check reached = some fault ∧
      reached.loop source sink = state.loop source sink := by
  fun_induction state.fault? source sink check with
  | case1 => cases found
  | case2 state down fault checked =>
      exact ⟨state, by simpa using down, checked.trans found, rfl⟩
  | case3 state _ _ next moves ih =>
      obtain ⟨reached, down, checked, ends⟩ := ih found
      exact ⟨reached, down, checked, ends.trans (loop_of_next? moves).symm⟩
  | case4 => cases found

/-- A run has no fault if there is something that rules one out and that every poll keeps. -/
theorem fault?_eq_none (Keeps : RunState Fed Sunk → Prop)
    (quiet : ∀ state, Keeps state → check state = none)
    (step : ∀ state next, Keeps state → state.next? source sink = some next → Keeps next)
    {state : RunState Fed Sunk} (start : Keeps state) : state.fault? source sink check = none := by
  fun_induction state.fault? source sink check with
  | case1 => rfl
  | case2 state _ fault found =>
      rw [quiet state start] at found
      cases found
  | case3 state _ _ next moves ih => exact ih (step state next start moves)
  | case4 => rfl

end RunState

/-! ## Windows that close -/

namespace WindowCycle

/-- The messages of all windows so far, where every closed window is complete. -/
def progress (cycle : WindowCycle) : Nat :=
  cycle.window * cycle.settings.period + (cycle.settings.period - cycle.countdown)

/-- A cycle that waits for some messages more, and for no more than a window has. -/
structure Waits (cycle : WindowCycle) : Prop where
  pos : 0 < cycle.countdown
  le : cycle.countdown ≤ cycle.settings.period

/-- A message either stays in its window or closes it, and then the progress tells which window the
sink gets. -/
theorem Waits.receive {cycle : WindowCycle} (waits : cycle.Waits) (sink : Sink Sunk)
    (payload : List UInt8) (sunk : Sunk) :
    let stepped := cycle.receive sink payload sunk
    stepped.cycle.settings = cycle.settings ∧ stepped.cycle.Waits ∧
      stepped.cycle.progress = cycle.progress + 1 ∧
      (stepped.sink = sunk ∨ ∃ snapshot, stepped.sink = (sink snapshot sunk).state ∧
        (snapshot.window + 1) * cycle.settings.period = cycle.progress + 1) := by
  have pos := waits.pos
  have le := waits.le
  have stepped := Session.step_message { cycle := cycle, sink := sunk } payload sink
  have cycle_eq := congrArg Session.cycle stepped
  have sink_eq := congrArg Session.sink stepped
  change (cycle.receive sink payload sunk).cycle = _ at cycle_eq
  change (cycle.receive sink payload sunk).sink = _ at sink_eq
  intro next
  have countdown : (cycle.count payload).2.1.countdown = cycle.countdown - 1 := rfl
  by_cases closes : cycle.countdown - 1 = 0
  · simp only [countdown, closes, if_true] at cycle_eq sink_eq
    have full : (cycle.window + 1) * cycle.settings.period = cycle.progress + 1 := by
      rw [progress, Nat.add_mul]
      omega
    refine ⟨by rw [cycle_eq]; rfl, ?_, ?_, .inr ⟨_, sink_eq, full⟩⟩
    · rw [cycle_eq]
      exact ⟨Nat.lt_of_lt_of_le pos le, Nat.le_refl _⟩
    · rw [← full, cycle_eq]
      change (cycle.window + 1) * cycle.settings.period +
        (cycle.settings.period - cycle.settings.period) = _
      omega
  · simp only [countdown, closes, if_false] at cycle_eq sink_eq
    refine ⟨by rw [cycle_eq]; rfl, ?_, ?_, .inl sink_eq⟩
    · rw [cycle_eq]
      exact ⟨Nat.pos_of_ne_zero closes, Nat.le_trans (Nat.sub_le ..) le⟩
    · rw [cycle_eq]
      change cycle.window * cycle.settings.period +
        (cycle.settings.period - (cycle.countdown - 1)) = _
      rw [progress]
      omega

end WindowCycle

/-! ## Reading behind writes -/

/-- A poll leaves no more frames than there were, and fewer if it brings one. -/
theorem Replay.remaining_poll (replay : Replay) (now timeout : Nat) :
    (replay.poll now timeout).state.remaining ≤ replay.remaining ∧
      ∀ payload, (replay.poll now timeout).outcome = .message payload →
        (replay.poll now timeout).state.remaining + 1 ≤ replay.remaining := by
  constructor
  · obtain ⟨passed, passes⟩ := replay.passes_poll now timeout
    have length_eq := congrArg List.length passes.frames
    rw [List.length_append] at length_eq
    unfold remaining
    omega
  · intro payload brings
    obtain ⟨oversized, front, frame, passes, _, front_eq, _⟩ := passes_poll_of_message brings
    have length_eq := congrArg List.length passes.frames
    rw [front_eq, List.length_append, List.length_cons] at length_eq
    unfold remaining
    omega

/-- How far a replay over a mapped file has come without a fault.  As long as a frame is left, the
sink has spared the file. -/
structure ReplayRequest.Reads (settings : MonitorSettings) (frames latest : Nat)
    (Spared : Sunk → Prop) (state : RunState ReplayClock Sunk) : Prop where
  settings_eq : state.cycle.settings = settings
  waits : state.cycle.Waits
  progress : state.cycle.progress + state.source.replay.remaining ≤ frames
  hasTime : state.source.HasTime latest
  spared : state.source.replay.remaining = 0 ∨ Spared state.sink

namespace ReplayRequest

variable {settings : MonitorSettings} {frames latest : Nat} {Spared : Sunk → Prop}
  {state : RunState ReplayClock Sunk}

/-- A sink that keeps the file as it is for all windows that close before the last frame. -/
def SparesFile (settings : MonitorSettings) (frames : Nat) (Spared : Sunk → Prop)
    (sink : Sink Sunk) : Prop :=
  ∀ snapshot sunk, (snapshot.window + 1) * settings.period < frames → Spared sunk →
    Spared (sink snapshot sunk).state

/-- Nothing is wrong with the next poll. -/
theorem Reads.pollFault?_eq_none (reads : Reads settings frames latest Spared state)
    {capture : Capture} {treeOf : Sunk → FileTree}
    (unchanged : ∀ sunk, Spared sunk → capture.isUnchanged (treeOf sunk) = true) :
    pollFault? latest capture treeOf state = none := by
  let timeout := state.cycle.settings.pollWaitMs * ReplayClock.ticksPerMs
  have polled := Replay.pollInTime_eq_ok_iff.mpr ⟨reads.hasTime.inTime timeout, rfl⟩
  unfold pollFault?
  simp only [timeout] at polled
  simp only [polled]
  split
  next payload brings =>
    have fewer := (state.source.replay.remaining_poll state.source.now timeout).2 payload brings
    have some_left : state.source.replay.remaining ≠ 0 := by omega
    rw [if_pos (unchanged _ (reads.spared.resolve_left some_left))]
  next => rfl
  next => rfl

/-- A message that is read and counted leaves the file to those behind it. -/
theorem Reads.message (reads : Reads settings frames latest Spared state) {sink : Sink Sunk}
    (spares : SparesFile settings frames Spared sink) {payload : List UInt8} :
    let polled := ReplayClock.source.poll state.cycle.settings.pollWaitMs state.source
    polled.outcome = .message payload →
    Reads settings frames latest Spared ((state.afterPoll polled).receive sink payload) := by
  intro polled brings
  obtain ⟨settings_eq, waits, progress, sunk⟩ := reads.waits.receive sink payload state.sink
  have fewer : polled.state.replay.remaining + 1 ≤ state.source.replay.remaining :=
    (state.source.replay.remaining_poll _ _).2 payload brings
  have total := reads.progress
  have spared := reads.spared.resolve_left (by omega)
  constructor
  case settings_eq => exact settings_eq.trans reads.settings_eq
  case waits => exact waits
  case progress =>
    change (state.cycle.receive sink payload state.sink).cycle.progress +
      polled.state.replay.remaining ≤ frames
    omega
  case hasTime => exact reads.hasTime.poll _
  case spared =>
    change polled.state.replay.remaining = 0 ∨
      Spared (state.cycle.receive sink payload state.sink).sink
    rcases sunk with same | ⟨snapshot, handed, full⟩
    · right
      rw [same]
      exact spared
    · -- The window that closes here is one behind which a frame is left, or nothing is read again.
      rcases Nat.eq_zero_or_pos polled.state.replay.remaining with last | left
      · exact .inl last
      · right
        rw [handed]
        rw [reads.settings_eq] at full
        exact spares snapshot state.sink (by omega) spared

/-- A poll in vain changes nothing but the counters and the clock. -/
theorem Reads.empty (reads : Reads settings frames latest Spared state) :
    let polled := ReplayClock.source.poll state.cycle.settings.pollWaitMs state.source
    Reads settings frames latest Spared (state.afterPoll polled).countEmpty := by
  intro polled
  have fewer : polled.state.replay.remaining ≤ state.source.replay.remaining :=
    (state.source.replay.remaining_poll _ _).1
  have total := reads.progress
  constructor
  case settings_eq => exact reads.settings_eq
  case waits => exact ⟨reads.waits.pos, reads.waits.le⟩
  case progress =>
    change state.cycle.progress + polled.state.replay.remaining ≤ frames
    omega
  case hasTime => exact reads.hasTime.poll _
  case spared =>
    rcases reads.spared with last | spared
    · exact .inl (Nat.le_zero.mp (last ▸ fewer))
    · exact .inr spared

theorem Reads.next (reads : Reads settings frames latest Spared state) {sink : Sink Sunk}
    (spares : SparesFile settings frames Spared sink) {next : RunState ReplayClock Sunk}
    (moves : state.next? ReplayClock.source sink = some next) :
    Reads settings frames latest Spared next := by
  obtain ⟨_, ⟨payload, outcome, rfl⟩ | ⟨_, rfl⟩⟩ := RunState.next?_cases moves
  · exact reads.message spares outcome
  · exact reads.empty

/-- A replay breaks off nowhere if its sink spares the file and its clock goes on for long
enough. -/
theorem faultInto?_eq_none (Spared : Sunk → Prop) (valid : settings.validate = .ok ())
    {request : ReplayRequest} {timing : ReplayTiming} {capture : Capture} {sink : Sink Sunk}
    {sunk : Sunk} {treeOf : Sunk → FileTree}
    (hasTime : (request.clock timing (request.replayOf settings capture)).HasTime latest)
    (unchanged : ∀ sunk, Spared sunk → capture.isUnchanged (treeOf sunk) = true)
    (spares : SparesFile settings capture.content.frames.length Spared sink)
    (spared : Spared sunk) :
    request.faultInto? timing latest sink sunk treeOf settings capture = none := by
  have accepted := WindowCycle.new_eq_ok_iff.mpr ⟨valid, rfl⟩
  have period_pos := (MonitorSettings.validate_eq_ok_iff.mp valid).1
  unfold faultInto?
  simp only [accepted]
  refine RunState.fault?_eq_none (Reads settings capture.content.frames.length latest Spared)
    (fun _ reads => reads.pollFault?_eq_none unchanged) (fun _ _ reads => reads.next spares) ?_
  constructor
  case settings_eq => rfl
  case waits => exact ⟨period_pos, Nat.le_refl _⟩
  case progress =>
    change 0 * settings.period + (settings.period - settings.period) +
      capture.content.frames.length ≤ capture.content.frames.length
    omega
  case hasTime => exact hasTime
  case spared => exact .inr spared

end ReplayRequest

/-! ## Files that are written -/

theorem Capture.isUnchanged_iff {capture : Capture} {tree : FileTree} :
    capture.isUnchanged tree = true ↔ tree.readBytes capture.path = .ok capture.bytes := by
  unfold isUnchanged
  cases tree.readBytes capture.path with
  | ok bytes => simp
  | error fault => simp

theorem Capture.isUnchanged_of_read {capture : Capture} {before after : FileTree}
    (kept : ∀ content, before.read capture.path = .ok content →
      after.read capture.path = .ok content)
    (unchanged : capture.isUnchanged before = true) : capture.isUnchanged after = true := by
  rw [isUnchanged_iff, FileTree.readBytes, map_eq_ok_iff] at unchanged ⊢
  obtain ⟨content, read_eq, bytes_eq⟩ := unchanged
  exact ⟨content, kept content read_eq, bytes_eq⟩

namespace SnapshotFolder

/-- A folder in which the files of the first windows are not the capture, which is as it was. -/
structure Spares (folder : SnapshotFolder) (capture : Capture) (period : Nat) : Prop where
  apart : ∀ window, (window + 1) * period < capture.content.frames.length →
    folder.tree.Apart capture.path (folder.writer.filePath window)
  unchanged : capture.isUnchanged folder.tree = true

/-- What a snapshot that could be written has done to the files. -/
theorem exists_write_of_write {folder next : SnapshotFolder} {snapshot : Snapshot} {path : String}
    (done : folder.write snapshot = .ok (path, next)) :
    ∃ content tree, folder.tree.write (folder.writer.filePath snapshot.window) content = .ok tree ∧
      next = ⟨{ folder.writer with written := folder.writer.written ++ [path] }, tree⟩ := by
  simp only [write, bind_eq_ok_iff, mapError_eq_ok_iff, pure_eq_ok, Except.ok.injEq,
    Prod.mk.injEq] at done
  obtain ⟨content, _, tree, written, rfl, rfl⟩ := done
  exact ⟨content, tree, written, rfl⟩

/-- Writing such a window spares the capture, whether or not it succeeds. -/
theorem Spares.sink {folder : SnapshotFolder} {capture : Capture} {period : Nat}
    (spares : folder.Spares capture period) {snapshot : Snapshot}
    (early : (snapshot.window + 1) * period < capture.content.frames.length) :
    (SnapshotFolder.sink snapshot folder).state.Spares capture period := by
  unfold SnapshotFolder.sink
  cases done : folder.write snapshot with
  | error error => exact spares
  | ok result =>
      obtain ⟨path, next⟩ := result
      obtain ⟨content, tree, written, rfl⟩ := exists_write_of_write done
      exact
        { apart := fun window before => (spares.apart window before).of_write written
          unchanged := Capture.isUnchanged_of_read (fun _ read_eq =>
            FileTree.read_of_write_apart (spares.apart _ early) read_eq written)
            spares.unchanged }

end SnapshotFolder

/-- A new writer puts its files into its directory and has made nothing but directories. -/
theorem SnapshotWriter.of_create {format : SnapshotFormat} {directory : String} {tree : FileTree}
    {folder : SnapshotFolder}
    (created : SnapshotWriter.create format directory tree = .ok folder) :
    folder.writer = ⟨format, directory, standardStem, []⟩ ∧
      tree.GainsDirectories folder.tree := by
  simp only [create, bind_eq_ok_iff, pure_eq_ok, Except.ok.injEq] at created
  obtain ⟨_, _, rfl⟩ := created
  exact ⟨rfl, .createDirectories tree directory⟩

/-! ## Undisturbed replays -/

namespace ReplayRequest

/-- What a replay over a mapped file relies on, once it has opened its capture. -/
structure Undisturbed (request : ReplayRequest) (timing : ReplayTiming) (latest : Nat)
    (tree : FileTree) : Prop where
  /-- The clock goes on for long enough. -/
  hasTime : ∀ settings capture, request.prepare tree = .ok (settings, capture) →
    (request.clock timing (request.replayOf settings capture)).HasTime latest
  /-- No window that closes while frames are left has the file of the capture as its own. -/
  apart : ∀ settings capture format folder, request.prepare tree = .ok (settings, capture) →
    request.snapshotFormat = some format →
    SnapshotWriter.create format request.outputDirectory tree = .ok folder →
    ∀ window, (window + 1) * settings.period < capture.content.frames.length →
      folder.tree.Apart capture.path (folder.writer.filePath window)

/-- What has been prepared is valid and holds what the file holds. -/
theorem of_prepare {request : ReplayRequest} {tree : FileTree} {settings : MonitorSettings}
    {capture : Capture} (prepared : request.prepare tree = .ok (settings, capture)) :
    settings.validate = .ok () ∧ capture.path = request.capture ∧
      capture.isUnchanged tree = true := by
  simp only [prepare, bind_eq_ok_iff, mapError_eq_ok_iff, pure_eq_ok, Except.ok.injEq,
    Prod.mk.injEq] at prepared
  obtain ⟨loaded, _, _, valid, opened, loads, rfl, rfl⟩ := prepared
  rw [Capture.load, mapError_eq_ok_iff, map_eq_ok_iff] at loads
  obtain ⟨bytes, read_eq, rfl⟩ := loads
  exact ⟨valid, rfl, Capture.isUnchanged_iff.mpr read_eq⟩

/-- A replay that does not break off is one over a copy of its capture. -/
theorem eq_run_of_runMapped (request : ReplayRequest) {timing : ReplayTiming} {latest : Nat}
    {tree : FileTree} {outcome : Outcome}
    (done : request.runMapped timing latest tree = .ok outcome) :
    request.run timing tree = outcome := by
  unfold runMapped at done
  split at done
  next => cases done
  next => exact Except.ok.inj done

/-- Snapshots that go into another directory than the one that holds the capture leave the capture
alone. -/
theorem Undisturbed.of_elsewhere {request : ReplayRequest} {timing : ReplayTiming} {latest : Nat}
    {tree : FileTree}
    (hasTime : ∀ settings capture, request.prepare tree = .ok (settings, capture) →
      (request.clock timing (request.replayOf settings capture)).HasTime latest)
    {directory name : String} (plain : IsPlain name)
    (capture_eq : request.capture = joinPath directory name) {place output : Place}
    (followed : tree.follow (FileTree.start directory) (FileTree.parts directory) = .ok place)
    (outputFollowed : tree.follow (FileTree.start request.outputDirectory)
      (FileTree.parts request.outputDirectory) = .ok output)
    (different : place ≠ output) : request.Undisturbed timing latest tree where
  hasTime := hasTime
  apart settings capture format folder prepared form created window early := by
    obtain ⟨_, path_eq, _⟩ := of_prepare prepared
    obtain ⟨writer_eq, gains⟩ := SnapshotWriter.of_create created
    have windowPlain := isPlain_windowFileName (by decide : '/' ∉ standardStem.toList) window format
    rw [path_eq, capture_eq, writer_eq]
    refine FileTree.apart_of_plain plain windowPlain (gains.follow followed)
      (gains.follow outputFollowed) fun same => different ?_
    exact (List.append_inj' same rfl).1

/-- A replay that nothing disturbs comes to the outcome that it has over a copy of its capture. -/
theorem Undisturbed.runMapped_eq {request : ReplayRequest} {timing : ReplayTiming} {latest : Nat}
    {tree : FileTree} (undisturbed : request.Undisturbed timing latest tree) :
    request.runMapped timing latest tree = .ok (request.run timing tree) := by
  have faultless : request.fault? timing latest tree = none := by
    unfold fault?
    cases prepared : request.prepare tree with
    | error error => rfl
    | ok found =>
        obtain ⟨settings, capture⟩ := found
        obtain ⟨valid, _, unchanged⟩ := of_prepare prepared
        have hasTime := undisturbed.hasTime settings capture prepared
        cases form : request.snapshotFormat with
        | none =>
            exact faultInto?_eq_none (fun _ => True) valid hasTime
              (fun _ _ => unchanged) (fun _ _ _ spared => spared) trivial
        | some format =>
            simp only
            cases created : SnapshotWriter.create format request.outputDirectory tree with
            | error error => rfl
            | ok folder =>
                let Spared (folder : SnapshotFolder) := folder.Spares capture settings.period
                have spared : Spared folder :=
                  ⟨undisturbed.apart settings capture format folder prepared form created,
                    Capture.isUnchanged_of_read
                      (fun _ => (SnapshotWriter.of_create created).2.read) unchanged⟩
                exact faultInto?_eq_none Spared valid hasTime (fun _ spares => spares.unchanged)
                  (fun _ _ early spares => spares.sink early) spared
  rw [runMapped, faultless]

end ReplayRequest

end HitMonitor
