import HitMonitor.Command.Run
import HitMonitor.Proofs.Capture.Sources
import HitMonitor.Proofs.Monitor.SinkIndependence
import HitMonitor.Proofs.Snapshot.Files
import HitMonitor.Proofs.Snapshot.Table

/-!
# Replays into tables

A replay is a run over the frames of a capture, and a flush if that is asked for.  When no file
operation is refused, it leaves one table for each window and nothing else in its directory.
-/

namespace HitMonitor

variable {Fed Sunk : Type}

/-- A flush does not look at the polls that found nothing. -/
theorem WindowCycle.sink_flush_idle (cycle : WindowCycle) (polls : Nat) (sink : Sink Sunk)
    (sunk : Sunk) : ((cycle.idle polls).flush sink sunk).sink = (cycle.flush sink sunk).sink := by
  have same : (cycle.idle polls).openMessages = cycle.openMessages := rfl
  unfold flush
  rw [same]
  split <;> rfl

namespace ReplayRequest

/-- The signal of a clock is up before the first poll if the time limit is over by then. -/
theorem isRaised_stopSignal (clock : ReplayClock) :
    (stopSignal clock).2.isRaised (stopSignal clock).1 =
      ReplayClock.isPast clock.limit clock.now := by
  have created := SignalBoard.isRaised_create .empty
  have raised := SignalBoard.isRaised_raise (SignalBoard.knows_create .empty)
  unfold stopSignal
  cases ReplayClock.isPast clock.limit clock.now with
  | true => exact raised
  | false => exact created

/-- A replay with a time limit can be stopped before its first poll and behind each poll of it: for
any number of polls, time can pass such that there are that many unless the capture ends before. -/
theorem exists_timing_of_stop (request : ReplayRequest) {limit : Nat}
    (limited : request.timeLimit.bind ticks = some limit) (replay : Replay)
    (timeoutMs count : Nat) :
    ∃ timing,
      let clock := request.clock timing replay
      let raised := (stopSignal clock).2.isRaised (stopSignal clock).1
      let polls := ReplayClock.source.issued timeoutMs raised clock
      polls.length = count ∨ polls.length < count ∧ .closed ∈ polls.map Polled.outcome := by
  have limit_eq (timing : ReplayTiming) :
      (request.clock timing replay).limit = some (limit + timing.lateness) := by
    simp [clock, limited]
  cases count with
  | zero =>
      refine ⟨{ start := limit + 1 }, .inl ?_⟩
      have past : ReplayClock.isPast (some limit) (limit + 1) = true := by
        simp [ReplayClock.isPast]
      rw [isRaised_stopSignal, limit_eq]
      exact congrArg List.length (past ▸ Source.issued_of_stop ..)
  | succ count =>
      let horizon := replay.horizon 0 (replay.interval.getD 0)
      let timing : ReplayTiming :=
        { delays := List.replicate count 0 ++ [limit + horizon + 1], lateness := horizon }
      refine ⟨timing, ?_⟩
      dsimp only
      rw [isRaised_stopSignal, limit_eq]
      exact ReplayClock.issued_of_delays timeoutMs (limit_eq timing) (Nat.le_add_left ..) rfl

/-- What a replay over a source asks of its monitor. -/
def requests (request : ReplayRequest) (source : Source Fed) (fed : Fed) (stopRequested : Bool) :
    List CycleRequest :=
  .run source fed stopRequested :: if request.flushesPartial then [.flush] else []

/-- The history of a replay over a source. -/
def historyOver (request : ReplayRequest) (source : Source Fed) (fed : Fed) (board : SignalBoard)
    (signal : StopSignal) (sink : Sink Sunk) (sunk : Sunk) (cycle : WindowCycle) : Journal Sunk :=
  (Journal.blank cycle sunk).serveAll
    ((request.requests source fed (board.isRaised signal)).map (·, sink))

/-- The history of a replay. -/
def history (request : ReplayRequest) (timing : ReplayTiming) (sink : Sink Sunk) (sunk : Sunk)
    (cycle : WindowCycle) (replay : Replay) : Journal Sunk :=
  let clock := request.clock timing replay
  let (signal, board) := stopSignal clock
  request.historyOver ReplayClock.source clock board signal sink sunk cycle

variable (request : ReplayRequest) (source : Source Fed) (fed : Fed) (board : SignalBoard)
  (signal : StopSignal)

theorem cycle_driveOver (sink : Sink Sunk) (sunk : Sunk) (cycle : WindowCycle) :
    (request.driveOver source fed board signal sink sunk cycle).final.cycle =
      (request.historyOver source fed board signal sink sunk cycle).cycle := by
  unfold driveOver historyOver requests
  cases request.flushesPartial <;> rfl

theorem sink_driveOver (sink : Sink Sunk) (sunk : Sunk) (cycle : WindowCycle) :
    (request.driveOver source fed board signal sink sunk cycle).final.sink =
      (request.historyOver source fed board signal sink sunk cycle).sink := by
  unfold driveOver historyOver requests
  cases request.flushesPartial <;> rfl

/-- The frames of a replay that are short enough, counted one after the other, and the last window
flushed if that is asked for. -/
def straightThrough (sink : Sink Sunk) (sunk : Sunk) (cycle : WindowCycle) (replay : Replay) :
    Session Sunk :=
  let messages := (replay.frames.filter fun frame =>
    frame.length ≤ replay.longestMessage).map Frame.payload
  let folded := Session.play { cycle := cycle, sink := sunk } (messages.map (.message · sink))
  if request.flushesPartial then folded.step (.flush sink) else folded

variable {source fed board signal} in
/-- A source that replays, and that nothing stops, goes straight through its replay. -/
theorem sink_driveOver_of_replays {latest : Nat} {Shows : Fed → Replay → Prop}
    (replays : source.Replays latest Shows) {replay : Replay} (shows : Shows fed replay)
    (down : board.isRaised signal = false) (sink : Sink Sunk) (sunk : Sunk) (cycle : WindowCycle) :
    (request.driveOver source fed board signal sink sunk cycle).final.sink =
      (request.straightThrough sink sunk cycle replay).sink := by
  let run := (RunState.starting fed cycle sunk).run source sink
  obtain ⟨_, cycle_eq, sink_eq, _⟩ := RunState.run_over_replay replays shows sink cycle sunk
  have started : RunState.under board signal cycle fed sunk =
      RunState.starting fed cycle sunk := by
    rw [RunState.under, down]
    rfl
  cases flushes : request.flushesPartial with
  | false =>
      simp only [driveOver, straightThrough, RunState.runUnder, started, flushes]
      exact sink_eq
  | true =>
      have driven : (request.driveOver source fed board signal sink sunk cycle).final.sink =
          (run.final.cycle.flush sink run.final.sink).sink := by
        simp only [driveOver, RunState.runUnder, started, flushes]
        rfl
      rw [driven, cycle_eq, sink_eq, WindowCycle.sink_flush_idle, straightThrough, flushes]
      rfl

/-- The snapshots of a replay are those that a sink collects on the same replay. -/
theorem snapshots_historyOver (sink : Sink Sunk) (sunk : Sunk) (cycle : WindowCycle) :
    (request.historyOver source fed board signal sink sunk cycle).emissions.map (·.snapshot) =
      (request.driveOver source fed board signal Sink.collecting [] cycle).final.sink := by
  let asked := request.requests source fed (board.isRaised signal)
  have alike := (Journal.Alike.blank cycle sunk ([] : List Snapshot)).serveAll
    (asked.map (·, sink, Sink.collecting))
  have snapshots := alike.snapshots
  simp only [List.map_map] at snapshots
  rw [sink_driveOver]
  exact snapshots.symm.trans (Journal.sink_serveAll_collecting cycle asked).symm

variable {settings : MonitorSettings}

/-- The snapshots of a replay close consecutive windows. -/
theorem exists_closed_historyOver (valid : settings.validate = .ok ()) (sink : Sink Sunk)
    (sunk : Sunk) :
    ∃ blocks, Emission.AllClose settings
      (request.historyOver source fed board signal sink sunk (.fresh settings)).emissions
      blocks := by
  have closed (events : List (CycleEvent Sunk)) : ∃ blocks, Emission.AllClose settings
      (Session.play { cycle := .fresh settings, sink := sunk } events).emissions blocks := by
    obtain ⟨blocks, _, covers, _⟩ := (Session.covers_fresh valid sunk).play events
    exact ⟨blocks, covers.closed⟩
  rw [historyOver, Journal.serveAll_eq_play, Journal.toSession_play]
  exact closed _

/-- The snapshots that a sink collects are numbered from zero on, and each summarizes a block of
messages. -/
theorem collected_driveOver (valid : settings.validate = .ok ()) :
    let snapshots :=
      (request.driveOver source fed board signal Sink.collecting [] (.fresh settings)).final.sink
    snapshots.map Snapshot.window = List.range snapshots.length ∧
      ∀ snapshot ∈ snapshots, ∃ block, snapshot.Summarizes settings block := by
  intro snapshots
  obtain ⟨blocks, closed⟩ :=
    request.exists_closed_historyOver source fed board signal valid Sink.collecting []
  have emitted :=
    request.snapshots_historyOver source fed board signal Sink.collecting [] (.fresh settings)
  change _ = snapshots at emitted
  constructor
  · rw [← emitted, List.map_map, List.length_map]
    exact closed.windows_eq
  · intro snapshot member
    rw [← emitted] at member
    obtain ⟨emission, handed, rfl⟩ := List.mem_map.mp member
    exact closed.exists_summarizes handed

theorem balances_historyOver (settings : MonitorSettings) (sink : Sink Sunk) (sunk : Sunk) :
    (request.driveOver source fed board signal sink sunk (.fresh settings)).final.cycle.Balances
      (request.historyOver source fed board signal sink sunk (.fresh settings)).emissions := by
  rw [cycle_driveOver]
  let asked := (request.requests source fed (board.isRaised signal)).map (·, sink)
  exact (Journal.conserves_serveAll settings sunk asked).balances

/-- As many snapshots are handed over as a sink collects, whatever sink gets them. -/
theorem snapshots_driveOver (settings : MonitorSettings) (sink : Sink Sunk) (sunk : Sunk) :
    (request.driveOver source fed board signal sink sunk
        (.fresh settings)).final.cycle.counters.snapshots =
      (request.driveOver source fed board signal Sink.collecting []
        (.fresh settings)).final.sink.length := by
  rw [(request.balances_historyOver source fed board signal settings sink sunk).attempts,
    ← request.snapshots_historyOver source fed board signal sink sunk, List.length_map]

theorem failedDeliveries_driveOver_eq_zero_iff (settings : MonitorSettings) (sink : Sink Sunk)
    (sunk : Sunk) :
    (request.driveOver source fed board signal sink sunk
        (.fresh settings)).final.cycle.counters.failedDeliveries = 0 ↔
      ∀ emission ∈
        (request.historyOver source fed board signal sink sunk (.fresh settings)).emissions,
        emission.failed = false := by
  rw [(request.balances_historyOver source fed board signal settings sink sunk).failures,
    List.countP_eq_zero]
  simp only [Bool.not_eq_true]

/-! ## Tables -/

variable {folder : SnapshotFolder} {place : Place}

/-- A replay that starts from an empty directory keeps the tables of all its windows there, if each
could be written or is accepted. -/
theorem keeps_driveOver (valid : settings.validate = .ok ()) (blank : folder.Blank place) :
    let final := (request.driveOver source fed board signal SnapshotFolder.sink folder
      (.fresh settings)).final
    let snapshots :=
      (request.driveOver source fed board signal Sink.collecting [] (.fresh settings)).final.sink
    let handed := (request.historyOver source fed board signal SnapshotFolder.sink folder
      (.fresh settings)).emissions
    (∀ emission ∈ handed,
      emission.failed = false ∨ folder.writer.Accepts emission.snapshot.window) →
    final.cycle.counters.failedDeliveries = 0 ∧
      final.sink.Keeps folder.writer place snapshots := by
  intro final snapshots handed each
  obtain ⟨blocks, closed⟩ :=
    request.exists_closed_historyOver source fed board signal valid SnapshotFolder.sink folder
  have distinct : (handed.map (·.snapshot.window)).Nodup := by
    rw [closed.windows_eq]
    exact List.nodup_range
  obtain ⟨noneFailed, keeps⟩ := Journal.keeps_serveAll
    (SnapshotFolder.preserves_sink blank.tables place)
    (fun _ _ => ⟨by simp [Journal.blank], blank.keeps⟩)
    (request.requests source fed (board.isRaised signal)) distinct each
  constructor
  · exact (request.failedDeliveries_driveOver_eq_zero_iff source fed board signal settings
      SnapshotFolder.sink folder).mpr noneFailed
  · have emitted := request.snapshots_historyOver source fed board signal SnapshotFolder.sink
      folder (.fresh settings)
    change _ = snapshots at emitted
    have sunk_eq : final.sink = _ := request.sink_driveOver source fed board signal
      SnapshotFolder.sink folder (.fresh settings)
    rw [← emitted, sunk_eq]
    exact keeps

/-- A replay into an empty directory fails nowhere if files can have the paths of all its
windows. -/
theorem failedDeliveries_driveOver (valid : settings.validate = .ok ())
    (blank : folder.Blank place) :
    let final := (request.driveOver source fed board signal SnapshotFolder.sink folder
      (.fresh settings)).final
    let snapshots :=
      (request.driveOver source fed board signal Sink.collecting [] (.fresh settings)).final.sink
    (∀ window < snapshots.length, folder.writer.Accepts window) →
      final.cycle.counters.failedDeliveries = 0 := by
  intro final snapshots accepts
  have emitted := request.snapshots_historyOver source fed board signal SnapshotFolder.sink folder
    (.fresh settings)
  change _ = snapshots at emitted
  refine (request.keeps_driveOver source fed board signal valid blank
    fun emission member => .inr ?_).1
  apply accepts
  rw [← List.mem_range, ← (request.collected_driveOver source fed board signal valid).1]
  change _ ∈ snapshots.map Snapshot.window
  rw [← emitted, List.map_map]
  exact List.mem_map_of_mem member

/-- A replay that starts from an empty directory, and in which no file operation is refused, leaves
one table for each window and nothing else there, whatever source brings its messages and wherever
its stop signal is raised.  The tables are listed in the order of their windows under paths that are
all different, and in each of them every plane counts all hits.  The windows of a source that
replays, at any pace, and that nothing stops are those of all frames that are short enough. -/
theorem replay_leaves_one_table_per_window {cycle : WindowCycle}
    (accepted : WindowCycle.new settings = .ok cycle) (request : ReplayRequest)
    (source : Source Fed) (fed : Fed) (board : SignalBoard) (signal : StopSignal)
    (blank : folder.Blank place) :
    let final :=
      (request.driveOver source fed board signal SnapshotFolder.sink folder cycle).final
    let snapshots :=
      (request.driveOver source fed board signal Sink.collecting [] cycle).final.sink
    let history := request.historyOver source fed board signal SnapshotFolder.sink folder cycle
    final.cycle.counters.failedDeliveries = 0 →
      history.emissions.map (·.snapshot) = snapshots ∧
        snapshots.map Snapshot.window = List.range final.cycle.counters.snapshots ∧
        final.sink.Keeps folder.writer place snapshots ∧ final.sink.writer.written.Nodup ∧
        (∀ snapshot ∈ snapshots, AddsUp snapshot.toTable snapshot.hits) ∧
        (Function.Injective fun window => windowFileName folder.writer.stem window "csv") ∧
        ∀ (latest : Nat) (Shows : Fed → Replay → Prop) (replay : Replay),
          source.Replays latest Shows → Shows fed replay → board.isRaised signal = false →
          snapshots = (request.straightThrough Sink.collecting [] cycle replay).sink := by
  obtain ⟨valid, rfl⟩ := WindowCycle.new_eq_ok_iff.mp accepted
  intro final snapshots history undisturbed
  obtain ⟨windows, summarized⟩ := request.collected_driveOver source fed board signal valid
  have noneFailed := (request.failedDeliveries_driveOver_eq_zero_iff source fed board signal
    settings SnapshotFolder.sink folder).mp undisturbed
  obtain ⟨_, keeps⟩ := request.keeps_driveOver source fed board signal valid blank
    fun emission member => .inl (noneFailed emission member)
  refine ⟨request.snapshots_historyOver source fed board signal SnapshotFolder.sink folder
    (.fresh settings), ?_, keeps, ?_, ?_, windowFileName_injective folder.writer.stem "csv",
    fun latest Shows replay replays shows down =>
      request.sink_driveOver_of_replays replays shows down Sink.collecting [] (.fresh settings)⟩
  · rw [request.snapshots_driveOver source fed board signal settings SnapshotFolder.sink folder]
    exact windows
  · apply keeps.nodup_written blank.tables
    rw [windows]
    exact List.nodup_range
  · intro snapshot member
    obtain ⟨block, summarizes⟩ := summarized snapshot member
    exact summarizes.addsUp

/-- Two windows of a replay with three messages, the last of which is flushed, at a pace of ten
milliseconds and with a delay behind the first poll. -/
theorem replay_leaves_one_table_per_window_flushed :
    let grid : Grid :=
      { x := 2, y := 2, z := 2, x_pos := by decide, y_pos := by decide, z_pos := by decide,
        cells_le := by decide }
    let settings :=
      { MonitorSettings.standard with grid := grid, period := 2, recordsExpected := none }
    let message : List UInt8 := [0, 0, 0, 0, 7, 0, 0, 0, 0, 0, 0, 0]
    let replay := (Replay.ofFrames [⟨0, message⟩, ⟨16, message⟩, ⟨32, []⟩]).pacedBy 10000000
    let request : ReplayRequest := { flushesPartial := true }
    let clock := request.clock { delays := [3000000] } replay
    let board := (ReplayRequest.stopSignal clock).2
    let signal := (ReplayRequest.stopSignal clock).1
    let folder : SnapshotFolder := ⟨⟨.table, "out", "mg", []⟩, ⟨[(["out"], .directory)]⟩⟩
    let final := (request.driveOver ReplayClock.source clock board signal SnapshotFolder.sink folder
      (.fresh settings)).final
    let snapshots := (request.driveOver ReplayClock.source clock board signal Sink.collecting []
      (.fresh settings)).final.sink
    WindowCycle.new settings = .ok (.fresh settings) ∧ folder.Blank ["out"] ∧
      final.cycle.counters.failedDeliveries = 0 ∧
      snapshots.map Snapshot.hits = [2, 0] ∧ final.sink.Keeps folder.writer ["out"] snapshots ∧
      final.sink.writer.written = ["out/mg_000000.csv", "out/mg_000001.csv"] := by
  intro grid settings message replay request clock board signal folder final snapshots
  have accepted : WindowCycle.new settings = .ok (.fresh settings) := rfl
  have valid : settings.validate = .ok () := rfl
  have starts : FileTree.start folder.writer.directory = [] := by
    rw [FileTree.start, if_neg]
    rw [FileTree.startsWith_slash_iff]
    decide
  have parts : FileTree.parts folder.writer.directory = ["out"] := by decide
  have blank : folder.Blank ["out"] :=
    { tables := ⟨rfl, by decide⟩
      written := rfl
      directory := by
        rw [starts, parts]
        rfl
      empty := by decide }
  have hits : snapshots.map Snapshot.hits = [2, 0] := by
    have replays := ReplayClock.replays ReplayClock.latest
    have hasTime : clock.HasTime ReplayClock.latest := by
      intro interval interval_eq
      obtain rfl : 10000000 = interval := Option.some.inj interval_eq
      decide
    rw [show snapshots = _ from request.sink_driveOver_of_replays replays ⟨rfl, rfl, hasTime⟩
      (isRaised_stopSignal clock) ..]
    decide
  have length_eq : snapshots.length = 2 := by
    rw [← List.length_map Snapshot.hits, hits]
    rfl
  have filePath_eq (window : Nat) :
      folder.writer.filePath window = "out/" ++ folder.writer.fileName window :=
    FileTree.joinPath_eq (blank.tables.isPlain window) (by decide) (by decide)
  have path_zero : folder.writer.filePath 0 = "out/mg_000000.csv" := by
    rw [filePath_eq]
    decide
  have path_one : folder.writer.filePath 1 = "out/mg_000001.csv" := by
    rw [filePath_eq]
    decide
  have accepts : ∀ window < snapshots.length, folder.writer.Accepts window := by
    rw [length_eq]
    intro window below
    have window_eq : window = 0 ∨ window = 1 := by omega
    rcases window_eq with rfl | rfl
    · have path : FileTree.checkPath (folder.writer.filePath 0) = .ok () := by
        rw [path_zero, FileTree.checkPath_eq_ok_iff]
        decide
      exact ⟨path, by decide⟩
    · have path : FileTree.checkPath (folder.writer.filePath 1) = .ok () := by
        rw [path_one, FileTree.checkPath_eq_ok_iff]
        decide
      exact ⟨path, by decide⟩
  have undisturbed : final.cycle.counters.failedDeliveries = 0 :=
    request.failedDeliveries_driveOver ReplayClock.source clock board signal valid blank accepts
  obtain ⟨_, windows, keeps, _⟩ := replay_leaves_one_table_per_window accepted request
    ReplayClock.source clock board signal blank undisturbed
  have numbered : snapshots.map Snapshot.window = [0, 1] := by
    have number : final.cycle.counters.snapshots = 2 :=
      (request.snapshots_driveOver ReplayClock.source clock board signal settings
        SnapshotFolder.sink folder).trans length_eq
    rw [windows, number]
    rfl
  have written : final.sink.writer.written =
      (snapshots.map Snapshot.window).map folder.writer.filePath := by
    rw [keeps.writer_eq, List.map_map]
    rfl
  rw [numbered, List.map_cons, List.map_singleton, path_zero, path_one] at written
  exact ⟨accepted, blank, undisturbed, hits, keeps, written⟩

end ReplayRequest

end HitMonitor
