import HitMonitor.Proofs.Capture.Pacing
import HitMonitor.Proofs.Command.Mapped
import HitMonitor.Proofs.Command.Record
import HitMonitor.Proofs.Command.Replay

/-!
# How a replay ends

A replay reads its settings, puts the values of the request in their place, checks them and opens
its capture before it makes a directory, and nothing behind that can be refused: the settings that a
monitor would refuse have been refused already.  What is wrong with the capture, and snapshots that
could not be written, are counted and change nothing about how the replay ends.
-/

namespace HitMonitor

/-- The polls of a clock are polls of its replay, whenever it raises the stop signal. -/
theorem ReplayClock.exists_pollEach (timeoutMs : Nat) (stopRequested : Bool)
    (clock : ReplayClock) :
    let polls := source.issued timeoutMs stopRequested clock
    ∃ waits, polls.map Polled.outcome = (clock.replay.pollEach waits).1 ∧
      (Source.stateAfter clock polls).replay = (clock.replay.pollEach waits).2 := by
  intro polls
  unfold polls
  fun_induction source.issued timeoutMs stopRequested clock with
  | case1 clock => exact ⟨[], rfl, rfl⟩
  | case2 clock polled closed => exact ⟨[(clock.now, timeoutMs * ticksPerMs)], rfl, rfl⟩
  | case3 clock polled isOpen ih =>
      obtain ⟨waits, outcomes, last⟩ := ih
      refine ⟨(clock.now, timeoutMs * ticksPerMs) :: waits, ?_, last⟩
      rw [List.map_cons, outcomes]
      rfl

/-- Only the messages of some polls are taken by a cycle. -/
theorem Poll.filterMap_payload?_event? {Sunk : Type} (sink : Sink Sunk) (outcomes : List Poll) :
    (outcomes.filterMap (Poll.event? sink)).filterMap CycleEvent.payload? =
      outcomes.filterMap Poll.message? := by
  rw [List.filterMap_filterMap]
  congr 1
  funext outcome
  cases outcome <;> rfl

/-! ## Reports -/

namespace ReplayReport

/-- The messages of a replay: those of the frames it has passed that are not too long. -/
def taken (report : ReplayReport) (settings : MonitorSettings) (frames : List Frame) :
    List (List UInt8) :=
  ((frames.take (frames.length - report.remaining)).filter fun frame =>
    frame.length ≤ settings.longestMessage).map Frame.payload

/-- A report counts the frames of its capture, their defects and the answers to the snapshots that
were handed over. -/
structure Accounts (report : ReplayReport) (settings : MonitorSettings) (frames : List Frame)
    (emissions : List Emission) : Prop where
  remaining_le : report.remaining ≤ frames.length
  skipped : report.skipped = (frames.take (frames.length - report.remaining)).countP
    fun frame => settings.longestMessage < frame.length
  messages : report.counters.messages = (report.taken settings frames).length
  truncated : report.counters.truncated =
    (settings.defects (report.taken settings frames)).countP (·.isTruncated)
  overlong : report.counters.overlong =
    (settings.defects (report.taken settings frames)).countP (·.isOverlong)
  snapshots : report.counters.snapshots = emissions.length
  failures : report.counters.failedDeliveries = emissions.countP Emission.failed

end ReplayReport

namespace ReplayRequest

variable {Fed Sunk : Type} {settings : MonitorSettings}

/-- A flush does not touch the source. -/
theorem source_driveOver (request : ReplayRequest) (source : Source Fed) (fed : Fed)
    (board : SignalBoard) (signal : StopSignal) (sink : Sink Sunk) (sunk : Sunk)
    (cycle : WindowCycle) :
    (request.driveOver source fed board signal sink sunk cycle).final.source =
      Source.stateAfter fed
        (source.issued cycle.settings.pollWaitMs (board.isRaised signal) fed) := by
  let start := RunState.under board signal cycle fed sunk
  have unflushed : (request.driveOver source fed board signal sink sunk cycle).final.source =
      (start.run source sink).final.source := by
    unfold driveOver
    cases request.flushesPartial <;> rfl
  exact unflushed.trans (RunState.follows_run source sink start).source

/-- A replay takes the messages that its polls bring, and a flush brings none. -/
theorem accounts_driveOver (settings : MonitorSettings) (request : ReplayRequest)
    (source : Source Fed) (fed : Fed) (board : SignalBoard) (signal : StopSignal)
    (sink : Sink Sunk) (sunk : Sunk) :
    (request.driveOver source fed board signal sink sunk (.fresh settings)).final.cycle.Accounts
      settings
      (((source.issued settings.pollWaitMs (board.isRaised signal) fed).map
        Polled.outcome).filterMap Poll.message?) := by
  let asked := (request.requests source fed (board.isRaised signal)).map (·, sink)
  let events := asked.flatMap fun asked => asked.1.events settings.pollWaitMs asked.2
  have accounts := Session.accounts_play { cycle := .fresh settings, sink := sunk }
    (WindowCycle.accounts_fresh settings) events
  have brought : events.filterMap CycleEvent.payload? =
      ((source.issued settings.pollWaitMs (board.isRaised signal) fed).map
        Polled.outcome).filterMap Poll.message? := by
    rw [← Poll.filterMap_payload?_event? sink]
    simp only [events, asked, requests, List.map_cons, List.flatMap_cons, List.filterMap_append,
      CycleRequest.events]
    cases request.flushesPartial <;> simp [CycleEvent.payload?]
  rw [List.nil_append, brought] at accounts
  rw [cycle_driveOver, historyOver, Journal.serveAll_eq_play, Journal.toSession_play]
  exact accounts

/-- A report accounts for the capture, whatever the pace is and wherever the replay is stopped. -/
theorem accounts_report (settings : MonitorSettings) (request : ReplayRequest)
    (timing : ReplayTiming) (sink : Sink Sunk) (sunk : Sunk) (capture : Capture) :
    let replay := request.replayOf settings capture
    (request.report (request.drive timing sink sunk (.fresh settings) replay)).Accounts settings
      capture.content.frames
      (request.history timing sink sunk (.fresh settings) replay).emissions := by
  intro replay
  let clock := request.clock timing replay
  let signal := (stopSignal clock).1
  let board := (stopSignal clock).2
  obtain ⟨waits, outcomes, last⟩ :=
    ReplayClock.exists_pollEach settings.pollWaitMs (board.isRaised signal) clock
  obtain ⟨passed, passes⟩ := replay.passes_pollEach waits
  have source_eq : (request.drive timing sink sunk (.fresh settings)
      replay).final.source.replay = (replay.pollEach waits).2 :=
    (congrArg ReplayClock.replay (request.source_driveOver ReplayClock.source clock board signal
      sink sunk (.fresh settings))).trans last
  have delivers : (replay.pollEach waits).2.Delivers capture.content.frames
      settings.longestMessage (replay.pollEach waits).1 := passes.delivers rfl
  have accounts := request.accounts_driveOver settings ReplayClock.source clock board signal sink
    sunk
  rw [outcomes, show clock.replay = replay from rfl, delivers.messages,
    ← source_eq] at accounts
  rw [← source_eq] at delivers
  have balances := request.balances_historyOver ReplayClock.source clock board signal settings sink
    sunk
  exact
    { remaining_le := delivers.remaining_le
      skipped := delivers.skipped
      messages := accounts.messages
      truncated := accounts.truncated
      overlong := accounts.overlong
      snapshots := balances.attempts
      failures := balances.failures }

/-! ## What is refused -/

/-- Of the values of a request only a period of zero spoils valid settings, as a number of zero
records stands for any number. -/
theorem validate_adjust (request : ReplayRequest) (valid : settings.validate = .ok ()) :
    (request.adjust settings).validate =
      if request.period = some 0 then .error (.invalidSettings .zeroPeriod) else .ok () := by
  split
  next zero =>
    have period : (request.adjust settings).period = 0 := by simp [adjust, zero]
    rw [MonitorSettings.validate, if_pos period]
  next nonzero =>
    obtain ⟨period, pollWait, records, longest, fits⟩ :=
      MonitorSettings.validate_eq_ok_iff.mp valid
    refine MonitorSettings.validate_eq_ok_iff.mpr ⟨?_, pollWait, ?_, longest, fits⟩
    · cases chosen : request.period with
      | none => simpa [adjust, chosen] using period
      | some value =>
          rw [chosen] at nonzero
          simpa [adjust, chosen, Nat.pos_iff_ne_zero] using nonzero
    · cases chosen : request.records with
      | none => simpa [adjust, chosen] using records
      | some value => simp [adjust, chosen]

/-- Why a replay is refused before it makes a directory. -/
inductive Refused (request : ReplayRequest) (tree : FileTree) : CommandError → Prop where
  | settings {error : StorageError} :
      settingsFrom tree request.settings = .error error → Refused request tree (.storage error)
  | period {loaded : MonitorSettings} :
      settingsFrom tree request.settings = .ok loaded → request.period = some 0 →
      Refused request tree (.monitor (.invalidSettings .zeroPeriod))
  | capture {loaded : MonitorSettings} {fault : FileFault} :
      settingsFrom tree request.settings = .ok loaded → request.period ≠ some 0 →
      tree.readBytes request.capture = .error fault →
      Refused request tree (.storage (.file fault))

/-- Nothing else is refused, and what is prepared is valid. -/
theorem prepare_cases (request : ReplayRequest) (tree : FileTree) :
    (∃ error, request.prepare tree = .error error ∧ request.Refused tree error) ∨
      ∃ settings capture, request.prepare tree = .ok (settings, capture) ∧
        settings.validate = .ok () := by
  cases found : settingsFrom tree request.settings with
  | error error =>
      refine .inl ⟨.storage error, ?_, .settings found⟩
      rw [prepare, found]
      rfl
  | ok loaded =>
      have adjusted := request.validate_adjust (valid_of_settingsFrom found)
      by_cases zero : request.period = some 0
      · rw [if_pos zero] at adjusted
        refine .inl ⟨.monitor (.invalidSettings .zeroPeriod), ?_, .period found zero⟩
        simp only [prepare, found, Except.mapError, ok_bind, adjusted]
        rfl
      · rw [if_neg zero] at adjusted
        cases read : tree.readBytes request.capture with
        | error fault =>
            refine .inl ⟨.storage (.file fault), ?_, .capture found zero read⟩
            simp only [prepare, found, Except.mapError, ok_bind, adjusted, Capture.load, read]
            rfl
        | ok bytes =>
            refine .inr ⟨request.adjust loaded, ⟨request.capture, bytes⟩, ?_, adjusted⟩
            simp only [prepare, found, Except.mapError, ok_bind, adjusted, Capture.load, read]
            rfl

/-! ## The ways to end -/

/-- The ways in which a replay ends. -/
inductive Ends (request : ReplayRequest) (timing : ReplayTiming) (tree : FileTree) :
    Outcome → Prop where
  | refused {error : CommandError} :
      request.prepare tree = .error error → request.Refused tree error →
      Ends request timing tree (.failed error tree)
  | directoryRefused {settings : MonitorSettings} {capture : Capture} {format : SnapshotFormat}
      {fault : FileFault} {notices : List Notice} :
      request.prepare tree = .ok (settings, capture) → request.snapshotFormat = some format →
      (tree.createDirectories request.outputDirectory).result = .error fault →
      Ends request timing tree ⟨.error (.storage (.file fault)), notices,
        (tree.createDirectories request.outputDirectory).tree⟩
  | mentioned {settings : MonitorSettings} {capture : Capture} {report : ReplayReport}
      {notices : List Notice} :
      request.prepare tree = .ok (settings, capture) → request.snapshotFormat = none →
      report.Accounts settings capture.content.frames
        (request.history timing Sink.totals () (.fresh settings)
          (request.replayOf settings capture)).emissions →
      Ends request timing tree ⟨.ok (.replay report), notices, tree⟩
  | written {settings : MonitorSettings} {capture : Capture} {format : SnapshotFormat}
      {folder left : SnapshotFolder} {report : ReplayReport} {notices : List Notice} :
      request.prepare tree = .ok (settings, capture) → request.snapshotFormat = some format →
      SnapshotWriter.create format request.outputDirectory tree = .ok folder →
      report.Accounts settings capture.content.frames
        (request.history timing SnapshotFolder.sink folder (.fresh settings)
          (request.replayOf settings capture)).emissions →
      Ends request timing tree ⟨.ok (.replay report), notices, left.tree⟩

/-- Whatever the capture holds and whatever the sink answers, a monitor with valid settings comes to
a report. -/
theorem exists_runInto (request : ReplayRequest) (timing : ReplayTiming)
    (valid : settings.validate = .ok ()) (capture : Capture) (sink : Sink Sunk) (sunk : Sunk)
    (treeOf : Sunk → FileTree) (notices : List Notice) :
    ∃ report allNotices left,
      request.runInto timing sink sunk treeOf settings (request.replayOf settings capture) notices =
        ⟨.ok (.replay report), allNotices, treeOf left⟩ ∧
      report.Accounts settings capture.content.frames
        (request.history timing sink sunk (.fresh settings)
          (request.replayOf settings capture)).emissions := by
  have accepted : WindowCycle.new settings = .ok (.fresh settings) :=
    WindowCycle.new_eq_ok_iff.mpr ⟨valid, rfl⟩
  let run := request.drive timing sink sunk (.fresh settings) (request.replayOf settings capture)
  refine ⟨request.report run, notices ++ run.final.notices.toList, run.final.sink, ?_,
    request.accounts_report settings timing sink sunk capture⟩
  rw [runInto, accepted]

theorem ends_run (request : ReplayRequest) (timing : ReplayTiming) (tree : FileTree) :
    request.Ends timing tree (request.run timing tree) := by
  rcases request.prepare_cases tree with
    ⟨error, prepared, refused⟩ | ⟨settings, capture, prepared, valid⟩
  · have run_eq : request.run timing tree = .failed error tree := by
      rw [run, prepared]
    rw [run_eq]
    exact .refused prepared refused
  · cases format : request.snapshotFormat with
    | none =>
        have run_eq : request.run timing tree =
            request.runInto timing Sink.totals () (fun _ => tree) settings
              (request.replayOf settings capture) (Replay.ofCapture capture).2 := by
          simp only [run, prepared, format]
        obtain ⟨report, notices, _, ran, accounts⟩ := request.exists_runInto timing valid capture
          Sink.totals () (fun _ => tree) (Replay.ofCapture capture).2
        rw [run_eq, ran]
        exact .mentioned prepared format accounts
    | some form =>
        cases created : (tree.createDirectories request.outputDirectory).result with
        | error fault =>
            have refused : SnapshotWriter.create form request.outputDirectory tree =
                .error (.file fault) := by
              simp only [SnapshotWriter.create, created]
              rfl
            have run_eq : request.run timing tree = ⟨.error (.storage (.file fault)),
                (Replay.ofCapture capture).2,
                (tree.createDirectories request.outputDirectory).tree⟩ := by
              simp only [run, prepared, format, refused]
            rw [run_eq]
            exact .directoryRefused prepared format created
        | ok done =>
            let folder : SnapshotFolder := ⟨⟨form, request.outputDirectory, standardStem, []⟩,
              (tree.createDirectories request.outputDirectory).tree⟩
            have opened : SnapshotWriter.create form request.outputDirectory tree =
                .ok folder := by
              simp only [SnapshotWriter.create, created]
              rfl
            have run_eq : request.run timing tree =
                request.runInto timing SnapshotFolder.sink folder SnapshotFolder.tree settings
                  (request.replayOf settings capture) (Replay.ofCapture capture).2 := by
              simp only [run, prepared, format, opened]
            obtain ⟨report, notices, left, ran, accounts⟩ :=
              request.exists_runInto timing valid capture SnapshotFolder.sink folder
                SnapshotFolder.tree (Replay.ofCapture capture).2
            rw [run_eq, ran]
            exact .written prepared format opened accounts

/-- A replay breaks off only where it would have come to a report. -/
theorem exists_report_of_fault (request : ReplayRequest) {timing : ReplayTiming} {latest : Nat}
    {tree : FileTree} {fault : ReplayFault}
    (broken : request.runMapped timing latest tree = .error fault) :
    ∃ report, (request.run timing tree).result = .ok (.replay report) := by
  have found : request.fault? timing latest tree = some fault := by
    unfold runMapped at broken
    split at broken
    next same =>
      rw [same, Except.error.inj broken]
    next => cases broken
  have ends : request.Ends timing tree (request.run timing tree) := request.ends_run timing tree
  generalize request.run timing tree = outcome at ends
  cases ends with
  | refused prepared =>
      simp only [fault?, prepared] at found
      cases found
  | directoryRefused prepared form refused =>
      simp only [fault?, prepared, form, SnapshotWriter.create, refused] at found
      cases found
  | mentioned => exact ⟨_, rfl⟩
  | written => exact ⟨_, rfl⟩

/-- A replay that fails leaves everything as it was, or has failed to make its output directory, in
which case directories above it may be new and nothing else.  Once it is prepared it comes to a
report with any sink, as the settings have passed the check that a monitor makes, wherever its stop
signal is raised; defects of the capture and snapshots that could not be delivered are counted in
the report.  All that can keep it from its report is a capture that is written to while it is read
or a due time that the clock cannot show, and nothing does if it is undisturbed. -/
theorem failed_replay_leaves_files (request : ReplayRequest) (timing : ReplayTiming) (latest : Nat)
    (tree : FileTree) :
    let mapped := request.runMapped timing latest tree
    (request.Undisturbed timing latest tree → ∃ outcome, mapped = .ok outcome) ∧
    (∀ fault, mapped = .error fault →
      ∃ report, (request.run timing tree).result = .ok (.replay report)) ∧
    (∀ outcome, mapped = .ok outcome →
      request.Ends timing tree outcome ∧
      ∀ error, outcome.result = .error error →
        request.Refused tree error ∧ outcome.tree = tree ∨
        ∃ fault, request.snapshotFormat.isSome = true ∧
          (tree.createDirectories request.outputDirectory).result = .error fault ∧
          error = .storage (.file fault) ∧ tree.GainsDirectories outcome.tree) ∧
    ∀ settings capture, request.prepare tree = .ok (settings, capture) →
      WindowCycle.new settings = .ok (.fresh settings) ∧
      ∀ (Sunk : Type) (sink : Sink Sunk) (sunk : Sunk) (treeOf : Sunk → FileTree)
        (notices : List Notice),
        ∃ report, (request.runInto timing sink sunk treeOf settings
            (request.replayOf settings capture) notices).result = .ok (.replay report) ∧
          report.Accounts settings capture.content.frames
            (request.history timing sink sunk (.fresh settings)
              (request.replayOf settings capture)).emissions := by
  intro mapped
  refine ⟨fun undisturbed => ⟨_, undisturbed.runMapped_eq⟩,
    fun fault broken => request.exists_report_of_fault broken, fun outcome done => ?_,
    fun settings capture prepared => ?_⟩
  · have ends : request.Ends timing tree outcome := by
      rw [← request.eq_run_of_runMapped done]
      exact request.ends_run timing tree
    refine ⟨ends, fun error failed => ?_⟩
    cases ends with
    | refused _ refused =>
        cases failed
        exact .inl ⟨refused, rfl⟩
    | directoryRefused _ form refused =>
        cases failed
        exact .inr ⟨_, by rw [form]; rfl, refused, rfl, .createDirectories tree _⟩
    | mentioned => cases failed
    | written => cases failed
  · have valid := (of_prepare prepared).1
    refine ⟨WindowCycle.new_eq_ok_iff.mpr ⟨valid, rfl⟩, fun Sunk sink sunk treeOf notices => ?_⟩
    obtain ⟨report, _, _, ran, accounts⟩ :=
      request.exists_runInto timing valid capture sink sunk treeOf notices
    exact ⟨report, by rw [ran], accounts⟩

/-- A capture of two frames that is replayed into a directory beside it, at a pace of one
millisecond and with a time limit, and the same request with a period of zero. -/
theorem failed_replay_leaves_files_beside :
    let bytes : List UInt8 := [0, 0, 0, 0, 0, 0, 0, 0]
    let tree : FileTree :=
      ⟨[(["run.cap"], .file (.bytes bytes)), (["snapshots"], .directory)]⟩
    let request : ReplayRequest :=
      { capture := "run.cap", form := .table, period := some 1, pauseMs := 1, timeLimit := some 2 }
    let refused : ReplayRequest := { request with period := some 0 }
    let timing : ReplayTiming := { delays := [3000000], lateness := 7 }
    (∃ settings, request.prepare tree = .ok (settings, ⟨"run.cap", bytes⟩)) ∧
      request.Undisturbed timing ReplayClock.latest tree ∧
      (∃ outcome, request.runMapped timing ReplayClock.latest tree = .ok outcome) ∧
      ∃ outcome, refused.runMapped timing ReplayClock.latest tree = .ok outcome ∧
        refused.Refused tree (.monitor (.invalidSettings .zeroPeriod)) ∧ outcome.tree = tree := by
  intro bytes tree request refused timing
  have plain : IsPlain "run.cap" := ⟨by decide, by decide, by decide, by decide⟩
  have path_eq : joinPath "" "run.cap" = "run.cap" := by simp [joinPath]
  have here : tree.follow (FileTree.start "") (FileTree.parts "") = .ok [] := rfl
  have read_eq : tree.read "run.cap" = .ok (.bytes bytes) := by
    refine FileTree.read_eq_ok_iff.mpr ⟨FileTree.checkPath_eq_ok_iff.mpr (by decide),
      FileTree.not_endsWith_slash plain, ["run.cap"], ?_, rfl⟩
    have located := FileTree.locate_joinPath plain here
    rw [path_eq] at located
    exact located
  have prepared : request.prepare tree =
      .ok (request.adjust .standard, ⟨"run.cap", bytes⟩) := by
    simp only [prepare, settingsFrom, Capture.load, FileTree.readBytes, request, read_eq]
    rfl
  have there : tree.follow (FileTree.start request.outputDirectory)
      (FileTree.parts request.outputDirectory) = .ok ["snapshots"] := by
    have starts : FileTree.start request.outputDirectory = [] := by
      rw [FileTree.start, if_neg]
      rw [FileTree.startsWith_slash_iff]
      decide
    have parts : FileTree.parts request.outputDirectory = ["snapshots"] := by decide
    rw [starts, parts]
    rfl
  have undisturbed : request.Undisturbed timing ReplayClock.latest tree := by
    refine .of_elsewhere (fun settings capture found => ?_) plain path_eq.symm here there
      (by decide)
    rw [prepared] at found
    cases found
    have count : (Capture.mk "run.cap" bytes).content.frames.length = 2 := by decide +kernel
    intro interval interval_eq
    obtain rfl : request.pauseMs * ReplayClock.ticksPerMs = interval := Option.some.inj interval_eq
    change max 0 0 + (Capture.mk "run.cap" bytes).content.frames.length * _ + 3000000 ≤ _
    rw [count]
    decide
  obtain ⟨comes, _⟩ := failed_replay_leaves_files request timing ReplayClock.latest tree
  obtain ⟨refusedComes, _, ends, _⟩ :=
    failed_replay_leaves_files refused timing ReplayClock.latest tree
  have unprepared : refused.prepare tree = .error (.monitor (.invalidSettings .zeroPeriod)) := rfl
  obtain ⟨outcome, done⟩ := refusedComes
    ⟨fun _ _ found => (by rw [unprepared] at found; cases found),
      fun _ _ _ _ found => (by rw [unprepared] at found; cases found)⟩
  have outcome_eq : outcome = .failed (.monitor (.invalidSettings .zeroPeriod)) tree :=
    (refused.eq_run_of_runMapped done).symm
  subst outcome_eq
  refine ⟨⟨_, prepared⟩, undisturbed, comes undisturbed, _, done, ?_⟩
  rcases (ends _ done).2 _ rfl with unchanged | ⟨_, _, _, other, _⟩
  · exact unchanged
  · cases other

end ReplayRequest

end HitMonitor
