import HitMonitor.Proofs.Document.Settings
import HitMonitor.Proofs.Machine.Message
import HitMonitor.Proofs.Monitor.Conservation

/-!
# The window cycle in machine words

The steps of a window cycle, carried out in machine words.  A step takes one from the countdown and
adds to the messages of the window without asking whether it can, so it relies on what the steps
before it have left behind.  As long as the lifetime counters fit their words, no step stops, and
each does what it does with natural numbers.
-/

namespace HitMonitor

open Machine

variable {Sunk : Type}

/-! ## Steps -/

namespace WindowCycle

/-- Count one message into the current window without closing it. -/
def countInWords (cycle : WindowCycle) (payload : List UInt8) :
    Except WordFault (Receipt × WindowCycle × List Notice) := do
  let counters := cycle.counters
  let message := counters.messages
  let batch ← cycle.reader.readInWords payload
  let truncated ← fit word64Max (counters.truncated + match batch.defect with
    | some (.truncated ..) => 1
    | _ => 0)
  let overlong ← fit word64Max (counters.overlong + match batch.defect with
    | some (.overlong ..) => 1
    | _ => 0)
  let indices ← batch.indicesInWords
  let tally ← indices.foldlM Tally.stepInWords (.start cycle.accumulator)
  let cells ← cycle.settings.grid.cellsInWords
  let countdown ← difference cycle.countdown 1
  let messages ← fit word64Max (message + 1)
  let records ← fit word64Max (counters.records + batch.records)
  let hits ← fit word64Max (counters.hits + tally.accumulated)
  let dropped ← fit word64Max (counters.dropped + tally.dropped)
  let openMessages ← fit word32Max (cycle.openMessages + 1)
  let openDropped ← fit word64Max (cycle.openDropped + tally.dropped)
  let defective := batch.defect.toList.map (Notice.defective message)
  let outside := tally.firstOutside.toList.map fun first =>
    Notice.dropped message tally.dropped first cells
  let counted := Notice.counted message batch.records tally.accumulated cycle.window countdown
  return (
    { records := batch.records
      accumulated := tally.accumulated
      dropped := tally.dropped
      defect := batch.defect
      emitted := countdown = 0 },
    { cycle with
      accumulator := tally.accumulator
      countdown := countdown
      openMessages := openMessages
      openDropped := openDropped
      counters :=
        { counters with
          messages := messages
          records := records
          hits := hits
          dropped := dropped
          truncated := truncated
          overlong := overlong } },
    defective ++ outside ++ [counted])

/-- Start the next window after a snapshot was handed over. -/
def advanceInWords (cycle : WindowCycle) (taken : Bool) : Except WordFault WindowCycle := do
  let window ← fit word64Max (cycle.window + 1)
  let snapshots ← fit word64Max (cycle.counters.snapshots + 1)
  let failedDeliveries ←
    fit word64Max (cycle.counters.failedDeliveries + if taken then 0 else 1)
  return { cycle with
    accumulator := cycle.accumulator.clear
    phase := .accumulating
    countdown := cycle.settings.period
    window := window
    openMessages := 0
    openDropped := 0
    counters :=
      { cycle.counters with
        snapshots := snapshots
        failedDeliveries := failedDeliveries } }

/-- Hand the current window to the sink and start the next one, whatever the sink does. -/
def emitInWords (sink : Sink Sunk) (isPartial : Bool) (cycle : WindowCycle) (sunk : Sunk) :
    Except WordFault (Stepped Unit Sunk) := do
  let emitting := { cycle with phase := .emitting }
  let snapshot := emitting.snapshot isPartial
  let delivery := sink snapshot sunk
  let (taken, notice) : Bool × Notice := match delivery.outcome with
    | .ok () =>
        (true, .delivered snapshot.window snapshot.messages snapshot.hits isPartial)
    | .error error => (false, .undelivered snapshot.window error)
  let advanced ← emitting.advanceInWords taken
  return {
    result := ()
    cycle := advanced
    sink := delivery.state
    notices := delivery.notices ++ [notice] }

/-- Count one message, and close the window when the message completes its period. -/
def receiveInWords (sink : Sink Sunk) (payload : List UInt8) (cycle : WindowCycle) (sunk : Sunk) :
    Except WordFault (Stepped Receipt Sunk) := do
  let (receipt, counted, notices) ← cycle.countInWords payload
  if receipt.emitted then
    let closed ← counted.emitInWords sink false sunk
    return ⟨receipt, closed.cycle, closed.sink, notices ++ closed.notices⟩
  else
    return ⟨receipt, counted, sunk, notices⟩

/-- Close the current window early if it holds a message, and say whether it did. -/
def flushInWords (sink : Sink Sunk) (cycle : WindowCycle) (sunk : Sunk) :
    Except WordFault (Stepped Bool Sunk) := do
  if cycle.openMessages = 0 then
    return ⟨false, cycle, sunk, []⟩
  else
    let closed ← cycle.emitInWords sink true sunk
    return ⟨true, closed.cycle, closed.sink, closed.notices⟩

/-- Count a poll that found nothing. -/
def idleInWords (cycle : WindowCycle) : Except WordFault WindowCycle := do
  let idlePolls ← fit word64Max (cycle.counters.idlePolls + 1)
  return { cycle with counters := { cycle.counters with idlePolls := idlePolls } }

end WindowCycle

namespace CycleEvent

/-- The cycle and the sink after an event. -/
def applyInWords : CycleEvent Sunk → WindowCycle → Sunk → Except WordFault (WindowCycle × Sunk)
  | .message payload sink, cycle, sunk => do
      let stepped ← cycle.receiveInWords sink payload sunk
      return (stepped.cycle, stepped.sink)
  | .flush sink, cycle, sunk => do
      let stepped ← cycle.flushInWords sink sunk
      return (stepped.cycle, stepped.sink)
  | .idle, cycle, sunk => do
      let cycle ← cycle.idleInWords
      return (cycle, sunk)

/-- The cycle and the sink after some events, first one first. -/
def playInWords : List (CycleEvent Sunk) → WindowCycle → Sunk →
    Except WordFault (WindowCycle × Sunk)
  | [], cycle, sunk => return (cycle, sunk)
  | event :: events, cycle, sunk => do
      let (cycle, sunk) ← event.applyInWords cycle sunk
      playInWords events cycle sunk

end CycleEvent

/-! ## Counters that fit -/

namespace LifetimeCounters

/-- No counter is larger than that of the other. -/
structure AtMost (left right : LifetimeCounters) : Prop where
  messages : left.messages ≤ right.messages
  records : left.records ≤ right.records
  hits : left.hits ≤ right.hits
  dropped : left.dropped ≤ right.dropped
  truncated : left.truncated ≤ right.truncated
  overlong : left.overlong ≤ right.overlong
  idlePolls : left.idlePolls ≤ right.idlePolls
  snapshots : left.snapshots ≤ right.snapshots
  failedDeliveries : left.failedDeliveries ≤ right.failedDeliveries

/-- The same number in each counter. -/
def uniform (number : Nat) : LifetimeCounters :=
  ⟨number, number, number, number, number, number, number, number, number⟩

/-- Every counter fits a 64-bit word. -/
def Fit (counters : LifetimeCounters) : Prop := counters.AtMost (uniform word64Max)

theorem AtMost.refl (counters : LifetimeCounters) : counters.AtMost counters := by
  constructor <;> exact Nat.le_refl _

theorem AtMost.trans {first second third : LifetimeCounters} (left : first.AtMost second)
    (right : second.AtMost third) : first.AtMost third where
  messages := Nat.le_trans left.messages right.messages
  records := Nat.le_trans left.records right.records
  hits := Nat.le_trans left.hits right.hits
  dropped := Nat.le_trans left.dropped right.dropped
  truncated := Nat.le_trans left.truncated right.truncated
  overlong := Nat.le_trans left.overlong right.overlong
  idlePolls := Nat.le_trans left.idlePolls right.idlePolls
  snapshots := Nat.le_trans left.snapshots right.snapshots
  failedDeliveries := Nat.le_trans left.failedDeliveries right.failedDeliveries

end LifetimeCounters

namespace WindowCycle

theorem counters_le_count (cycle : WindowCycle) (payload : List UInt8) :
    cycle.counters.AtMost (cycle.count payload).2.1.counters := by
  constructor <;> simp only [count] <;> omega

theorem counters_le_advance (cycle : WindowCycle) (taken : Bool) :
    cycle.counters.AtMost (cycle.advance taken).counters := by
  constructor <;> simp only [advance] <;> omega

theorem counters_le_idle (cycle : WindowCycle) (polls : Nat) :
    cycle.counters.AtMost (cycle.idle polls).counters := by
  constructor <;> simp only [idle] <;> omega

end WindowCycle

namespace Session

/-- No event takes anything from a counter. -/
theorem counters_le_step (session : Session Sunk) (event : CycleEvent Sunk) :
    session.cycle.counters.AtMost (session.step event).cycle.counters := by
  cases event with
  | message payload sink =>
      have counted := session.cycle.counters_le_count payload
      rw [step_message]
      simp only
      split
      next => exact counted.trans (WindowCycle.counters_le_advance ..)
      next => exact counted
  | flush sink =>
      rw [step_flush]
      split
      next => exact .refl _
      next => exact WindowCycle.counters_le_advance ..
  | idle =>
      rw [step_idle]
      exact WindowCycle.counters_le_idle ..

theorem counters_le_play (session : Session Sunk) (events : List (CycleEvent Sunk)) :
    session.cycle.counters.AtMost (session.play events).cycle.counters := by
  induction events generalizing session with
  | nil => exact .refl _
  | cons event events ih => exact (session.counters_le_step event).trans (ih (session.step event))

end Session

/-! ## Cycles that cannot fail -/

namespace WindowCycle

/-- What a caller finds between two steps.  The window is open, its countdown and its messages make
up the period, and nothing in it is missing from the lifetime counters. -/
structure Steady (cycle : WindowCycle) (settings : MonitorSettings) : Prop where
  settings_eq : cycle.settings = settings
  phase : cycle.phase = .accumulating
  countdown_pos : 1 ≤ cycle.countdown
  countdown_add : cycle.countdown + cycle.openMessages = settings.period
  covered : cycle.accumulator.Covered
  hits_le : cycle.accumulator.hits ≤ cycle.counters.hits
  dropped_le : cycle.openDropped ≤ cycle.counters.dropped
  records_eq : cycle.counters.records = cycle.counters.hits + cycle.counters.dropped
  window_eq : cycle.counters.snapshots = cycle.window

/-- A session leaves its cycle like that: the open window holds a block of messages that is shorter
than the period, and what it has counted is part of the lifetime counters. -/
theorem steady_of_covers {session : Session Sunk} {settings : MonitorSettings}
    {blocks : List (List (List UInt8))} {opened : List (List UInt8)}
    (covers : session.Covers settings blocks opened)
    (balances : session.cycle.Balances session.emissions) : session.cycle.Steady settings := by
  obtain ⟨_, holds, isOpen⟩ := covers
  have content := holds.content false
  have countdown := holds.countdown
  have messages : session.cycle.openMessages = opened.length := content.messages
  exact
    { settings_eq := holds.settings_eq
      phase := holds.phase
      countdown_pos := by omega
      countdown_add := by rw [messages, countdown]
      covered := ⟨_, content.planes, (settings.grid.length_hits _).trans content.hits.symm⟩
      hits_le := balances.hits ▸ Nat.le_add_left ..
      dropped_le := balances.dropped ▸ Nat.le_add_left ..
      records_eq := balances.records
      window_eq := balances.snapshots }

namespace Steady

variable {cycle : WindowCycle} {settings : MonitorSettings}

/-- The records of a message can be counted, if the records of all messages can. -/
theorem hasRoom (steady : cycle.Steady settings) {records : Nat}
    (fits : cycle.counters.records + records ≤ word64Max) :
    (Tally.start cycle.accumulator).HasRoom records := by
  obtain ⟨_, _, _, _, covered, hits_le, _, records_eq, _⟩ := steady
  refine ⟨covered, ?_, ?_⟩
  · change cycle.accumulator.hits + records ≤ word64Max
    omega
  · change 0 + 0 + records ≤ word64Max
    omega

theorem countInWords_eq_ok (steady : cycle.Steady settings) (valid : settings.validate = .ok ())
    (words : settings.InWords) {payload : List UInt8} (addressable : payload.length < 2 ^ 63)
    (fits : (cycle.count payload).2.1.counters.Fit) :
    cycle.countInWords payload = .ok (cycle.count payload) := by
  obtain ⟨_, _, _, _, layout⟩ := MonitorSettings.validate_eq_ok_iff.mp valid
  obtain rfl := steady.settings_eq
  let batch := cycle.reader.read payload
  let tally := batch.indices.foldl Tally.step (.start cycle.accumulator)
  have read : cycle.reader.readInWords payload = .ok batch :=
    RecordReader.readInWords_eq_ok layout.1 words.stride addressable
  have indices : batch.indicesInWords = .ok batch.indices :=
    RecordBatch.indicesInWords_eq_ok layout words.stride
      (RecordReader.size_bytes_read cycle.reader payload)
  have counted : batch.indices.foldlM Tally.stepInWords (.start cycle.accumulator) = .ok tally :=
    Tally.foldlM_stepInWords (batch.length_indices ▸ steady.hasRoom fits.records)
  have truncated : cycle.counters.truncated + (match batch.defect with
      | some (.truncated ..) => 1
      | _ => 0) ≤ word64Max := fits.truncated
  have overlong : cycle.counters.overlong + (match batch.defect with
      | some (.overlong ..) => 1
      | _ => 0) ≤ word64Max := fits.overlong
  have messages : cycle.counters.messages + 1 ≤ word64Max := fits.messages
  have records : cycle.counters.records + batch.records ≤ word64Max := fits.records
  have hits : cycle.counters.hits + tally.accumulated ≤ word64Max := fits.hits
  have dropped : cycle.counters.dropped + tally.dropped ≤ word64Max := fits.dropped
  have openMessages : cycle.openMessages + 1 ≤ word32Max := by
    have countdown_pos := steady.countdown_pos
    have countdown_add := steady.countdown_add
    have period := words.period
    omega
  have openDropped : cycle.openDropped + tally.dropped ≤ word64Max :=
    Nat.le_trans (Nat.add_le_add_right steady.dropped_le _) dropped
  simp only [countInWords, read, fit_eq_ok truncated, fit_eq_ok overlong, indices, counted,
    Grid.cellsInWords_eq_ok, difference_eq_ok steady.countdown_pos, fit_eq_ok messages,
    fit_eq_ok records, fit_eq_ok hits, fit_eq_ok dropped, fit_eq_ok openMessages,
    fit_eq_ok openDropped, ok_bind]
  rfl

end Steady

/-- The next window has a number, since the snapshots are counted as well. -/
theorem emitInWords_eq_ok (sink : Sink Sunk) (isPartial : Bool) {cycle : WindowCycle}
    (window_eq : cycle.counters.snapshots = cycle.window) (sunk : Sunk)
    (fits : (cycle.emit sink isPartial sunk).cycle.counters.Fit) :
    cycle.emitInWords sink isPartial sunk = .ok (cycle.emit sink isPartial sunk) := by
  have advanced (taken : Bool) (fits : (cycle.advance taken).counters.Fit) :
      { cycle with phase := .emitting }.advanceInWords taken = .ok (cycle.advance taken) := by
    have window : cycle.window + 1 ≤ word64Max := window_eq ▸ fits.snapshots
    have snapshots : cycle.counters.snapshots + 1 ≤ word64Max := fits.snapshots
    have failures : cycle.counters.failedDeliveries + (if taken then 0 else 1) ≤ word64Max :=
      fits.failedDeliveries
    simp only [advanceInWords, fit_eq_ok window, fit_eq_ok snapshots, fit_eq_ok failures, ok_bind]
    rfl
  have handed : { cycle with phase := .emitting }.snapshot isPartial = cycle.snapshot isPartial :=
    rfl
  rw [cycle_emit] at fits
  unfold emitInWords emit
  simp only [handed]
  cases outcome : (sink (cycle.snapshot isPartial) sunk).outcome with
  | ok =>
      rw [outcome] at fits
      simp only [advanced true fits, ok_bind, pure_eq_ok]
      rfl
  | error =>
      rw [outcome] at fits
      simp only [advanced false fits, ok_bind, pure_eq_ok]
      rfl

end WindowCycle

/-! ## Events and requests -/

namespace CycleEvent

variable {cycle : WindowCycle} {settings : MonitorSettings}

/-- Between two steps every event can happen. -/
theorem applyInWords_eq_ok (steady : cycle.Steady settings) (valid : settings.validate = .ok ())
    (words : settings.InWords) (event : CycleEvent Sunk) (sunk : Sunk)
    (addressable : ∀ payload ∈ event.payload?, payload.length < 2 ^ 63)
    (fits : (event.apply cycle sunk).1.counters.Fit) :
    event.applyInWords cycle sunk = .ok (event.apply cycle sunk) := by
  cases event with
  | message payload sink =>
      have short : payload.length < 2 ^ 63 := addressable payload rfl
      have window_eq : (cycle.count payload).2.1.counters.snapshots =
          (cycle.count payload).2.1.window := steady.window_eq
      simp only [apply, WindowCycle.receive] at fits
      simp only [applyInWords, WindowCycle.receiveInWords, apply, WindowCycle.receive]
      by_cases emitted : (cycle.count payload).1.emitted
      · simp only [emitted, if_true] at fits ⊢
        have counted : (cycle.count payload).2.1.counters.Fit := by
          refine LifetimeCounters.AtMost.trans ?_ fits
          rw [WindowCycle.cycle_emit]
          exact WindowCycle.counters_le_advance ..
        simp only [steady.countInWords_eq_ok valid words short counted, ok_bind, emitted, if_true,
          WindowCycle.emitInWords_eq_ok sink false window_eq sunk fits, pure_eq_ok]
      · simp only [emitted, Bool.false_eq_true, if_false] at fits ⊢
        simp only [steady.countInWords_eq_ok valid words short fits, ok_bind, emitted,
          Bool.false_eq_true, if_false, pure_eq_ok]
  | flush sink =>
      simp only [apply, WindowCycle.flush] at fits
      simp only [applyInWords, WindowCycle.flushInWords, apply, WindowCycle.flush]
      by_cases blank : cycle.openMessages = 0
      · simp only [blank, if_true, pure_eq_ok, ok_bind]
      · simp only [blank, if_false] at fits ⊢
        simp only [WindowCycle.emitInWords_eq_ok sink true steady.window_eq sunk fits, ok_bind,
          pure_eq_ok]
  | idle =>
      have polls : cycle.counters.idlePolls + 1 ≤ word64Max := fits.idlePolls
      rw [applyInWords, WindowCycle.idleInWords, fit_eq_ok polls]
      rfl

end CycleEvent

namespace Journal

variable {settings : MonitorSettings} {journal : Journal Sunk}

/-- A journal whose counters balance and whose snapshots cover its messages. -/
structure Sound (journal : Journal Sunk) (settings : MonitorSettings) : Prop where
  conserves : journal.Conserves
  covers : ∃ blocks opened, journal.toSession.Covers settings blocks opened

namespace Sound

theorem blank (valid : settings.validate = .ok ()) (sunk : Sunk) :
    (blank (.fresh settings) sunk).Sound settings where
  conserves := conserves_blank settings sunk
  covers := ⟨[], [], Session.covers_fresh valid sunk⟩

theorem step (sound : journal.Sound settings) (event : CycleEvent Sunk) :
    (journal.step event).Sound settings := by
  obtain ⟨conserves, blocks, opened, covers⟩ := sound
  obtain ⟨nextBlocks, nextOpened, nextCovers, _⟩ := covers.step event
  exact ⟨conserves.step event, nextBlocks, nextOpened, nextCovers⟩

theorem steady (sound : journal.Sound settings) : journal.cycle.Steady settings := by
  obtain ⟨conserves, _, _, covers⟩ := sound
  exact WindowCycle.steady_of_covers covers conserves.balances

/-- No event stops, as long as the counters fit behind the last one. -/
theorem playInWords_eq_ok (sound : journal.Sound settings) (valid : settings.validate = .ok ())
    (words : settings.InWords) (events : List (CycleEvent Sunk))
    (addressable : ∀ payload ∈ events.filterMap CycleEvent.payload?, payload.length < 2 ^ 63)
    (fits : (journal.play events).cycle.counters.Fit) :
    CycleEvent.playInWords events journal.cycle journal.sink =
      .ok ((journal.play events).cycle, (journal.play events).sink) := by
  induction events generalizing journal with
  | nil => rfl
  | cons event events ih =>
      rw [CycleEvent.filterMap_payload?_cons] at addressable
      have stepFits : (event.apply journal.cycle journal.sink).1.counters.Fit := by
        have later := (journal.step event).toSession.counters_le_play events
        rw [← toSession_play] at later
        exact later.trans fits
      have applied := CycleEvent.applyInWords_eq_ok sound.steady valid words event journal.sink
        (fun payload brought => addressable payload
          (List.mem_append_left _ (Option.mem_toList.mpr brought))) stepFits
      rw [CycleEvent.playInWords, applied, ok_bind]
      exact ih (sound.step event)
        (fun payload later => addressable payload (List.mem_append_right _ later)) fits

end Sound

/-- Settings that pass validation, as all settings from documents do, cannot make a monitor fail.
Its reader and its cycle can be made, callers always find the window open with the rest of its
period in front of it, and whatever they ask for is carried out in machine words, as long as the
lifetime counters fit theirs. -/
theorem valid_settings_never_fail :
    (∀ document settings, MonitorSettings.ofText document = .ok settings →
      settings.validate = .ok () ∧ settings.InWords) ∧
    (∀ tree path settings, MonitorSettings.load tree path = .ok settings →
      settings.validate = .ok () ∧ settings.InWords) ∧
    ∀ settings : MonitorSettings, settings.validate = .ok () → settings.InWords →
      ∃ cycle, WindowCycle.new settings = .ok cycle ∧ settings.reader = .ok cycle.reader ∧
        ∀ (Sunk : Type) (sunk : Sunk) (requests : List (CycleRequest × Sink Sunk)),
          let events := requests.flatMap fun (request, sink) =>
            request.events settings.pollWaitMs sink
          let final := (blank cycle sunk).serveAll requests
          1 ≤ final.cycle.countdown ∧ final.cycle.countdown ≤ settings.period ∧
            final.cycle.countdown + final.cycle.openMessages = settings.period ∧
            final.cycle.phase = .accumulating ∧
            ((∀ payload ∈ events.filterMap CycleEvent.payload?, payload.length < 2 ^ 63) →
              final.cycle.counters.Fit →
                CycleEvent.playInWords events cycle sunk = .ok (final.cycle, final.sink)) := by
  refine ⟨fun _ _ => MonitorSettings.valid_of_ofDocumentBytes,
    fun _ _ _ => MonitorSettings.valid_of_load, fun settings valid words => ?_⟩
  refine ⟨.fresh settings, WindowCycle.new_eq_ok_iff.mpr ⟨valid, rfl⟩,
    MonitorSettings.reader_eq_ok valid, ?_⟩
  intro Sunk sunk requests events final
  have start := Sound.blank valid sunk
  have keeps (journal : Journal Sunk) (event : CycleEvent Sunk) (before : journal.Sound settings) :
      (journal.step event).Sound settings := before.step event
  have sound : final.Sound settings := serveAll_of_step keeps start requests
  have steady := sound.steady
  have countdown_add := steady.countdown_add
  refine ⟨steady.countdown_pos, by omega, countdown_add, steady.phase, fun addressable fits => ?_⟩
  have played : final = (blank (.fresh settings) sunk).play events := serveAll_eq_play ..
  rw [played] at fits ⊢
  exact start.playInWords_eq_ok valid words events addressable fits

/-- Windows of two messages.  The first one is closed by its second message and the next one by a
flush. -/
theorem valid_settings_never_fail_flushed :
    let settings := { MonitorSettings.standard with period := 2, recordsExpected := none }
    let message : List UInt8 := [0, 0, 0, 0, 7, 0, 0, 0, 0, 0, 0, 0]
    let requests : List (CycleRequest × Sink (List Snapshot)) :=
      [(.receive message, Sink.collecting), (.receive [1], Sink.collecting),
        (.receive message, Sink.collecting), (.flush, Sink.collecting)]
    let events := requests.flatMap fun (request, sink) =>
      request.events settings.pollWaitMs sink
    let final := (blank (.fresh settings) []).serveAll requests
    final.cycle.countdown = 2 ∧
      CycleEvent.playInWords events (.fresh settings) [] = .ok (final.cycle, final.sink) := by
  intro settings message requests events final
  have words : settings.InWords :=
    { MonitorSettings.standard_inWords with
      recordsExpected := fun _ expected => by cases expected
      period := by decide }
  obtain ⟨cycle, accepted, _, serves⟩ := valid_settings_never_fail.2.2 settings rfl words
  obtain ⟨_, rfl⟩ := WindowCycle.new_eq_ok_iff.mp accepted
  obtain ⟨_, _, _, _, carriedOut⟩ := serves (List Snapshot) [] requests
  exact ⟨rfl, carriedOut (by decide) (by constructor <;> decide)⟩

end Journal

end HitMonitor
