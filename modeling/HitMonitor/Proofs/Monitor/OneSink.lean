import HitMonitor.Proofs.Monitor.Journal

/-!
# Histories with one sink

When every request brings the same sink, the sink is handed the snapshots of the history one after
the other and nothing else happens to it.  So what each snapshot keeps of a sink holds at the end of
the history, for the snapshots that were handed over and the answers that the sink gave.
-/

namespace HitMonitor

variable {Sunk : Type} {sink : Sink Sunk} {Keeps : List Emission → Sunk → Prop}

/-- An event hands snapshots to the given sink only. -/
inductive CycleEvent.HandsTo (sink : Sink Sunk) : CycleEvent Sunk → Prop where
  | message (payload : List UInt8) : HandsTo sink (.message payload sink)
  | flush : HandsTo sink (.flush sink)
  | idle : HandsTo sink .idle

theorem CycleRequest.handsTo_of_mem_events {pollWaitMs : Nat} {request : CycleRequest}
    {event : CycleEvent Sunk} (member : event ∈ request.events pollWaitMs sink) :
    event.HandsTo sink := by
  cases request with
  | receive payload =>
      rw [List.mem_singleton.mp member]
      exact .message payload
  | flush =>
      rw [List.mem_singleton.mp member]
      exact .flush
  | run source fed stopRequested =>
      obtain ⟨outcome, _, brings⟩ := List.mem_filterMap.mp member
      cases outcome with
      | message payload =>
          cases brings
          exact .message payload
      | empty =>
          cases brings
          exact .idle
      | closed => cases brings

/-- What a sink keeps when it is handed a snapshot, with its answer written down. -/
def Sink.Preserves (sink : Sink Sunk) (Keeps : List Emission → Sunk → Prop) : Prop :=
  ∀ emissions sunk trigger snapshot, Keeps emissions sunk →
    Keeps (emissions ++ [⟨trigger, snapshot, (sink snapshot sunk).outcome⟩])
      (sink snapshot sunk).state

namespace Session

theorem keeps_step (preserves : sink.Preserves Keeps) (session : Session Sunk)
    {event : CycleEvent Sunk} (handsTo : event.HandsTo sink)
    (start : Keeps session.emissions session.sink) :
    Keeps (session.step event).emissions (session.step event).sink := by
  cases handsTo with
  | message payload =>
      rw [step_message]
      simp only
      split
      next => exact preserves _ _ _ _ start
      next => exact start
  | flush =>
      rw [step_flush]
      split
      next => exact start
      next => exact preserves _ _ _ _ start
  | idle =>
      rw [step_idle]
      exact start

theorem keeps_play (preserves : sink.Preserves Keeps) (session : Session Sunk)
    {events : List (CycleEvent Sunk)} (handTo : ∀ event ∈ events, event.HandsTo sink)
    (start : Keeps session.emissions session.sink) :
    Keeps (session.play events).emissions (session.play events).sink := by
  induction events generalizing session with
  | nil => exact start
  | cons event events ih =>
      rw [List.forall_mem_cons] at handTo
      exact ih (session.step event) handTo.2 (session.keeps_step preserves handTo.1 start)

end Session

namespace Journal

/-- What a sink keeps with each snapshot holds after all requests. -/
theorem keeps_serveAll (preserves : sink.Preserves Keeps) {journal : Journal Sunk}
    (start : Keeps journal.emissions journal.sink) (requests : List CycleRequest) :
    let served := journal.serveAll (requests.map (·, sink))
    Keeps served.emissions served.sink := by
  intro served
  rw [show served = _ from journal.serveAll_eq_play (requests.map (·, sink)), toSession_play]
  apply journal.toSession.keeps_play preserves _ start
  intro event member
  rw [List.flatMap_map, List.mem_flatMap] at member
  obtain ⟨request, _, issued⟩ := member
  exact request.handsTo_of_mem_events issued

/-- A sink that collects snapshots has all that were handed over. -/
theorem sink_serveAll_collecting (cycle : WindowCycle) (requests : List CycleRequest) :
    let served := (blank cycle []).serveAll (requests.map (·, Sink.collecting))
    served.sink = served.emissions.map (·.snapshot) := by
  have preserves : Sink.collecting.Preserves fun emissions taken =>
      taken = emissions.map (·.snapshot) := by
    intro emissions taken trigger snapshot collected
    rw [List.map_append, ← collected]
    rfl
  exact keeps_serveAll preserves rfl requests

end Journal

end HitMonitor
