import HitMonitor.Monitor.Source

/-!
# Issued polls

The polls that a run issues depend on the source and the stop signal alone.  `Source.issued` lists
them; an observer in front of the source takes down the same list.
-/

namespace HitMonitor

/-- The message a poll brings. -/
def Poll.message? : Poll → Option (List UInt8)
  | .message payload => some payload
  | .empty | .closed => none

theorem Poll.filterMap_message?_cons (outcome : Poll) (outcomes : List Poll) :
    (outcome :: outcomes).filterMap Poll.message? =
      outcome.message?.toList ++ outcomes.filterMap Poll.message? := by
  cases outcome <;> rfl

namespace Source

variable {Fed : Type}

/-- A source behind an observer that takes down each poll. -/
def recorded (source : Source Fed) : Source (Fed × List (Polled Fed)) where
  poll timeoutMs fed :=
    let polled := source.poll timeoutMs fed.1
    { outcome := polled.outcome
      state := (polled.state, fed.2 ++ [polled])
      requestsStop := polled.requestsStop
      notices := polled.notices }
  pending fed := source.pending fed.1
  pending_lt timeoutMs fed := source.pending_lt timeoutMs fed.1

/-- Polls one after the other until the stop signal is found raised or the source closes. -/
def issued (source : Source Fed) (timeoutMs : Nat) : (stopRequested : Bool) → Fed →
    List (Polled Fed)
  | true, _ => []
  | false, fed =>
      let polled := source.poll timeoutMs fed
      if _ : polled.outcome = .closed then [polled]
      else polled :: source.issued timeoutMs polled.requestsStop polled.state
termination_by _ fed => source.pending fed
decreasing_by exact source.pending_lt timeoutMs fed ‹_›

/-- The state of a source after some polls. -/
def stateAfter (fed : Fed) (polls : List (Polled Fed)) : Fed :=
  polls.foldl (fun _ polled => polled.state) fed

theorem issued_of_stop (source : Source Fed) (timeoutMs : Nat) (fed : Fed) :
    source.issued timeoutMs true fed = [] := by
  rw [issued]

theorem issued_of_closed {source : Source Fed} {timeoutMs : Nat} {fed : Fed}
    (closed : (source.poll timeoutMs fed).outcome = .closed) :
    source.issued timeoutMs false fed = [source.poll timeoutMs fed] := by
  rw [issued]
  simp [closed]

theorem issued_of_open {source : Source Fed} {timeoutMs : Nat} {fed : Fed}
    (isOpen : (source.poll timeoutMs fed).outcome ≠ .closed) :
    source.issued timeoutMs false fed =
      source.poll timeoutMs fed :: source.issued timeoutMs
        (source.poll timeoutMs fed).requestsStop (source.poll timeoutMs fed).state := by
  rw [issued]
  simp [isOpen]

/-- Whether the stop signal is raised after some polls. -/
def signalAfter (stopRequested : Bool) (polls : List (Polled Fed)) : Bool :=
  stopRequested || polls.any (·.requestsStop)

@[simp] theorem signalAfter_nil (stopRequested : Bool) :
    signalAfter stopRequested ([] : List (Polled Fed)) = stopRequested := Bool.or_false _

@[simp] theorem signalAfter_cons (polled : Polled Fed) (polls : List (Polled Fed)) :
    signalAfter false (polled :: polls) = signalAfter polled.requestsStop polls := by
  rw [signalAfter, signalAfter, Bool.false_or, List.any_cons]

/-- A poll is issued only while the signal is down. -/
theorem signal_down_of_issued (source : Source Fed) (timeoutMs : Nat) (stopRequested : Bool)
    (fed : Fed) (index : Nat)
    (issued : index < (source.issued timeoutMs stopRequested fed).length) :
    signalAfter stopRequested ((source.issued timeoutMs stopRequested fed).take index) = false := by
  fun_induction source.issued timeoutMs stopRequested fed generalizing index with
  | case1 => exact absurd issued (Nat.not_lt_zero _)
  | case2 fed polled closed =>
      have first : index = 0 := Nat.lt_one_iff.mp issued
      subst first
      rfl
  | case3 fed polled isOpen ih =>
      cases index with
      | zero => rfl
      | succ index =>
          rw [List.take_succ_cons, signalAfter_cons]
          exact ih index (Nat.lt_of_succ_lt_succ issued)

/-- A source is not polled again once it has closed. -/
theorem open_before_last (source : Source Fed) (timeoutMs : Nat) (stopRequested : Bool)
    (fed : Fed) :
    .closed ∉ ((source.issued timeoutMs stopRequested fed).map Polled.outcome).dropLast := by
  fun_induction source.issued timeoutMs stopRequested fed with
  | case1 => simp
  | case2 => simp
  | case3 fed polled isOpen ih =>
      rw [List.map_cons]
      cases later : (source.issued timeoutMs polled.requestsStop polled.state).map
          Polled.outcome with
      | nil => simp
      | cons outcome outcomes =>
          rw [later] at ih
          rw [List.dropLast_cons_of_ne_nil (List.cons_ne_nil _ _), List.mem_cons, not_or]
          exact ⟨fun closed => isOpen closed.symm, ih⟩

/-- Polling ends only with a closed source or a raised signal. -/
theorem signal_up_of_not_closed (source : Source Fed) (timeoutMs : Nat) (stopRequested : Bool)
    (fed : Fed)
    (isOpen : .closed ∉ (source.issued timeoutMs stopRequested fed).map Polled.outcome) :
    signalAfter stopRequested (source.issued timeoutMs stopRequested fed) = true := by
  fun_induction source.issued timeoutMs stopRequested fed with
  | case1 => rfl
  | case2 fed polled closed => simp [closed] at isOpen
  | case3 fed polled notClosed ih =>
      rw [List.map_cons, List.mem_cons, not_or] at isOpen
      rw [signalAfter_cons]
      exact ih isOpen.2

/-! ## Observed sources -/

/-- The observer takes down each poll that is issued, and nothing else is different. -/
theorem issued_recorded (source : Source Fed) (timeoutMs : Nat) (stopRequested : Bool) (fed : Fed)
    (log : List (Polled Fed)) :
    let polls := source.issued timeoutMs stopRequested fed
    let observed := source.recorded.issued timeoutMs stopRequested (fed, log)
    observed.map Polled.outcome = polls.map Polled.outcome ∧
      signalAfter stopRequested observed = signalAfter stopRequested polls ∧
      stateAfter (fed, log) observed = (stateAfter fed polls, log ++ polls) := by
  fun_induction source.issued timeoutMs stopRequested fed generalizing log with
  | case1 fed => simp [issued_of_stop, stateAfter]
  | case2 fed polled closed =>
      have observed : (source.recorded.poll timeoutMs (fed, log)).outcome = .closed := closed
      rw [issued_of_closed observed]
      exact ⟨rfl, rfl, rfl⟩
  | case3 fed polled isOpen ih =>
      have observed : (source.recorded.poll timeoutMs (fed, log)).outcome ≠ .closed := isOpen
      obtain ⟨outcomes, signal, state⟩ := ih (log ++ [polled])
      rw [List.append_assoc] at state
      rw [issued_of_open observed]
      refine ⟨congrArg (polled.outcome :: ·) outcomes, ?_, state⟩
      rw [signalAfter_cons, signalAfter_cons]
      exact signal

end Source

end HitMonitor
