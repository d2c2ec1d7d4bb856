import HitMonitor.Monitor.Notice

/-!
# Message sources

A source is polled for one message at a time.  A poll brings a message, brings nothing within its
timeout, or reports that no message will come any more.  Each source here closes after finitely many
polls, and says by a number that falls with each poll how many are left at most.
-/

namespace HitMonitor

/-- Outcome of one poll. -/
inductive Poll where
  | message (payload : List UInt8)
  /-- Nothing arrived within the timeout. -/
  | empty
  /-- No message will come any more. -/
  | closed
  deriving DecidableEq, Repr

/-- A poll and its side effects. -/
structure Polled (State : Type) where
  outcome : Poll
  state : State
  /-- Whether the stop signal was raised while the poll lasted. -/
  requestsStop : Bool := false
  notices : List Notice := []

/-- Anything that hands over messages. -/
structure Source (State : Type) where
  /-- Wait for the next message, at most the given number of milliseconds. -/
  poll : (timeoutMs : Nat) → State → Polled State
  /-- An upper bound on the polls before the source closes. -/
  pending : State → Nat
  pending_lt : ∀ timeoutMs state, (poll timeoutMs state).outcome ≠ .closed →
    pending (poll timeoutMs state).state < pending state

namespace Source

/-- Ready-made messages, handed over without waiting. -/
def queue : Source (List (List UInt8)) where
  poll _
    | [] => { outcome := .closed, state := [] }
    | payload :: rest => { outcome := .message payload, state := rest }
  pending := List.length
  pending_lt _ messages isOpen := by
    cases messages <;> simp_all

end Source

/-- One event of a scripted source. -/
inductive ScriptEvent where
  | message (payload : List UInt8)
  | empty
  | closed
  /-- The stop signal is raised and nothing arrives. -/
  | stop
  /-- The stop signal is raised and a message arrives. -/
  | stopWithMessage (payload : List UInt8)
  deriving DecidableEq, Repr

namespace ScriptEvent

def outcome : ScriptEvent → Poll
  | .message payload | .stopWithMessage payload => .message payload
  | .empty | .stop => .empty
  | .closed => .closed

def requestsStop : ScriptEvent → Bool
  | .stop | .stopWithMessage _ => true
  | .message _ | .empty | .closed => false

end ScriptEvent

/-- A source whose polls follow a list of events, closed after the last one. -/
def Source.script : Source (List ScriptEvent) where
  poll _
    | [] => { outcome := .closed, state := [] }
    | event :: rest =>
        { outcome := event.outcome, state := rest, requestsStop := event.requestsStop }
  pending := List.length
  pending_lt _ events isOpen := by
    cases events <;> simp_all

/-- A bounded queue fed by any number of senders. -/
structure MessageChannel where
  bound : Nat
  senders : Nat
  queue : List (List UInt8)
  deriving DecidableEq, Repr

/-- What became of a message that was sent without waiting. -/
inductive Sent where
  | sent
  | full
  | noSender
  deriving DecidableEq, Repr

namespace MessageChannel

/-- A channel with one sender. -/
def opened (bound : Nat) : MessageChannel := ⟨bound, 1, []⟩

/-- A channel that has been filled and left by its senders. -/
def filled (messages : List (List UInt8)) : MessageChannel := ⟨messages.length, 0, messages⟩

/-- Send a message without waiting.  A channel of bound zero only passes a message on to a receiver
that is already waiting, so sending fails. -/
def send (channel : MessageChannel) (payload : List UInt8) : Sent × MessageChannel :=
  if channel.senders = 0 then (.noSender, channel)
  else if channel.queue.length < channel.bound then
    (.sent, { channel with queue := channel.queue ++ [payload] })
  else (.full, channel)

/-- Add a sender next to an existing one. -/
def addSender (channel : MessageChannel) : MessageChannel :=
  if channel.senders = 0 then channel else { channel with senders := channel.senders + 1 }

def dropSender (channel : MessageChannel) : MessageChannel :=
  { channel with senders := channel.senders - 1 }

/-- Take the oldest message.  What is queued is handed over even after the last sender has left. -/
def poll (channel : MessageChannel) : Poll × MessageChannel :=
  match channel.queue with
  | payload :: rest => (.message payload, { channel with queue := rest })
  | [] => (if channel.senders = 0 then .closed else .empty, channel)

end MessageChannel

/-- The messages of a channel without senders. -/
def Source.channel : Source { channel : MessageChannel // channel.senders = 0 } where
  poll _ channel :=
    match h : channel.val.queue with
    | [] => { outcome := .closed, state := channel }
    | payload :: rest =>
        { outcome := .message payload
          state := ⟨{ channel.val with queue := rest }, channel.property⟩ }
  pending channel := channel.val.queue.length
  pending_lt _ channel isOpen := by
    split at isOpen <;> simp_all

end HitMonitor
