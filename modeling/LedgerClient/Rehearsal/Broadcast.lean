import LedgerClient.Subscription

/-!
# Rehearsed subscriptions

A subscription runs against a mirror whose connections are scripted one after the
other, in time that passes only where something waits, in whole milliseconds. The
subscription is a task of its own: it runs while its subscriber waits. Of two that
wait for one moment, the subscriber goes on first.
-/

namespace LedgerClient.Rehearsal

/-- What a scripted stream does next. -/
inductive StreamEvent where
  | message (message : TopicMessage)
  | error (error : TransportError)
  /-- Nothing happens any more, and the stream stays open. -/
  | idle

/-- What a mirror does with a connection. -/
inductive Session where
  | refuse (error : TransportError)
  /-- The events of the stream, which completes after them. -/
  | stream (events : List StreamEvent)

/-- The number of things a session makes happen. -/
def Session.size : Session → Nat
  | .refuse _ => 1
  | .stream events => events.length + 2

/-- A subscription, the mirror it follows and the time. -/
structure Broadcast where
  subscription : Subscription
  /-- Sessions for connections to come; after the last one streams are idle. -/
  sessions : List Session
  /-- What is left of the stream that is open. -/
  stream : List StreamEvent := []
  /-- Milliseconds passed. -/
  now : Nat := 0
  /-- When the pause of the subscription is over. -/
  wakesAt : Nat := 0
  /-- The subscription is to be given up. -/
  isCancelled : Bool := false
  /-- The subscriber has let go of the subscription. -/
  isDropped : Bool := false
  /-- The subscriber has learnt how the subscription ended. -/
  isJoined : Bool := false
  /-- What connections asked for and when, the latest first. -/
  connections : List (Nat × TopicQuery) := []
  /-- What was delivered and when, the latest first. -/
  messages : List (Nat × TopicMessage) := []
  meters : Meters := {}

namespace Broadcast

/-- What is there for the subscription to go on with, if anything, and the mirror behind it. -/
def ready (b : Broadcast) : Option Arrival × Broadcast :=
  match b.subscription.phase with
  | .ended _ => (none, b)
  | .resting _ => (if b.wakesAt ≤ b.now then some .rested else none, b)
  | .connecting =>
      let b := { b with connections := (b.now, b.subscription.query) :: b.connections }
      match b.sessions with
      | [] => (some .opened, { b with stream := [.idle] })
      | .refuse error :: sessions => (some (.refused error), { b with sessions })
      | .stream events :: sessions => (some .opened, { b with sessions, stream := events })
  | .streaming =>
      match b.stream with
      | [] => (some .completed, b)
      | .idle :: _ => (none, b)
      | .error error :: stream => (some (.broke error), { b with stream })
      | .message message :: stream =>
          (some (.message message),
            { b with stream, messages := (b.now, message) :: b.messages })

/-- Has the subscription go on with an arrival. A pause that begins ends at a whole millisecond. -/
def resume (b : Broadcast) (arrival : Arrival) : Broadcast :=
  let subscription := b.subscription.resume arrival
  { b with
    subscription
    wakesAt := match subscription.phase with
      | .resting pause => b.now + pause.ceilMillis
      | _ => b.wakesAt
    meters := arrival.counters.foldl (·.bump ·) b.meters }

/-- Runs the subscription before a deadline, until it has nothing to go on with. -/
def runWithin : (fuel deadline : Nat) → Broadcast → Broadcast
  | 0, _, b => b
  | fuel + 1, deadline, b =>
      if b.isCancelled then { b with subscription := b.subscription.stop }
      else match b.ready with
        | (some arrival, b) => runWithin fuel deadline (b.resume arrival)
        | (none, b) =>
            match b.subscription.phase with
            | .resting _ =>
                if b.wakesAt < deadline then runWithin fuel deadline { b with now := b.wakesAt }
                else b
            | _ => b

/-- More than the number of turns the subscription can take: each failure makes for two more. -/
def turns (b : Broadcast) : Nat :=
  4 * (b.sessions.foldl (· + ·.size) 0 + b.stream.length) + 8

/-- Lets the subscription run before a deadline, which is later than now. The time is then that of its
end, or the deadline. -/
def runUntil (deadline : Nat) (b : Broadcast) : Broadcast :=
  let b := runWithin b.turns deadline b
  if b.subscription.outcome?.isSome then b else { b with now := deadline }

/-- Waits for a number of milliseconds. -/
def sleep (ms : Nat) (b : Broadcast) : Broadcast :=
  if ms = 0 then b else { b.runUntil (b.now + ms) with now := b.now + ms }

/-- Waits up to a number of milliseconds for the subscription to end. How it ended is told once, and
not to one who has let go of it. -/
def join (ms : UInt64) (b : Broadcast) : Outcome Unit × Broadcast :=
  if b.isJoined || b.isDropped then (.ok (), b)
  else
    let b :=
      if b.subscription.outcome?.isSome || ms == 0 then b else b.runUntil (b.now + ms.toNat)
    match b.subscription.outcome? with
    | some outcome => (outcome, { b with isJoined := true })
    | none => (.error (.joinTimeout (.ofMillis ms)), b)

/-- Asks for the subscription to be given up. -/
def cancel (b : Broadcast) : Broadcast := { b with isCancelled := true }

/-- Lets go of the subscription, which gives it up. -/
def drop (b : Broadcast) : Broadcast := { b.cancel with isDropped := true }

/-- Scripts one more session. -/
def push (session : Session) (b : Broadcast) : Broadcast :=
  { b with sessions := b.sessions ++ [session] }

/-- Whether the subscription has ended, as far as its subscriber can tell. -/
def isFinished? (b : Broadcast) : Option Bool :=
  if b.isDropped then none else some (b.isJoined || b.subscription.outcome?.isSome)

end Broadcast

end LedgerClient.Rehearsal
