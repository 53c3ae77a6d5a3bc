import LedgerClient.Client

/-!
# Subscriptions

A subscription follows a topic over one connection after another. A connection that
fails, or breaks while it streams, is replaced after a pause, and the next one asks
for what is still owed: the messages after the last one delivered, and as many as
the limit leaves. A message delivered makes up for all failures before it; too many
failures without one end the subscription, as do the end of the stream and the
limit.

A subscription only ever waits: for a connection, for what the stream brings, or for
a pause to pass. It is given up at the next wait once that is asked for, whatever is
ready there.
-/

namespace LedgerClient

/-- What a subscription waits for. -/
inductive Phase where
  /-- A connection. -/
  | connecting
  /-- What the stream brings. -/
  | streaming
  /-- The end of a pause. -/
  | resting (pause : Duration)
  /-- Nothing any more. -/
  | ended (outcome : Outcome Unit)

/-- What a wait ends with. -/
inductive Arrival where
  | opened
  | refused (error : TransportError)
  | message (message : TopicMessage)
  | broke (error : TransportError)
  | completed
  | rested

/-- A subscription at one of its waits. -/
structure Subscription where
  settings : ExecuteSettings
  /-- The most messages to be delivered; zero is no limit. -/
  limit : UInt64
  /-- What the next connection is asked for. -/
  query : TopicQuery
  delivered : Nat := 0
  /-- Failures since the last message delivered. -/
  failures : Nat := 0
  phase : Phase := .connecting

namespace Subscription

/-- A subscription that has delivered nothing. -/
def start (query : TopicQuery) (settings : ExecuteSettings) : Subscription :=
  { settings, limit := query.limit, query }

/-- A nanosecond. -/
def tick : Duration := ⟨1, by decide⟩

/-- The query for what comes after a message, `delivered` messages being delivered with it. -/
def queryAfter (s : Subscription) (message : TopicMessage) (delivered : Nat) : TopicQuery :=
  { s.query with
    startTime := some (message.consensusTimestamp + tick)
    limit := if s.limit = 0 then s.query.limit else s.limit - UInt64.ofNat delivered }

/-- Delivers a message. -/
def deliver (s : Subscription) (message : TopicMessage) : Subscription :=
  let delivered := s.delivered + 1
  { s with
    query := s.queryAfter message delivered
    delivered
    failures := 0
    phase := if s.limit ≠ 0 ∧ s.limit.toNat ≤ delivered then .ended (.ok ()) else .streaming }

/-- Notes a failure: the subscription pauses, or fails itself when there were too many. -/
def fail (s : Subscription) (error : TransportError) : Subscription :=
  let failures := s.failures + 1
  { s with
    failures
    phase :=
      if s.settings.maxAttempts.toNat ≤ failures then
        .ended (.error (.subscription (.gaveUp s.query.topicId failures error)))
      else .resting (s.settings.backoffFor (failures - 1)) }

/-- Goes on with what the wait ended with. What is not waited for changes nothing. -/
def resume (s : Subscription) (arrival : Arrival) : Subscription :=
  match s.phase, arrival with
  | .connecting, .opened => { s with phase := .streaming }
  | .connecting, .refused error => s.fail error
  | .streaming, .message message => s.deliver message
  | .streaming, .broke error => s.fail error
  | .streaming, .completed => { s with phase := .ended (.ok ()) }
  | .resting _, .rested => { s with phase := .connecting }
  | _, _ => s

/-- Gives the subscription up, unless it has ended. -/
def stop (s : Subscription) : Subscription :=
  match s.phase with
  | .ended _ => s
  | _ => { s with phase := .ended (.ok ()) }

/-- Wakes the subscription at its wait. That it is to be given up comes before what is ready. -/
def wake (s : Subscription) (isCancelled : Bool) (ready : Option Arrival) : Subscription :=
  if isCancelled then s.stop
  else match ready with
    | some arrival => s.resume arrival
    | none => s

/-- What the subscription came to, once it has ended. -/
def outcome? (s : Subscription) : Option (Outcome Unit) :=
  match s.phase with
  | .ended outcome => some outcome
  | _ => none

end Subscription

/-- What an arrival is counted as. -/
def Arrival.counters : Arrival → List Counter
  | .refused _ | .broke _ => [.retries "topic_subscription" "transport"]
  | _ => []

/-- What a subscriber asks of a client. -/
structure SubscriptionRequest where
  query : TopicQuery
  /-- Settings in place of the client's. -/
  settings : Option ExecuteSettings := none

/-- Starts a subscription at the client's mirror, if there is something to run it; if not, `runner`
says why. The subscription comes with the address of the mirror. -/
def Client.subscribe {ω χ : Type} (client : Client ω χ) (network : Network χ)
    (runner : Except String Unit) (request : SubscriptionRequest) :
    Outcome (String × Subscription) := do
  if !client.dialsMirrors then throw (.config .noMirrorConnector)
  let some mirror := network.mirror | throw (.config .noMirrorAddress)
  let settings := request.settings.getD client.settings
  settings.validate
  (runner.mapError fun reason => .subscription (.nowhereToRun reason))
  return (mirror, .start request.query settings)

end LedgerClient
