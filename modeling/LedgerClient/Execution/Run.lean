import LedgerClient.Execution.Operation
import LedgerClient.Scene
import LedgerClient.Wire.Codec

/-!
# Runs of the attempt loop

An operation is run as a bounded number of attempts. Each attempt picks a node,
asks it and is judged; how it ended decides whether the call goes on, what is
entered in the books, and whether there is a pause. A run keeps all its attempts,
so that its outcome can be read off them.
-/

namespace LedgerClient

/-- How an attempt ended. -/
inductive Ending where
  /-- There was nothing to send. -/
  | unbuilt (error : ClientError)
  /-- The client's own settings forbid the channel. -/
  | unusable (error : TransportError)
  /-- No answer came. -/
  | failed (error : TransportError)
  /-- The answer is no response. -/
  | malformed (error : CodecError)
  | finished (response : Response)
  | retry (response : Response)
  | rejected (response : Response)

/-- What follows an attempt. -/
inductive Sequel (α : Type) where
  /-- The call is over. -/
  | final (outcome : Outcome α)
  /-- There may be another attempt. -/
  | again (cause : AttemptCause)

namespace Ending

variable {α : Type}

/-- The ending that a reply amounts to. -/
def ofReply (operation : Operation α) : Except TransportError Bytes → Ending
  | .error error => if error.isClientSide then .unusable error else .failed error
  | .ok bytes =>
      match Wire.decode Response bytes with
      | .error error => .malformed error
      | .ok response =>
          match operation.judge response with
          | .finished => .finished response
          | .retry => .retry response
          | .rejected => .rejected response

/-- What follows an attempt at a node that ended so. -/
def sequel (operation : Operation α) (node : AccountId) : Ending → Sequel α
  | .unbuilt error => .final (.error error)
  | .unusable error => .final (.error (.transport error))
  | .failed error => .again (.transport error)
  | .malformed error => .again (.transport (.io (ClientError.codec error).text))
  | .finished response => .final (operation.output response node)
  | .retry response => .again (.status (operation.status response))
  | .rejected response => .final (.error (operation.refusal response node))

/-- Whether the ending is charged to the node. -/
def isCharged (operation : Operation α) : Ending → Bool
  | .failed _ | .malformed _ => true
  | .retry response => operation.isNodeFault response
  | _ => false

/-- The label under which the ending counts as a retry, if it does. -/
def retryReason? (operation : Operation α) : Ending → Option String
  | .failed _ => some "transport"
  | .malformed _ => some "malformed"
  | .retry response =>
      some (if operation.isNodeFault response then "node_fault" else "not_yet_available")
  | _ => none

/-- What the ending is counted as, when it ends an attempt at a node. -/
def counters (operation : Operation α) (node : AccountId) (ending : Ending) : List Counter :=
  (if ending.isCharged operation then [.nodeFailures node.text] else []) ++
  ((ending.retryReason? operation).map fun reason => .retries operation.name reason).toList ++
  match ending with
  | .rejected response => [.rejections (operation.status response).label]
  | _ => []

/-- Whether there is a pause before another attempt. -/
def pauses : Ending → Bool
  | .retry _ => true
  | _ => false

end Ending

/-- One attempt of a run. -/
structure Attempt where
  member : Member
  /-- What there was to send, if a request could be built. It is sent once there is a channel. -/
  request : Option Bytes
  ending : Ending
  /-- The pause that followed. -/
  pause : Option Duration

/-- The attempts of a call, what it came to, and what it left. -/
structure Run (ω χ α : Type) where
  attempts : List Attempt
  outcome : Outcome α
  scene : Scene ω χ

/-- A call that failed before its first attempt. -/
def Run.refused {ω χ α : Type} (error : ClientError) (scene : Scene ω χ) : Run ω χ α :=
  ⟨[], .error error, scene⟩

/-- The same run, its value put through a function. -/
def Run.bind {ω χ α β : Type} (run : Run ω χ α) (next : α → Outcome β) : Run ω χ β :=
  ⟨run.attempts, run.outcome.bind next, run.scene⟩

/-- A span as a number of seconds. -/
def Duration.toFloat (d : Duration) : Float :=
  Float.ofNat d.seconds.toNat + Float.ofNat d.subsecond / 1000000000.0

namespace Execution

variable {ω χ α : Type}

/-- The time from one reading of the stopwatch to another. -/
def between (start stop : Duration) : Duration := .saturate (stop.nanos - start.nanos)

/-- The member an attempt at a moment goes to. -/
def pick (operation : Operation α) (now : Timestamp) (scene : Scene ω χ) :
    Outcome (Member × Scene ω χ) :=
  match operation.pinned with
  | some account =>
      match scene.network.member? account with
      | some member => .ok (member, scene)
      | none => .error (.unknownNode account)
  | none => do
      let (member, network) ← scene.network.select scene.health operation.candidates now
      return (member, { scene with network })

/-- Sends octets to a member and waits for the answer. Opening the channel and the exchange
together are allowed the time of one attempt. -/
def exchange (surroundings : Surroundings ω χ) (allowed : Duration) (member : Member)
    (request : Bytes) (scene : Scene ω χ) : Except TransportError Bytes × Scene ω χ :=
  let start := surroundings.stopwatch scene.world
  match scene.network.channel surroundings member allowed scene.world with
  | (none, network, world) => (.error (.timeout allowed), { scene with network, world })
  | (some (.error error), network, world) => (.error error, { scene with network, world })
  | (some (.ok channel), network, world) =>
      let left := between (between start (surroundings.stopwatch world)) allowed
      let (reply, world) := surroundings.send channel request left world
      (reply.getD (.error (.timeout allowed)), { scene with network, world })

/-- Enters an attempt at a member in the books before anything is sent. -/
def enter (operation : Operation α) (member : Member) (now : Timestamp) (scene : Scene ω χ) :
    Scene ω χ :=
  (scene.changeHealth member (·.use now)).bump (.attempts operation.name)

/-- Asks a member, and notes how long it took. -/
def ask (surroundings : Surroundings ω χ) (operation : Operation α) (allowed : Duration)
    (member : Member) (request : Bytes) (scene : Scene ω χ) : Ending × Scene ω χ :=
  let start := surroundings.stopwatch scene.world
  let (reply, scene) := exchange surroundings allowed member request scene
  let took := between start (surroundings.stopwatch scene.world)
  (.ofReply operation reply,
    { scene with meters := scene.meters.observe operation.name took.toFloat })

/-- Enters the ending of an attempt at a member in the books. For a failure the clock is read
again. -/
def settle (surroundings : Surroundings ω χ) (operation : Operation α) (member : Member)
    (ending : Ending) (scene : Scene ω χ) : Scene ω χ :=
  let scene :=
    if ending.isCharged operation then
      let (now, scene) := scene.now surroundings
      scene.changeHealth member (·.fail now)
    else match ending with
      | .finished _ => scene.changeHealth member (·.succeed)
      | _ => scene
  (ending.counters operation member.account).foldl (·.bump ·) scene

/-- Makes one attempt at a member, which begins at a moment. -/
def attempt (surroundings : Surroundings ω χ) (operation : Operation α) (allowed : Duration)
    (member : Member) (now : Timestamp) (scene : Scene ω χ) : Option Bytes × Ending × Scene ω χ :=
  let scene := enter operation member now scene
  match operation.request member.account with
  | .error error => (none, .unbuilt error, scene)
  | .ok request =>
      let bytes := Wire.encode request
      let (ending, scene) := ask surroundings operation allowed member bytes scene
      (some bytes, ending, settle surroundings operation member ending scene)

/-- Pauses after the attempt numbered `number`, if it is one to pause after. -/
def rest (surroundings : Surroundings ω χ) (pause : Option Duration) (scene : Scene ω χ) :
    Scene ω χ :=
  match pause with
  | none => scene
  | some pause => { scene with world := surroundings.sleep pause scene.world }

/-- Makes up to `left` attempts, the first one numbered `number`. The pair is the node of the attempt
before, and why that was not the last one. -/
def attempts (surroundings : Surroundings ω χ) (operation : Operation α)
    (settings : ExecuteSettings) :
    (left number : Nat) → Option (AccountId × AttemptCause) → Scene ω χ → Run ω χ α
  | 0, _, last, scene =>
      ⟨[], .error (.attemptsExhausted settings.maxAttempts (last.map (·.1)) (last.map (·.2))),
        scene.bump (.exhausted operation.name)⟩
  | left + 1, number, _, scene =>
      let (now, scene) := scene.now surroundings
      match pick operation now scene with
      | .error error => .refused error scene
      | .ok (member, scene) =>
          let (request, ending, scene) :=
            attempt surroundings operation settings.requestTimeout member now scene
          match ending.sequel operation member.account with
          | .final outcome => ⟨[⟨member, request, ending, none⟩], outcome, scene⟩
          | .again cause =>
              let pause :=
                if ending.pauses && left != 0 then some (settings.backoffFor number) else none
              let run := attempts surroundings operation settings left (number + 1)
                (some (member.account, cause)) (rest surroundings pause scene)
              { run with attempts := ⟨member, request, ending, pause⟩ :: run.attempts }

/-- Runs an operation under settings. Settings that are not valid are refused before anything
else happens. -/
def execute (surroundings : Surroundings ω χ) (operation : Operation α)
    (settings : ExecuteSettings) (scene : Scene ω χ) : Run ω χ α :=
  match settings.validate with
  | .error error => .refused error scene
  | .ok () => attempts surroundings operation settings settings.maxAttempts.toNat 0 none scene

end Execution

end LedgerClient
