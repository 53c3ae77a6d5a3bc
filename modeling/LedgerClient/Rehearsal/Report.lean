import LedgerClient.Error.Document
import LedgerClient.Rehearsal.World
import LedgerClient.Scene
import LedgerClient.Transaction
import LedgerClient.Wire.Signature

/-!
# Reports of rehearsals

What happened in a rehearsal, as documents. Transaction identifiers are partly
drawn by chance, so a report shows as they are only those that were given to it; of
the others it tells what does not depend on chance, and what does depend on it, a
signature for one, it leaves out or tells the length of.
-/

namespace LedgerClient

open Document

/-- The health records of the nodes, in order. -/
def Scene.stats {ω χ : Type} (scene : Scene ω χ) : Document :=
  document (scene.network.members.map fun member => (scene.healthOf member).stats member.account)

namespace Rehearsal

/-- What a report is made from. -/
structure Report where
  /-- The texts of the identifiers that were given. -/
  given : List String
  world : World

namespace Report

/-- Whether an identifier was given. -/
def isGiven (r : Report) (id : TransactionId) : Bool := r.given.contains id.text

/-- An identifier: its text, or what is known of one that was drawn. -/
def id (r : Report) (id : TransactionId) : Document :=
  if r.isGiven id then .text id.text
  else .fields [entry "generated_for" id.account.text, entry "in_range" (r.world.isTimely id),
    entry "scheduled" id.scheduled, entry "nonce" id.nonce]

/-- An identifier inside a question: its text, or the account it was drawn for. -/
def questionId (r : Report) (id : TransactionId) : Document :=
  if r.isGiven id then .text id.text else variant "generated_for" id.account.text

/-- A transaction as it was sent. -/
def signed (r : Report) (s : SignedTransaction) : Document :=
  match Wire.decode TransactionBody s.body with
  | .error _ => .null
  | .ok body =>
      let isGiven := r.isGiven body.transactionId
      let signature (pair : SignaturePair) : Document := .fields [
        entry "public_key" pair.publicKey,
        if isGiven then entry "signature" pair.signature
        else entry "signature" pair.signature.length,
        entry "valid" (pair.key.toOption.any (·.verifies s.body pair.signature))]
      .fields <|
        [entry "body" (body.documentNaming (r.id body.transactionId)),
          entry "signatures" (s.signatures.pairs.map signature)] ++
        if isGiven then [entry "body_hex" s.body] else []

/-- A request as it was sent. -/
def request (r : Report) : Request → Document
  | .transaction s => variant "transaction" (r.signed s)
  | .query q => variant "query" (Document.fields [
      entry "body" (q.body.documentNaming r.questionId),
      entry "payment" (q.header.payment.map r.signed), entry "type" q.header.responseType])

/-- An event, at a number of milliseconds. -/
def event (r : Report) (ms : Nat) : Event → Document
  | .opened account endpoint =>
      .fields [entry "at_ms" ms, entry "node" account.text, entry "open" endpoint]
  | .sent account request =>
      .fields [entry "at_ms" ms, entry "node" account.text, entry "request" (r.request request)]

/-- An error, with a word in place of an identifier that was drawn. -/
def error (r : Report) (e : ClientError) : Document :=
  let words := match e with
    | .precheckRejection _ (some id) _ | .receiptRejection _ id _ =>
        if r.isGiven id then e.text else e.text.replace id.text "<generated>"
    | _ => e.text
  .fields (failure e.kind words ++ e.details)

/-- What came of something. -/
def outcome (r : Report) : Outcome Document → Document
  | .ok value => variant "ok" value
  | .error e => r.error e

/-- The stage a transaction is at. -/
def stage : Stage → Document
  | .draft => .text "unfrozen"
  | .frozen b =>
      variant "frozen" (b.bodies.map fun body => (body.node.text, body.signatures.pairs.length))
  | .executed node _ => variant "executed" node.text

/-- A transaction. -/
def transaction (r : Report) (t : Transaction) : Document :=
  .fields [("state", stage t.stage), entry "is_frozen" t.isFrozen, entry "kind" t.data.kind,
    entry "nodes" (t.candidates.map (·.text)), entry "id" (t.id.map r.id), entry "fee" t.maxFee,
    entry "memo" t.memo, entry "valid_duration" t.validDuration]

/-- What changed in the world and the records since an earlier world: nothing is told if nothing
reached the network and no time passed. -/
def since {χ : Type} (given : List String) (earlier : World) (scene : Scene World χ) :
    List (String × Document) :=
  let r : Report := ⟨given, scene.world⟩
  let fresh := (r.world.events.take (r.world.events.length - earlier.events.length)).reverse
  if fresh.isEmpty && r.world.elapsed == earlier.elapsed then []
  else
    [entry "sent" (fresh.map fun (ms, event) => r.event (ms - earlier.elapsed) event),
      entry "elapsed_ms" (r.world.elapsed - earlier.elapsed), ("health", scene.stats)]

end Report

end Rehearsal

end LedgerClient
