import LedgerClient.Proofs.Execution.Books
import LedgerClient.Proofs.Transaction.Acceptance
import LedgerClient.Proofs.Transaction.Tables
import LedgerClient.Proofs.Wire.RoundTrip

/-!
# The digest of an accepted transaction

A call that succeeds does so with its last attempt, and the request of that attempt is the last
that is sent to anyone. So the digest that is returned and kept for an accepted transaction,
though it is taken from the bodies each time, is that of the very octets its node was sent.
-/

namespace LedgerClient

variable {ω χ α : Type}

namespace Execution

variable {surroundings : Surroundings ω χ} {operation : Operation α} {settings : ExecuteSettings}

/-! ### The last that is sent -/

/-- The last that was done in the world of a scene was to send octets over the channel to a node,
and an answer came back. -/
def LastSent (surroundings : Surroundings ω χ) (member : Member) (octets : Bytes)
    (scene : Scene ω χ) : Prop :=
  ∃ (earlier : Scene ω χ) (allowed left : Duration) (channel : χ) (world : ω) (answer : Bytes),
    earlier.network.channel surroundings member allowed earlier.world =
      (some (.ok channel), scene.network, world) ∧
    surroundings.send channel octets left world = (some (.ok answer), scene.world)

theorem lastSent_of_exchange {allowed : Duration} {member : Member} {octets answer : Bytes}
    {scene after : Scene ω χ}
    (hexchange : exchange surroundings allowed member octets scene = (.ok answer, after)) :
    LastSent surroundings member octets after := by
  unfold exchange at hexchange
  split at hexchange
  next => cases hexchange
  next => cases hexchange
  next channel network world hchannel =>
    rcases hsend : surroundings.send channel octets (between (between
      (surroundings.stopwatch scene.world) (surroundings.stopwatch world)) allowed) world with
      ⟨_ | reply, later⟩
    · simp [hsend] at hexchange
    · simp only [hsend, Option.getD_some, Prod.mk.injEq] at hexchange
      obtain ⟨rfl, rfl⟩ := hexchange
      exact ⟨scene, allowed, _, channel, world, answer, hchannel, hsend⟩

/-- Entering an attempt that is not charged to the node does nothing in the world. -/
theorem lastSent_turnAt {allowed : Duration} {member : Member} {now : Timestamp}
    {request : Request} {answer : Bytes} {scene : Scene ω χ}
    (hrequest : operation.request member.account = .ok request)
    (hanswer : (turnAt surroundings operation allowed member now scene).answer = .ok (.ok answer))
    (hfree : (Ending.ofReply operation (.ok answer)).isCharged operation = false) :
    LastSent surroundings member (Wire.encode request)
      (turnAt surroundings operation allowed member now scene).scene := by
  rcases hexchange : exchange surroundings allowed member (Wire.encode request)
    (enter operation member now scene) with ⟨reply, after⟩
  simp only [turnAt, hrequest, Except.map, hexchange, Except.ok.injEq] at hanswer
  subst hanswer
  obtain ⟨earlier, allowed', left, channel, world, later, hchannel, hsend⟩ :=
    lastSent_of_exchange hexchange
  refine ⟨earlier, allowed', left, channel, world, later, ?_, ?_⟩
  · simpa [turnAt, attempt, hrequest, ask, hexchange] using hchannel
  · simpa [turnAt, attempt, hrequest, ask, hexchange, world_settle, hfree] using hsend

/-! ### Calls that succeed -/

/-- How a run comes to a value: the attempts before the last one were to be retried, the request of
the last one is the last that was sent, and what its node answered amounts to the value. -/
def SucceedsWith (surroundings : Surroundings ω χ) (operation : Operation α) (value : α)
    (run : Run ω χ α) : Prop :=
  ∃ before last request response,
    run.attempts = before ++ [last] ∧ (∀ attempt ∈ before, attempt.ending.IsRetried) ∧
    operation.request last.member.account = .ok request ∧
    last.request = some (Wire.encode request) ∧ last.ending = .finished response ∧
    operation.output response last.member.account = .ok value ∧
    LastSent surroundings last.member (Wire.encode request) run.scene

theorem SucceedsWith.after {value : α} {run : Run ω χ α}
    (hsucceeds : SucceedsWith surroundings operation value run) {attempt : Attempt}
    (hretried : attempt.ending.IsRetried) :
    SucceedsWith surroundings operation value (run.after attempt) := by
  obtain ⟨before, last, request, response, hattempts, hbefore, hlast⟩ := hsucceeds
  refine ⟨attempt :: before, last, request, response, ?_, ?_, hlast⟩
  · simp [Run.after, hattempts]
  · simpa [hretried] using hbefore

theorem succeedsWith_of_concludes {scene : Scene ω χ} {made : Turn ω χ} {value : α}
    (hmade : turn surroundings operation settings scene = .ok made)
    (hconcludes : Concludes operation made.member.account made.answer (.ok value)) :
    SucceedsWith surroundings operation value
      ⟨[made.attempt operation none], .ok value, made.scene⟩ := by
  obtain ⟨member, picked, hpick, rfl⟩ := turn_eq_ok_iff.mp hmade
  generalize houtcome : Except.ok value = outcome at hconcludes
  generalize hanswer :
    (turnAt surroundings operation settings.requestTimeout member
      (scene.now surroundings).1 picked).answer = answer at hconcludes
  -- Of the ways to end a call, only an answer that is final comes to a value.
  cases hconcludes with
  | unbuilt => cases houtcome
  | clientSide => cases houtcome
  | rejected => cases houtcome
  | @finished bytes response hdecode hjudge =>
      cases hrequest : operation.request member.account with
      | error error => simp [turnAt, hrequest, Except.map] at hanswer
      | ok request =>
          have hfree : (Ending.ofReply operation (.ok bytes)).isCharged operation = false := by
            simp [Ending.ofReply, hdecode, hjudge, Ending.isCharged]
          refine ⟨[], _, request, response, rfl, by simp, hrequest, ?_, ?_, houtcome.symm,
            lastSent_turnAt hrequest hanswer hfree⟩
          · simp [Turn.attempt, turnAt, hrequest, Except.toOption]
          · simp [Turn.attempt, hanswer, endingOf, Ending.ofReply, hdecode, hjudge]

theorem succeedsWith_execute {scene : Scene ω χ} {value : α}
    (hok : (execute surroundings operation settings scene).outcome = .ok value) :
    SucceedsWith surroundings operation value
      (execute surroundings operation settings scene) := by
  revert hok
  unfold execute
  split
  next => exact fun hok => by cases hok
  next =>
    apply attempts_induction (motive := fun _ run => run.outcome = .ok value →
      SucceedsWith surroundings operation value run)
    · intro scene error hok
      cases hok
    · intro scene error _ hok
      cases hok
    · intro scene made outcome hmade hconcludes hok
      change outcome = .ok value at hok
      subst hok
      exact succeedsWith_of_concludes hmade hconcludes
    · intro scene made cause pause run _ hretries hrun hok
      exact (hrun hok).after (Ending.isRetried_of_retries hretries)

end Execution

/-! ### Accepted transactions -/

namespace Wire

/-- A request that submits a transaction is the tag of its kind, and the transaction as it is
digested. -/
theorem encode_transaction (signed : SignedTransaction) :
    encode (Request.transaction signed) = writeVariant 0 ++ encode signed := rfl

theorem drop_encode_transaction (signed : SignedTransaction) :
    (encode (Request.transaction signed)).drop 4 = encode signed := by
  rw [encode_transaction]
  exact List.drop_left' (length_writeVariant 0)

end Wire

namespace Transaction

/-- What a node is sent, and the acceptance by the node, are made of the one body for it. -/
theorem submission_eq_ok {t : Transaction} {id : TransactionId} {bodies : SignedBodies}
    {node : AccountId} {request : Request} {response : Response} {acceptance : Acceptance}
    (hrequest : (t.submission id bodies).request node = .ok request)
    (houtput : (t.submission id bodies).output response node = .ok acceptance) :
    ∃ signed, bodies.signedFor node = .ok signed ∧ request = .transaction signed ∧
      acceptance = { node, transactionId := id, hash := Crypto.sha384 (Wire.encode signed) } := by
  cases hsigned : bodies.signedFor node with
  | error error => simp [submission, hsigned, Except.map] at hrequest
  | ok signed =>
      simp only [submission, Transaction.acceptance, hsigned, Except.map, Except.ok.injEq]
        at hrequest houtput
      exact ⟨signed, rfl, hrequest.symm, houtput.symm⟩

/-- A transaction whose submission succeeds was accepted by the node of the last attempt, the others
having been retried. That is the node of the acceptance, and the one that is kept. The digest of the
acceptance, which is kept too, is that of the octets that this node was sent, which were the last to
be sent, without the tag of four octets in front. They are what tables tell for the node, if these
hold the bodies that were submitted. -/
theorem execute_digests_what_was_sent (t : Transaction) (client : Client ω χ) (scene : Scene ω χ)
    {acceptance : Acceptance} (hok : (t.execute client scene).1.outcome = .ok acceptance) :
    let run := (t.execute client scene).1
    let next := (t.execute client scene).2
    ∃ before last octets,
      run.attempts = before ++ [last] ∧ (∀ attempt ∈ before, attempt.ending.IsRetried) ∧
      last.request = some octets ∧
      Execution.LastSent client.surroundings last.member octets run.scene ∧
      octets.take 4 = Wire.writeVariant 0 ∧
      acceptance.node = last.member.account ∧
      acceptance.hash = Crypto.sha384 (octets.drop 4) ∧
      next.stage = .executed acceptance.node acceptance.hash ∧
      ∃ bodies, (t.prepare client scene).2.1.stage = .frozen bodies ∧
        ∀ filing : Filing, filing.Holds bodies → ∃ signed,
          filing.signedFor acceptance.node = .ok signed ∧
          octets = Wire.encode (Request.transaction signed) := by
  intro run next
  rcases execute_cases t client scene with
    ⟨_, hdone⟩ | ⟨error, hdone⟩ | ⟨_, id, bodies, _, hstage, hrun⟩
  · rw [hdone] at hok
    cases hok
  · rw [hdone] at hok
    cases hok
  · rcases hrun with ⟨error, houtcome, hdone⟩ | ⟨made, houtcome, hlast⟩
    · rw [hdone] at hok
      cases houtcome.symm.trans hok
    · obtain ⟨before, last, request, response, hattempts, hbefore, hrequest, hoctets, _, houtput,
        hsent⟩ := Execution.succeedsWith_execute houtcome
      obtain ⟨signed, hsigned, rfl, rfl⟩ := submission_eq_ok hrequest houtput
      have haccepted := accepted_of_signedFor hstage hsigned
      rcases hlast with ⟨error, herror, _⟩ | ⟨kept, hkept, hdone⟩
      · cases herror.symm.trans haccepted
      · cases hkept.symm.trans haccepted
        simp only [run, next, hdone] at hok ⊢
        cases houtcome.symm.trans hok
        refine ⟨before, last, _, hattempts, hbefore, hoctets, hsent, ?_, rfl, ?_, rfl, bodies,
          hstage, fun filing hholds => ⟨signed, ?_, rfl⟩⟩
        · rw [Wire.encode_transaction]
          exact List.take_left' (Wire.length_writeVariant 0)
        · rw [Wire.drop_encode_transaction]
        · rw [hholds.signedFor_eq]
          exact hsigned

/-- The first node that is asked does not answer, the second one answers nothing that can be read,
and the third one asked, which is the first again, accepts. -/
def acceptedLate : Run (List (Except TransportError Bytes)) Unit Acceptance × Transaction :=
  Transaction.execute { data := .submitMessage (.ofNum 9) [1, 2, 3] } clerk
    (Execution.rehearsed
      [.error .closed, .ok [], .ok (Wire.encode { precheck := .ok : Response })])

theorem execute_digests_what_was_sent_late :
    acceptedLate.1.attempts.map (·.member.account.num) = [3, 4, 3] ∧
      ∃ acceptance last octets, acceptedLate.1.outcome = .ok acceptance ∧
        acceptedLate.1.attempts.getLast? = some last ∧ last.request = some octets ∧
        acceptance.node = last.member.account ∧
        acceptedLate.2.stage = .executed acceptance.node (Crypto.sha384 (octets.drop 4)) := by
  refine ⟨by decide +kernel, ?_⟩
  obtain ⟨acceptance, hok⟩ : ∃ acceptance, acceptedLate.1.outcome = .ok acceptance := ⟨_, rfl⟩
  obtain ⟨before, last, octets, hattempts, _, hoctets, _, _, hnode, hhash, hstage, _⟩ :=
    execute_digests_what_was_sent _ clerk _ hok
  refine ⟨acceptance, last, octets, hok, ?_, hoctets, hnode, hhash ▸ hstage⟩
  rw [show acceptedLate.1.attempts = _ from hattempts]
  exact List.getLast?_concat

end Transaction

end LedgerClient
