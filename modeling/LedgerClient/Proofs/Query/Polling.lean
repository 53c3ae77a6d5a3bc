import LedgerClient.Proofs.Execution.Outcome
import LedgerClient.Proofs.Query.Payments
import LedgerClient.Proofs.Transaction.Acceptance
import LedgerClient.Query.Polls

/-!
# Polling

A poll that is pinned goes to its node with every request. An answer that says that the
transaction has not reached consensus, with the check or inside, is asked for again while
there is an attempt left; every other answer of a node ends the poll, and what the poll comes
to is what that answer says.
-/

namespace LedgerClient

open Wire

variable {ω χ α : Type}

/-- The statuses with which a transaction may still reach consensus. -/
def pendingStatuses : List Status :=
  [.busy, .ok, .platformNotActive, .unknown, .receiptNotFound, .recordNotFound]

theorem Status.isPending_iff {status : Status} :
    status.isPending = true ↔ status ∈ pendingStatuses := by
  cases status <;> simp [isPending, isNotYetAvailable, pendingStatuses]

namespace Polling

/-- What is looked for in answers, and the receipt in it. -/
structure Part (α : Type) where
  find? : ResponseBody → Option α
  receipt : α → Receipt

def receiptPart : Part Receipt := ⟨Question.receipt?, id⟩

def recordPart : Part Record := ⟨Question.record?, Record.receipt⟩

/-! ### How an answer is read -/

/-- The answer says with a status that the transaction has not reached consensus: the check was not
passed, or it was and the status is inside. -/
inductive SaysPending (part : Part α) (response : Response) : Status → Prop where
  | check (hpending : response.precheck ∈ pendingStatuses) (hcheck : response.precheck ≠ .ok) :
      SaysPending part response response.precheck
  | inside {found : α} (hcheck : response.precheck = .ok)
      (hfound : part.find? response.body = some found)
      (hpending : (part.receipt found).status ∈ pendingStatuses) :
      SaysPending part response (part.receipt found).status

/-- What a poll makes of an answer, told whether it is to validate statuses. -/
inductive Reads (part : Part α) (validates : Bool) (response : Response) : Verdict → Prop where
  | pending {status : Status} (hpending : SaysPending part response status) :
      Reads part validates response .retry
  | answered {found : α} (hcheck : response.precheck = .ok)
      (hfound : part.find? response.body = some found)
      (hsettled : (part.receipt found).status ∉ pendingStatuses)
      (haccepted : validates = true → (part.receipt found).status = .success) :
      Reads part validates response .finished
  | failed {found : α} (hcheck : response.precheck = .ok)
      (hfound : part.find? response.body = some found)
      (hsettled : (part.receipt found).status ∉ pendingStatuses) (hvalidates : validates = true)
      (hfailed : (part.receipt found).status ≠ .success) : Reads part validates response .rejected
  /-- The answer is about something else. -/
  | astray (hcheck : response.precheck = .ok) (hnone : part.find? response.body = none) :
      Reads part validates response .finished
  | refused (hrefused : response.precheck ∉ pendingStatuses) :
      Reads part validates response .rejected

/-- A question that polls for a part of the answers. -/
abbrev asks (part : Part α) (name expected : String) (body : QueryBody) (isFree : Bool)
    (id : TransactionId) (pinned : Option AccountId) (validates : Bool) : Question α :=
  .poll name expected body isFree id pinned validates part.find? part.receipt

section Question

variable {part : Part α} {name expected : String} {body : QueryBody} {isFree validates : Bool}
  {id : TransactionId} {pinned : Option AccountId} {response : Response}

theorem reads_judge : Reads part validates response
    ((asks part name expected body isFree id pinned validates).judge response) := by
  by_cases hcheck : response.precheck = .ok
  · cases hfound : part.find? response.body with
    | none =>
        simpa [Question.poll, hcheck, hfound] using Reads.astray hcheck hfound
    | some found =>
        simp only [Question.poll, hcheck, hfound, if_true, Option.map_some, Question.judgeStatus,
          Status.isPending_iff]
        by_cases hpending : (part.receipt found).status ∈ pendingStatuses
        · rw [if_pos hpending]
          exact .pending (.inside hcheck hfound hpending)
        · rw [if_neg hpending]
          cases validates with
          | false => simpa using Reads.answered hcheck hfound hpending (by simp)
          | true =>
              by_cases hsuccess : (part.receipt found).status = .success
              · simpa [hsuccess] using Reads.answered hcheck hfound hpending fun _ => hsuccess
              · simpa [hsuccess] using Reads.failed hcheck hfound hpending rfl hsuccess
  · simp only [Question.poll, if_neg hcheck, Question.judgeCheck, Status.isPending_iff]
    by_cases hpending : response.precheck ∈ pendingStatuses
    · rw [if_pos hpending]
      exact .pending (.check hpending hcheck)
    · rw [if_neg hpending]
      exact .refused hpending

theorem status_of_saysPending {status : Status} (hpending : SaysPending part response status) :
    (asks part name expected body isFree id pinned validates).status response = status := by
  cases hpending with
  | check hpending hcheck => simp [Question.poll, hcheck]
  | inside hcheck hfound hpending => simp [Question.poll, hcheck, hfound]

/-- An answer that says that the transaction is pending is not the last of a poll. -/
theorem judge_of_saysPending {status : Status} (hpending : SaysPending part response status) :
    (asks part name expected body isFree id pinned validates).judge response = .retry := by
  cases hpending with
  | check hpending hcheck =>
      simp [Question.poll, hcheck, Question.judgeCheck, Status.isPending_iff.mpr hpending]
  | inside hcheck hfound hpending =>
      simp [Question.poll, hcheck, hfound, Question.judgeStatus, Status.isPending_iff.mpr hpending]

theorem refusal_eq_receiptRejection {node : AccountId} {status : Status} {other : TransactionId}
    {carried : Receipt}
    (hrefusal : (asks part name expected body isFree id pinned validates).refusal response node =
      .receiptRejection status other carried) :
    status = carried.status ∧ other = id ∧ response.precheck = .ok ∧
      ∃ found, part.find? response.body = some found ∧ part.receipt found = carried := by
  by_cases hcheck : response.precheck = .ok
  · cases hfound : part.find? response.body with
    | none => simp [Question.poll, hcheck, hfound] at hrefusal
    | some found =>
        simp only [Question.poll, hcheck, hfound, if_true, Option.map_some,
          ClientError.receiptRejection.injEq] at hrefusal
        obtain ⟨rfl, rfl, rfl⟩ := hrefusal
        exact ⟨rfl, rfl, hcheck, found, rfl, rfl⟩
  · simp [Question.poll, hcheck] at hrefusal

theorem value_eq_ok {found : α}
    (hvalue : (asks part name expected body isFree id pinned validates).value response =
      .ok found) : part.find? response.body = some found := by
  cases hfind : part.find? response.body with
  | none => simp [Question.poll, hfind] at hvalue
  | some other => simpa [Question.poll, hfind] using hvalue

theorem value_ne_receiptRejection {status : Status} {other : TransactionId} {carried : Receipt} :
    (asks part name expected body isFree id pinned validates).value response ≠
      .error (.receiptRejection status other carried) := by
  cases hfind : part.find? response.body <;> simp [Question.poll, hfind]

end Question

/-! ### How a poll runs -/

/-- A fault of the node: no answer came, what came is no response, or the check was not passed since
the node is busy or not active. -/
def isBlamed : Ending → Bool
  | .failed error => !error.isClientSide
  | .malformed _ => true
  | .retry response => response.precheck = .busy || response.precheck = .platformNotActive
  | _ => false

/-- What is held of a poll for a part of the answers at one node. -/
structure PollLaw (part : Part α) (isFree : Bool) (s : Question.Subject) (account : AccountId)
    (settings : ExecuteSettings) (client : Client ω χ) (scene : Scene ω χ) (run : Run ω χ α) :
    Prop where
  /-- Whatever its health, the node is asked every time. -/
  asked : ∀ attempt ∈ run.attempts, scene.network.member? account = some attempt.member
  cursor : run.scene.network.cursor = scene.network.cursor
  answered : ∀ found, run.outcome = .ok found →
    (part.receipt found).status ∉ pendingStatuses ∧
    (s.validateStatus = true → (part.receipt found).status = .success) ∧
    ∃ last ∈ run.attempts.getLast?, ∃ response, last.ending.response? = some response ∧
      response.precheck = .ok ∧ part.find? response.body = some found
  /-- The poll fails for a receipt that the last answer carries. One that is paid for may also pass
  on, before it asks, an error of the signer of its payment. -/
  rejected : ∀ status id carried, run.outcome = .error (.receiptRejection status id carried) →
    (s.validateStatus = true ∧ status = carried.status ∧ id = s.transactionId ∧
      carried.status ≠ .success ∧ carried.status ∉ pendingStatuses ∧
      ∃ last ∈ run.attempts.getLast?, ∃ response, last.ending.response? = some response ∧
        response.precheck = .ok ∧
        ∃ found, part.find? response.body = some found ∧ part.receipt found = carried) ∨
    (isFree = false ∧ run.attempts = [] ∧ ∃ operator octets world, client.operator = some operator ∧
      (operator.signer.sign octets world).1 = .error (.receiptRejection status id carried))
  /-- A poll goes on behind an answer that says pending, or the budget is used up. -/
  persists : ∀ before attempt after response status,
    run.attempts = before ++ attempt :: after → attempt.ending.response? = some response →
    SaysPending part response status → after ≠ [] ∨
      (run.attempts.length = settings.maxAttempts.toNat ∧
        run.outcome = .error (.attemptsExhausted settings.maxAttempts
          (some attempt.member.account) (some (.status status))))
  blamed : ∀ node ∈ scene.network.members,
    let tries := run.attempts.filter (·.member.account == node.account)
    let faults := tries.countP (isBlamed ·.ending)
    (run.scene.healthOf node).failures = (scene.healthOf node).failures + UInt64.ofNat faults ∧
      run.scene.meters.nodeFailures node.account =
        scene.meters.nodeFailures node.account + faults

/-! ### The operation of a poll -/

section Operation

variable {part : Part α} {name expected : String} {body : QueryBody} {isFree validates : Bool}
  {id : TransactionId} {pinned : Option AccountId} {query : Query α}
  {candidates : List AccountId} {payments : Option Payments} {ending : Ending} {node : AccountId}
  {outcome : Outcome Response}

theorem pinned_operation
    (hquestion : query.question = asks part name expected body isFree id pinned validates) :
    (query.operation .answerOnly candidates payments).pinned = pinned := by
  change query.question.pinned = pinned
  rw [hquestion]
  rfl

theorem reads_operation
    (hquestion : query.question = asks part name expected body isFree id pinned validates)
    {response : Response} {verdict : Verdict}
    (hjudge : (query.operation .answerOnly candidates payments).judge response = verdict) :
    Reads part validates response verdict := by
  rw [← hjudge]
  change Reads part validates response (query.question.judge response)
  rw [hquestion]
  exact reads_judge

/-- A check that is not passed is retried as the node's fault just where the node is busy or not
active. -/
theorem isNodeFault_iff_of_pending : ∀ status ∈ pendingStatuses,
    status.isNodeFault = true ↔ (status = .busy || status = .platformNotActive) = true := by
  decide

theorem isFault_iff_isBlamed
    (hquestion : query.question = asks part name expected body isFree id pinned validates)
    (hjudged : ending.IsJudged (query.operation .answerOnly candidates payments)) :
    ending.IsFault (query.operation .answerOnly candidates payments) ↔ isBlamed ending = true := by
  cases ending with
  | retry response =>
      have hfault : (query.operation .answerOnly candidates payments).isNodeFault response =
          response.precheck.isNodeFault := by
        change query.question.isNodeFault response = _
        rw [hquestion]
        rfl
      simp only [Ending.IsFault, hfault, isBlamed]
      apply isNodeFault_iff_of_pending
      cases reads_operation hquestion hjudged with
      | pending hpending =>
          cases hpending with
          | check hpending _ => exact hpending
          | inside hcheck _ _ =>
              rw [hcheck]
              decide
  | _ => simp [Ending.IsFault, isBlamed]

/-- An answer with which a poll has its value carries it, and the receipt in it is settled. -/
theorem answered_of_final
    (hquestion : query.question = asks part name expected body isFree id pinned validates)
    (hjudged : ending.IsJudged (query.operation .answerOnly candidates payments))
    (hsequel : ending.sequel (query.operation .answerOnly candidates payments) node =
      .final outcome) {found : α} (hvalue : outcome.bind query.question.value = .ok found) :
    (part.receipt found).status ∉ pendingStatuses ∧
      (validates = true → (part.receipt found).status = .success) ∧
      ∃ response, ending.response? = some response ∧ response.precheck = .ok ∧
        part.find? response.body = some found := by
  cases ending with
  | finished response =>
      cases hsequel
      have hfound : part.find? response.body = some found := by
        rw [hquestion] at hvalue
        exact value_eq_ok hvalue
      cases reads_operation hquestion hjudged with
      | answered hcheck hother hsettled haccepted =>
          cases hother.symm.trans hfound
          exact ⟨hsettled, haccepted, response, rfl, hcheck, hfound⟩
      | astray hcheck hnone => cases hnone.symm.trans hfound
  | retry response => cases hsequel
  | failed error => cases hsequel
  | malformed error => cases hsequel
  | unbuilt error =>
      cases hsequel
      cases hvalue
  | unusable error =>
      cases hsequel
      cases hvalue
  | rejected response =>
      cases hsequel
      cases hvalue

/-- An answer for which a poll fails with a receipt carries the receipt, and the receipt is one of
failure. -/
theorem rejected_of_final
    (hquestion : query.question = asks part name expected body isFree id pinned validates)
    (hjudged : ending.IsJudged (query.operation .answerOnly candidates payments))
    (hbuilt : ∀ error, ending = .unbuilt error → ∃ other, error = .unknownNode other)
    (hsequel : ending.sequel (query.operation .answerOnly candidates payments) node =
      .final outcome) {status : Status} {other : TransactionId} {carried : Receipt}
    (hvalue : outcome.bind query.question.value =
      .error (.receiptRejection status other carried)) :
    validates = true ∧ status = carried.status ∧ other = id ∧ carried.status ≠ .success ∧
      carried.status ∉ pendingStatuses ∧
      ∃ response, ending.response? = some response ∧ response.precheck = .ok ∧
        ∃ found, part.find? response.body = some found ∧ part.receipt found = carried := by
  cases ending with
  | finished response =>
      cases hsequel
      rw [hquestion] at hvalue
      exact absurd hvalue value_ne_receiptRejection
  | retry response => cases hsequel
  | failed error => cases hsequel
  | malformed error => cases hsequel
  | unbuilt error =>
      obtain ⟨account, rfl⟩ := hbuilt error rfl
      cases hsequel
      cases hvalue
  | unusable error =>
      cases hsequel
      cases hvalue
  | rejected response =>
      cases hsequel
      have hrefusal : query.question.refusal response node =
          .receiptRejection status other carried := Except.error.inj hvalue
      rw [hquestion] at hrefusal
      obtain ⟨hstatus, hother, hcheck, found, hfound, hcarried⟩ :=
        refusal_eq_receiptRejection hrefusal
      cases reads_operation hquestion hjudged with
      | failed _ hsame hsettled hvalidates hfailed =>
          cases hsame.symm.trans hfound
          rw [hcarried] at hsettled hfailed
          exact ⟨hvalidates, hstatus, hother, hfailed, hsettled, response, rfl, hcheck, found,
            hfound, hcarried⟩
      | refused hrefused =>
          rw [hcheck] at hrefused
          exact absurd (by decide) hrefused

/-- An attempt with an answer that says pending is to be retried, and gives the status as the
cause. -/
theorem sequel_of_saysPending
    (hquestion : query.question = asks part name expected body isFree id pinned validates)
    (hjudged : ending.IsJudged (query.operation .answerOnly candidates payments))
    {response : Response} {status : Status} (hresponse : ending.response? = some response)
    (hpending : SaysPending part response status) :
    ending.sequel (query.operation .answerOnly candidates payments) node =
      .again (.status status) := by
  have hjudge : (query.operation .answerOnly candidates payments).judge response = .retry := by
    change query.question.judge response = .retry
    rw [hquestion]
    exact judge_of_saysPending hpending
  have hstatus : (query.operation .answerOnly candidates payments).status response = status := by
    change query.question.status response = status
    rw [hquestion]
    exact status_of_saysPending hpending
  cases ending with
  | retry other =>
      cases hresponse
      rw [Ending.sequel, hstatus]
  | finished other =>
      cases hresponse
      cases hjudge.symm.trans hjudged
  | rejected other =>
      cases hresponse
      cases hjudge.symm.trans hjudged
  | failed error => cases hresponse
  | malformed error => cases hresponse
  | unbuilt error => cases hresponse
  | unusable error => cases hresponse

end Operation

/-! ### Before the first attempt -/

/-- An error that tells of no receipt, or that a signer of the client gives. -/
def IsForeign (client : Client ω χ) (error : ClientError) : Prop :=
  (∀ status id carried, error ≠ .receiptRejection status id carried) ∨
    ∃ operator octets world, client.operator = some operator ∧
      (operator.signer.sign octets world).1 = .error error

theorem sign_single_eq_error {t : Transaction} {signer : Signer ω} {world : ω} {node : AccountId}
    {octets : Bytes} {error : ClientError} (hstage : t.stage = .frozen ⟨[⟨node, octets, {}⟩]⟩)
    (hsign : (t.sign signer world).1 = .error error) :
    (signer.sign octets world).1 = .error error := by
  unfold Transaction.sign at hsign
  simp only [Transaction.bodies, hstage, SignedBodies.signAll, SignedBodies.signEach] at hsign
  rcases hsigner : signer.sign octets world with ⟨failure | signature, after⟩
  · rw [hsigner] at hsign
    cases hsign
    rfl
  · rw [hsigner] at hsign
    cases hsign

theorem isForeign_of_pay {client : Client ω χ} {operator : Operator ω}
    (hoperator : client.operator = some operator) {network : Network χ} {id : TransactionId}
    {amount : Int64} {node : AccountId} {world after : ω} {error : ClientError}
    (hpay : Query.pay operator network id amount node world = (.error error, after)) :
    IsForeign client error := by
  rw [Query.pay_eq] at hpay
  split at hpay
  next failure hfreeze =>
    cases hpay
    refine .inl fun status id carried heq => ?_
    simp only [Transaction.freezeFor, Query.paymentDraft, Transaction.makeOut] at hfreeze
    split at hfreeze
    · cases hfreeze
    · cases hfreeze
      cases heq
  next frozen hfreeze =>
    have hstage := Transaction.freezeFor_single rfl hfreeze
    cases hsign : (frozen.sign operator.signer world).1 with
    | error failure =>
        rw [hsign] at hpay
        cases hpay
        exact .inr ⟨operator, _, world, hoperator, sign_single_eq_error hstage hsign⟩
    | ok =>
        obtain ⟨signature, _, hlast⟩ := Transaction.sign_single hstage hsign
        rw [hsign] at hpay
        have hfor := congrArg Prod.fst hpay
        change (frozen.sign operator.signer world).2.1.signedFor node = .error error at hfor
        have hbody := Transaction.signedFor_single hlast
        rw [hfor] at hbody
        cases hbody

theorem isForeign_of_payEach {client : Client ω χ} {operator : Operator ω}
    (hoperator : client.operator = some operator) {network : Network χ} {id : TransactionId}
    {amount : Int64} {nodes : List AccountId} {made : Payments} {world after : ω}
    {error : ClientError}
    (hpay : Query.payEach operator network id amount nodes made world = (.error error, after)) :
    IsForeign client error := by
  induction nodes generalizing made world with
  | nil => cases hpay
  | cons node rest ih =>
      unfold Query.payEach at hpay
      split at hpay
      next failure next hfirst =>
        cases hpay
        exact isForeign_of_pay hoperator hfirst
      next signed next hfirst => exact ih hpay

theorem isForeign_of_payments {client : Client ω χ} {nodes : List AccountId} {amount : UInt64}
    {scene : Scene ω χ} {error : ClientError}
    (hmade : (Query.payments client nodes amount scene).1 = .error error) :
    IsForeign client error := by
  unfold Query.payments at hmade
  split at hmade
  next =>
    cases hmade
    exact .inl fun _ _ _ => by simp
  next operator hoperator =>
    split at hmade
    next => exact isForeign_of_payEach hoperator (Prod.ext hmade rfl)
    next =>
      cases hmade
      exact .inl fun _ _ _ => by simp

theorem scene_payments (client : Client ω χ) (nodes : List AccountId) (amount : UInt64)
    (scene : Scene ω χ) :
    ∃ world, (Query.payments client nodes amount scene).2 = { scene with world } := by
  unfold Query.payments
  split
  next => exact ⟨scene.world, rfl⟩
  next =>
    split
    next => exact ⟨_, rfl⟩
    next => exact ⟨scene.world, rfl⟩

theorem scene_chooseNodes (client : Client ω χ) (named : List AccountId) (scene : Scene ω χ) :
    ∃ world, (client.chooseNodes named scene).2 = { scene with world } := by
  unfold Client.chooseNodes
  split
  · exact ⟨_, rfl⟩
  · exact ⟨scene.world, rfl⟩

/-- Paying happens in the world only. It ends in the operation of the query, or in an error that is
none of a receipt or the signer's own. -/
theorem prepare_cases (query : Query α) (client : Client ω χ) (type : ResponseType)
    (scene : Scene ω χ) :
    ∃ world, (query.prepare client type scene).2 = { scene with world } ∧
      ((∃ error, (query.prepare client type scene).1 = .error error ∧
          query.question.isFree = false ∧ IsForeign client error) ∨
        ∃ candidates payments, (query.prepare client type scene).1 =
          .ok (query.operation type candidates payments)) := by
  cases hdue : query.due type with
  | none =>
      unfold Query.prepare
      rw [hdue]
      exact ⟨scene.world, rfl, .inr ⟨_, _, rfl⟩⟩
  | some amount =>
      rw [Query.prepare_of_due hdue]
      obtain ⟨read, hread⟩ := scene_chooseNodes client query.named scene
      obtain ⟨world, hscene⟩ := scene_payments client (client.chooseNodes query.named scene).1
        amount (client.chooseNodes query.named scene).2
      refine ⟨world, hscene.trans (by rw [hread]), ?_⟩
      simp only
      cases hmade : (Query.payments client (client.chooseNodes query.named scene).1 amount
          (client.chooseNodes query.named scene).2).1 with
      | error error =>
          have hpaid : query.question.isFree = false := by
            unfold Query.due at hdue
            split at hdue
            next hpays => simpa using hpays.2
            next => cases hdue
          exact .inl ⟨error, rfl, hpaid, isForeign_of_payments hmade⟩
      | ok made => exact .inr ⟨_, _, rfl⟩

/-! ### Polls keep the law -/

section Law

variable {part : Part α} {name expected : String} {body : QueryBody} {isFree : Bool}
  {s : Question.Subject} {account : AccountId} {query : Query α} {client : Client ω χ}
  {scene : Scene ω χ} {surroundings : Surroundings ω χ} {settings : ExecuteSettings}
  {candidates : List AccountId} {payments : Option Payments}

/-- A run without attempts keeps the law, if it fails for no receipt. -/
theorem pollLaw_refused {error : ClientError} {world : ω} (hpaid : isFree = false)
    (hforeign : IsForeign client error) :
    PollLaw part isFree s account settings client scene
      (.refused error { scene with world } : Run ω χ α) where
  asked attempt hattempt := by cases hattempt
  cursor := rfl
  answered found houtcome := by cases houtcome
  rejected status id carried houtcome := by
    cases houtcome
    rcases hforeign with hnone | hsigner
    · exact absurd rfl (hnone status id carried)
    · exact .inr ⟨hpaid, rfl, hsigner⟩
  persists before attempt after response status hattempts := by
    have hlength := congrArg List.length hattempts
    simp [Run.refused] at hlength
  blamed node hnode := ⟨(UInt64.add_zero _).symm, rfl⟩

/-- A request cannot be built only for want of a payment to the node. -/
theorem unknownNode_of_unbuilt {attempt : Attempt} {error : ClientError}
    (hattempt : attempt ∈ (Execution.execute surroundings
      (query.operation .answerOnly candidates payments) settings scene).attempts)
    (hunbuilt : attempt.ending = .unbuilt error) : ∃ other, error = .unknownNode other := by
  have hrequest := Execution.request_of_unbuilt attempt hattempt hunbuilt
  cases payments with
  | none => cases hrequest
  | some payments =>
      simp only [Query.operation] at hrequest
      split at hrequest
      next => exact ⟨_, (Except.error.inj hrequest).symm⟩
      next => cases hrequest

/-- Without a final answer a poll fails, and for no receipt. -/
theorem final_or_error (surroundings : Surroundings ω χ) (operation : Operation Response)
    (settings : ExecuteSettings) (scene : Scene ω χ) :
    let run := Execution.execute surroundings operation settings scene
    (∃ last ∈ run.attempts.getLast?, last ∈ run.attempts ∧
      last.ending.sequel operation last.member.account = .final run.outcome) ∨
    ∃ error, run.outcome = .error error ∧
      ∀ status id carried, error ≠ .receiptRejection status id carried := by
  intro run
  rcases Execution.refused_or_ends surroundings operation settings scene with
    ⟨fault, _, hrun⟩ | ⟨error, hturn, hrun⟩ | ⟨_, before, last, hattempts, _, hlast⟩
  · refine .inr ⟨.config fault, ?_, by simp⟩
    rw [show run = _ from hrun]
    rfl
  · refine .inr ⟨error, ?_, ?_⟩
    · rw [show run = _ from hrun]
      rfl
    · rcases Execution.pick_error (Execution.turn_eq_error_iff.mp hturn) with
        rfl | ⟨account, _, rfl⟩ <;> simp
  · rcases hlast with hfinal | ⟨cause, _, _, houtcome⟩
    · refine .inl ⟨last, ?_, ?_, hfinal⟩
      · simp [run, hattempts]
      · simp [run, hattempts]
    · exact .inr ⟨_, houtcome, by simp⟩

theorem persists_execute
    (hquestion : query.question =
      asks part name expected body isFree s.transactionId (some account) s.validateStatus)
    {before after : List Attempt} {attempt : Attempt} {response : Response} {status : Status} :
    let run := Execution.execute surroundings (query.operation .answerOnly candidates payments)
      settings scene
    run.attempts = before ++ attempt :: after → attempt.ending.response? = some response →
      SaysPending part response status → after ≠ [] ∨
        (run.attempts.length = settings.maxAttempts.toNat ∧
          run.outcome = .error (.attemptsExhausted settings.maxAttempts
            (some attempt.member.account) (some (.status status)))) := by
  intro run hattempts hresponse hpending
  by_cases hafter : after = []
  · right
    rcases Execution.refused_or_ends surroundings
        (query.operation .answerOnly candidates payments) settings scene with
      ⟨fault, _, hrun⟩ | ⟨error, _, hrun⟩ | ⟨_, others, last, hlast, _, hends⟩
    · rw [show run = _ from hrun] at hattempts
      simp [Run.refused] at hattempts
    · rw [show run = _ from hrun] at hattempts
      simp [Run.refused] at hattempts
    · -- The answer is the last one, and it is not final, so the budget is used up.
      have hsame : attempt = last := by
        have hboth := hattempts.symm.trans hlast
        rw [hafter] at hboth
        exact List.singleton_inj.mp (List.append_inj_right' hboth rfl)
      have hjudged := Execution.isJudged_of_mem_execute attempt
        (hattempts ▸ List.mem_append_right before List.mem_cons_self)
      have hagain : attempt.ending.sequel (query.operation .answerOnly candidates payments)
          attempt.member.account = .again (.status status) :=
        sequel_of_saysPending hquestion hjudged hresponse hpending
      rw [← hsame, hagain] at hends
      rcases hends with hfinal | ⟨cause, hcause, hlength, houtcome⟩
      · cases hfinal
      · cases hcause
        exact ⟨hlength, houtcome⟩
  · exact .inl hafter

theorem failures_execute (surroundings : Surroundings ω χ) (operation : Operation α)
    (settings : ExecuteSettings) (scene : Scene ω χ) :
    let run := Execution.execute surroundings operation settings scene
    ∀ node ∈ scene.network.members,
      let tries := run.attempts.filter (·.member.account == node.account)
      let faults := tries.countP (·.ending.IsFault operation)
      (run.scene.healthOf node).failures = (scene.healthOf node).failures + UInt64.ofNat faults ∧
        run.scene.meters.nodeFailures node.account =
          scene.meters.nodeFailures node.account + faults := by
  unfold Execution.execute
  split
  next => exact (Execution.booksAgree_refused operation _ scene).failures
  next => exact (Execution.booksAgree_attempts ..).failures

theorem blamed_execute
    (hquestion : query.question =
      asks part name expected body isFree s.transactionId (some account) s.validateStatus) :
    let run := Execution.execute surroundings (query.operation .answerOnly candidates payments)
      settings scene
    ∀ node ∈ scene.network.members,
      let tries := run.attempts.filter (·.member.account == node.account)
      let faults := tries.countP (isBlamed ·.ending)
      (run.scene.healthOf node).failures = (scene.healthOf node).failures + UInt64.ofNat faults ∧
        run.scene.meters.nodeFailures node.account =
          scene.meters.nodeFailures node.account + faults := by
  intro run node hnode tries faults
  have hfailures := failures_execute surroundings
    (query.operation .answerOnly candidates payments) settings scene node hnode
  have hfaults : faults = tries.countP
      (·.ending.IsFault (query.operation .answerOnly candidates payments)) := by
    refine List.countP_congr fun attempt hattempt => ?_
    have hmem : attempt ∈ run.attempts := (List.mem_filter.mp hattempt).1
    rw [decide_eq_true_eq]
    exact (isFault_iff_isBlamed hquestion (Execution.isJudged_of_mem_execute attempt hmem)).symm
  rw [hfaults]
  exact hfailures

theorem pollLaw_execute
    (hquestion : query.question =
      asks part name expected body isFree s.transactionId (some account) s.validateStatus) :
    PollLaw part isFree s account settings client scene
      ((Execution.execute surroundings (query.operation .answerOnly candidates payments) settings
        scene).bind query.question.value) := by
  have hpinned : (query.operation .answerOnly candidates payments).pinned = some account :=
    pinned_operation hquestion
  have hended := final_or_error surroundings (query.operation .answerOnly candidates payments)
    settings scene
  refine ⟨Execution.member?_of_mem_execute hpinned scene, Execution.cursor_execute hpinned scene,
    ?_, ?_, ?_, blamed_execute hquestion⟩
  · intro found hvalue
    rcases hended with ⟨last, hlast, hmem, hfinal⟩ | ⟨error, houtcome, _⟩
    · obtain ⟨hsettled, haccepted, hanswer⟩ := answered_of_final hquestion
        (Execution.isJudged_of_mem_execute last hmem) hfinal hvalue
      exact ⟨hsettled, haccepted, last, hlast, hanswer⟩
    · simp only [Run.bind, houtcome] at hvalue
      cases hvalue
  · intro status id carried hvalue
    rcases hended with ⟨last, hlast, hmem, hfinal⟩ | ⟨error, houtcome, hnone⟩
    · obtain ⟨hvalidates, hstatus, hid, hfailed, hsettled, hanswer⟩ := rejected_of_final hquestion
        (Execution.isJudged_of_mem_execute last hmem)
        (fun error => unknownNode_of_unbuilt hmem) hfinal hvalue
      exact .inl ⟨hvalidates, hstatus, hid, hfailed, hsettled, last, hlast, hanswer⟩
    · simp only [Run.bind, houtcome] at hvalue
      cases hvalue
      exact absurd rfl (hnone status id carried)
  · intro before attempt after response status hattempts hresponse hpending
    rcases persists_execute hquestion hattempts hresponse hpending with hafter | ⟨hlength, hspent⟩
    · exact .inl hafter
    · refine .inr ⟨hlength, ?_⟩
      simp only [Run.bind, hspent]
      rfl

/-- The law is about the network, the records and the meters, which paying leaves alone. -/
theorem PollLaw.of_world {run : Run ω χ α} {world : ω}
    (hlaw : PollLaw part isFree s account settings client { scene with world } run) :
    PollLaw part isFree s account settings client scene run :=
  ⟨hlaw.asked, hlaw.cursor, hlaw.answered, hlaw.rejected, hlaw.persists, hlaw.blamed⟩

/-- A poll keeps the law, and asks its node if the network has it and the payment is made. -/
theorem pollLaw_of_asks
    (hquestion : query.question =
      asks part name expected body isFree s.transactionId (some account) s.validateStatus)
    (client : Client ω χ) (scene : Scene ω χ) :
    let run := query.execute client scene
    let settings := query.settings.getD client.settings
    PollLaw part isFree s account settings client scene run ∧
      ((scene.network.member? account).isSome → settings.IsValid →
        (∃ operation, (query.prepare client .answerOnly scene).1 = .ok operation) →
        run.attempts ≠ []) := by
  intro run settings
  have hrun : run = (query.run client .answerOnly scene).bind query.question.value := rfl
  rcases query.run_cases client .answerOnly scene with
    ⟨error, hcheck, _⟩ | ⟨error, after, hprepare, hrefused⟩ | ⟨operation, after, hprepare, hcall⟩
  · -- A poll lists no identifiers, so there are none to object to.
    have hentities : query.question.entities = [] := by
      rw [hquestion]
      rfl
    rw [hentities] at hcheck
    unfold Client.checkIds at hcheck
    split at hcheck <;> cases hcheck
  · obtain ⟨world, hscene, ⟨_, hfailed, hpaid, hforeign⟩ | ⟨_, _, hmade⟩⟩ :=
      prepare_cases query client .answerOnly scene
    · rw [hprepare] at hscene hfailed
      cases hscene
      cases hfailed
      rw [hquestion] at hpaid
      rw [hrun, hrefused]
      refine ⟨pollLaw_refused hpaid hforeign, fun _ _ hprepared => ?_⟩
      obtain ⟨operation, hok⟩ := hprepared
      rw [hprepare] at hok
      cases hok
    · rw [hprepare] at hmade
      cases hmade
  · obtain ⟨world, hscene, ⟨_, hfailed, _⟩ | ⟨candidates, payments, hmade⟩⟩ :=
      prepare_cases query client .answerOnly scene
    · rw [hprepare] at hfailed
      cases hfailed
    · rw [hprepare] at hscene hmade
      cases hscene
      cases hmade
      rw [hrun, hcall]
      refine ⟨(pollLaw_execute hquestion).of_world, fun hfound hvalid _ => ?_⟩
      obtain ⟨member, hmember⟩ := Option.isSome_iff_exists.mp hfound
      exact Execution.attempts_ne_nil_of_pinned (pinned_operation hquestion) hmember hvalid

end Law

/-! ### Receipts and records -/

/-- A poll for a receipt or a record that is pinned asks its node every time, and leaves the walk
over the nodes where it is. It has a value only where the transaction is settled, and succeeded if
that is to be validated. It fails for a receipt only if that is to be validated, and for the settled
failure in the last answer. An answer that says pending ends it only with the budget, and is charged
to the node only where the check was not passed. -/
theorem execute_pinned_polls (s : Question.Subject) {account : AccountId}
    (hpinned : s.node = some account) (client : Client ω χ) (scene : Scene ω χ) :
    (∀ query : Query Receipt, query.question = .receipt s →
      let run := query.execute client scene
      let settings := query.settings.getD client.settings
      PollLaw receiptPart true s account settings client scene run ∧
        ((scene.network.member? account).isSome → settings.IsValid → run.attempts ≠ [])) ∧
    ∀ query : Query Record, query.question = .record s →
      let run := query.execute client scene
      let settings := query.settings.getD client.settings
      PollLaw recordPart false s account settings client scene run ∧
        ((scene.network.member? account).isSome → settings.IsValid →
          (∃ operation, (query.prepare client .answerOnly scene).1 = .ok operation) →
          run.attempts ≠ []) := by
  refine ⟨fun query hquestion => ?_, fun query hquestion => ?_⟩
  · have hasks : query.question = asks receiptPart "transaction_receipt" "a receipt"
        (.receipt s.transactionId s.includeChildren s.includeDuplicates) true s.transactionId
        (some account) s.validateStatus := by
      rw [hquestion, ← hpinned]
      rfl
    obtain ⟨hlaw, hbegins⟩ := pollLaw_of_asks hasks client scene
    -- Receipts are free, so there is no payment that could fail.
    have hdue : query.due .answerOnly = none := by
      unfold Query.due
      rw [hquestion]
      rfl
    have hprepared : (query.prepare client .answerOnly scene).1 =
        .ok (query.operation .answerOnly query.named none) := by
      unfold Query.prepare
      rw [hdue]
    exact ⟨hlaw, fun hfound hvalid => hbegins hfound hvalid ⟨_, hprepared⟩⟩
  · have hasks : query.question = asks recordPart "transaction_record" "a record"
        (.record s.transactionId s.includeChildren s.includeDuplicates) false s.transactionId
        (some account) s.validateStatus := by
      rw [hquestion, ← hpinned]
      rfl
    exact pollLaw_of_asks hasks client scene

def acceptedAtFour : Acceptance :=
  { node := .ofNum 4, transactionId := default, hash := [] }

/-- The node of account 4 is busy, has no receipt yet, has one that is not settled, and has one. -/
def sceneWhileBenched : Scene (List (Except TransportError Bytes)) Unit :=
  let scene := Execution.rehearsed <| [
    { precheck := .busy : Response },
    { precheck := .receiptNotFound },
    { precheck := .ok, body := .receipt (.ofStatus .unknown) },
    { precheck := .ok, body := .receipt (.ofStatus .success) }].map fun response =>
      .ok (encode response)
  scene.changeHealth ⟨⟨.ofNum 4, "four", plainPort, none⟩, 1⟩ (·.fail .epoch)

theorem execute_pinned_polls_while_benched :
    acceptedAtFour.subject.node = some (.ofNum 4) ∧
    (sceneWhileBenched.network.healthy sceneWhileBenched.health .epoch).map (·.num) = [3] ∧
    let run := acceptedAtFour.receiptQuery.execute Transaction.clerk sceneWhileBenched
    run.attempts.length = 4 ∧
      ∃ receipt, run.outcome = .ok receipt ∧ receipt.status = .success ∧
        ∀ attempt ∈ run.attempts,
          sceneWhileBenched.network.member? (.ofNum 4) = some attempt.member := by
  have hpinned : acceptedAtFour.subject.node = some (.ofNum 4) := rfl
  refine ⟨hpinned, by decide +kernel, ?_⟩
  intro run
  have hlength : run.attempts.length = 4 := by decide +kernel
  have hok : run.outcome.isOk = true := by decide +kernel
  obtain ⟨hlaw, _⟩ := (execute_pinned_polls acceptedAtFour.subject hpinned Transaction.clerk
    sceneWhileBenched).1 acceptedAtFour.receiptQuery rfl
  refine ⟨hlength, ?_⟩
  cases houtcome : run.outcome with
  | error error =>
      rw [houtcome] at hok
      cases hok
  | ok receipt =>
      obtain ⟨_, hsuccess, _⟩ := hlaw.answered receipt houtcome
      exact ⟨receipt, rfl, hsuccess rfl, hlaw.asked⟩

end Polling

end LedgerClient
