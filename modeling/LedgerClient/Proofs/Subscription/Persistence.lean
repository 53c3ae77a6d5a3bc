import LedgerClient.Proofs.Subscription.Resumption
import Mathlib.Data.List.DropRight

/-!
# When a subscription gives up

A subscription follows its topic through one session after another. It gives up when too many of
them in a row have failed, where one that delivered a message before it failed makes up for all
the failures before it. As long as it does not, it pauses after each failure, longer and longer
until a message comes through, and however often it has failed it ends well with a stream that
completes or with the last message that the limit allows.
-/

namespace LedgerClient

namespace Subscription

/-! ### Sessions -/

/-- What comes of a connection. -/
inductive Session where
  | refused (error : TransportError)
  /-- A stream brings messages and breaks. -/
  | broken (messages : List TopicMessage) (error : TransportError)
  /-- A stream brings messages and completes. -/
  | completed (messages : List TopicMessage)

namespace Session

def messages : Session → List TopicMessage
  | .refused _ => []
  | .broken messages _ => messages
  | .completed messages => messages

/-- Why a session failed, if it did. -/
def error? : Session → Option TransportError
  | .refused error => some error
  | .broken _ error => some error
  | .completed _ => none

def delivers (session : Session) : Bool := !session.messages.isEmpty

/-- What arrives in a session, in order. -/
def arrivals : Session → List Arrival
  | .refused error => [.refused error]
  | .broken messages error => .opened :: (messages.map .message ++ [.broke error])
  | .completed messages => .opened :: (messages.map .message ++ [.completed])

end Session

/-- What arrives in sessions one after the other, with a pause between two. -/
def arrivalsOver (sessions : List Session) : List Arrival :=
  (sessions.flatMap fun session => .rested :: session.arrivals).tail

/-- A subscription after sessions. -/
def afterSessions (s : Subscription) (sessions : List Session) : Subscription :=
  (arrivalsOver sessions).foldl resume s

/-- A subscription that was woken again and again. -/
def woken (s : Subscription) (wakings : List (Bool × Option Arrival)) : Subscription :=
  wakings.foldl (fun s waking => s.wake waking.1 waking.2) s

/-- The messages that sessions bring are as many as a limit allows; zero is no limit. -/
def ReachesLimit (limit : UInt64) (sessions : List Session) : Prop :=
  limit ≠ 0 ∧ limit.toNat ≤ (sessions.flatMap Session.messages).length

instance (limit : UInt64) (sessions : List Session) : Decidable (ReachesLimit limit sessions) :=
  inferInstanceAs (Decidable (_ ∧ _))

/-- All sessions have failed, before the limit was reached. -/
def HaveFailed (limit : UInt64) (tried : List Session) : Prop :=
  (∀ session ∈ tried, session.error?.isSome) ∧ ¬ ReachesLimit limit tried

instance (limit : UInt64) (tried : List Session) : Decidable (HaveFailed limit tried) :=
  inferInstanceAs (Decidable (_ ∧ _))

/-- As many sessions as there are attempts have failed, and the last of them, but for one that a
message may have come through in, delivered nothing. -/
structure AreSpent (limit : UInt64) (attempts : Nat) (sessions : List Session) : Prop where
  failed : HaveFailed limit sessions
  tried : sessions ≠ []
  enough : attempts ≤ sessions.length
  quiet : ∀ session ∈ sessions.rtake (attempts - 1), session.delivers = false

instance (limit : UInt64) (attempts : Nat) (sessions : List Session) :
    Decidable (AreSpent limit attempts sessions) :=
  decidable_of_iff
    (HaveFailed limit sessions ∧ sessions ≠ [] ∧ attempts ≤ sessions.length ∧
      ∀ session ∈ sessions.rtake (attempts - 1), session.delivers = false)
    ⟨fun ⟨hfailed, htried, henough, hquiet⟩ => ⟨hfailed, htried, henough, hquiet⟩,
      fun hspent => ⟨hspent.failed, hspent.tried, hspent.enough, hspent.quiet⟩⟩

/-- The sessions since, and including, the last one that delivered a message; all of them if none
did. -/
def sinceDelivery : List Session → List Session
  | [] => []
  | session :: rest => if rest.any Session.delivers then sinceDelivery rest else session :: rest

theorem sinceDelivery_concat (tried : List Session) (session : Session) :
    sinceDelivery (tried ++ [session]) =
      if session.delivers then [session] else sinceDelivery tried ++ [session] := by
  induction tried with
  | nil => simp [sinceDelivery]
  | cons first rest ih =>
      by_cases hdelivers : session.delivers
      · simp [sinceDelivery, ih, hdelivers]
      · by_cases hrest : rest.any Session.delivers
        · simp [sinceDelivery, ih, hdelivers, hrest]
        · simp [sinceDelivery, hdelivers, hrest]

/-- The sessions since the last delivery are as many as there are attempts exactly when all are, and
the last ones, one less than there are attempts, delivered nothing. -/
theorem le_length_sinceDelivery_iff (attempts : Nat) (tried : List Session) :
    attempts ≤ (sinceDelivery tried).length ↔
      attempts ≤ tried.length ∧
        ∀ session ∈ tried.rtake (attempts - 1), session.delivers = false := by
  induction tried using List.reverseRecOn generalizing attempts with
  | nil => simp [sinceDelivery]
  | append_singleton tried session ih =>
      rw [sinceDelivery_concat]
      match attempts with
      | 0 => simp
      | 1 => split <;> simp
      | attempts + 2 =>
          have hlast : ∀ later, later ∈ (tried ++ [session]).rtake (attempts + 1) ↔
              later ∈ tried.rtake attempts ∨ later = session := by
            simp [List.rtake_concat_succ]
          simp only [Nat.add_one_sub_one, hlast, List.length_append, List.length_singleton]
          by_cases hdelivers : session.delivers
          · simp [hdelivers]
          · simp only [Bool.not_eq_true] at hdelivers
            simp only [hdelivers, Bool.false_eq_true, if_false, or_imp, forall_and, forall_eq,
              and_true, List.length_append, List.length_singleton]
            show attempts + 1 + 1 ≤ _ + 1 ↔ attempts + 1 + 1 ≤ _ + 1 ∧ _
            rw [Nat.add_le_add_iff_right, Nat.add_le_add_iff_right]
            exact ih (attempts + 1)

/-! ### What a session does to a subscription -/

variable {query : TopicQuery} {settings : ExecuteSettings} {s : Subscription}

/-- Nothing wakes a subscription but what it waits for. -/
theorem woken_eq_foldl (s : Subscription) {wakings : List (Bool × Option Arrival)}
    (hgoing : ∀ waking ∈ wakings, waking.1 = false) :
    s.woken wakings = (wakings.filterMap Prod.snd).foldl resume s := by
  induction wakings generalizing s with
  | nil => rfl
  | cons waking rest ih =>
      obtain ⟨isCancelled, ready⟩ := waking
      obtain ⟨rfl, hrest⟩ := List.forall_mem_cons.mp hgoing
      have hlater := fun s => ih s hrest
      cases ready with
      | none => simpa [woken, wake] using hlater s
      | some arrival => simpa [woken, wake] using hlater (s.resume arrival)

theorem foldl_resume_of_ended {outcome : Outcome Unit} (hended : s.phase = .ended outcome)
    (arrivals : List Arrival) : arrivals.foldl resume s = s := by
  induction arrivals with
  | nil => rfl
  | cons arrival rest ih => rw [List.foldl_cons, resume_of_ended hended, ih]

theorem resume_message (hphase : s.phase = .streaming) (message : TopicMessage) :
    s.resume (.message message) = s.deliver message := by
  simp only [resume, hphase]

theorem resume_broke (hphase : s.phase = .streaming) (error : TransportError) :
    s.resume (.broke error) = s.fail error := by
  simp only [resume, hphase]

theorem resume_completed (hphase : s.phase = .streaming) :
    s.resume .completed = { s with phase := .ended (.ok ()) } := by
  simp only [resume, hphase]

/-- What messages of a stream leave, where the limit allows them and more. -/
structure HasHandled (messages : List TopicMessage) (s next : Subscription) : Prop where
  phase : next.phase = .streaming
  settings : next.settings = s.settings
  limit : next.limit = s.limit
  topicId : next.query.topicId = s.query.topicId
  delivered : next.delivered = s.delivered + messages.length
  failures : next.failures = if messages = [] then s.failures else 0

theorem hasHandled_messages (hphase : s.phase = .streaming) {messages : List TopicMessage}
    (hroom : ¬ (s.limit ≠ 0 ∧ s.limit.toNat ≤ s.delivered + messages.length)) :
    HasHandled messages s ((messages.map Arrival.message).foldl resume s) := by
  induction messages generalizing s with
  | nil => exact ⟨hphase, rfl, rfl, rfl, rfl, rfl⟩
  | cons message rest ih =>
      have hstreaming : (s.deliver message).phase = .streaming := by
        simp only [deliver, ite_eq_right_iff]
        intro hlast
        exact absurd ⟨hlast.1, by rw [List.length_cons]; omega⟩ hroom
      have hnext := @ih (s.deliver message) hstreaming (by
        simpa [deliver, Nat.add_assoc, Nat.add_comm 1] using hroom)
      rw [List.map_cons, List.foldl_cons, resume_message hphase]
      refine ⟨hnext.phase, hnext.settings, hnext.limit, hnext.topicId, ?_, ?_⟩
      · rw [hnext.delivered, List.length_cons]
        show s.delivered + 1 + rest.length = _
        omega
      · rw [hnext.failures]
        simp [deliver]

/-- A stream with as many messages as the limit leaves ends the subscription well, whatever else it
brings. -/
theorem ended_messages (hphase : s.phase = .streaming) {messages : List TopicMessage}
    (hlimit : s.limit ≠ 0) (hgoing : s.delivered < s.limit.toNat)
    (hreached : s.limit.toNat ≤ s.delivered + messages.length) :
    ((messages.map Arrival.message).foldl resume s).phase = .ended (.ok ()) := by
  induction messages generalizing s with
  | nil => exact absurd hgoing (Nat.not_lt.mpr hreached)
  | cons message rest ih =>
      rw [List.map_cons, List.foldl_cons, resume_message hphase]
      by_cases hlast : s.limit.toNat ≤ s.delivered + 1
      · have hends : (s.deliver message).phase = .ended (.ok ()) := by
          simp [deliver, hlimit, hlast]
        rw [foldl_resume_of_ended hends, hends]
      · apply ih
        · simp [deliver, hlast]
        · exact hlimit
        · exact Nat.lt_of_not_le hlast
        · show s.limit.toNat ≤ s.delivered + 1 + rest.length
          rw [List.length_cons] at hreached
          omega

/-- A subscription that has tried sessions, which all failed, and goes on. -/
structure IsTrying (query : TopicQuery) (settings : ExecuteSettings) (tried : List Session)
    (s : Subscription) : Prop where
  bounds : s.settings = settings
  limit : s.limit = query.limit
  topicId : s.query.topicId = query.topicId
  delivered : s.delivered = (tried.flatMap Session.messages).length
  room : ¬ ReachesLimit query.limit tried
  failures : s.failures = (sinceDelivery tried).length
  phase : s.phase =
    if tried = [] then .connecting
    else .resting (settings.backoffFor ((sinceDelivery tried).length - 1))

theorem not_reachesLimit_nil (limit : UInt64) : ¬ ReachesLimit limit [] := by
  rintro ⟨hlimit, hle⟩
  exact hlimit (UInt64.toNat_inj.mp (Nat.le_zero.mp hle))

theorem isTrying_start (query : TopicQuery) (settings : ExecuteSettings) :
    IsTrying query settings [] (start query settings) :=
  ⟨rfl, rfl, rfl, rfl, not_reachesLimit_nil query.limit, rfl, rfl⟩

variable {tried : List Session} {session : Session}

theorem IsTrying.rested (htrying : IsTrying query settings tried s) :
    s.resume .rested = { s with phase := .connecting } := by
  have hphase := htrying.phase
  by_cases htried : tried = []
  · rw [if_pos htried] at hphase
    cases s
    cases hphase
    rfl
  · rw [if_neg htried] at hphase
    simp only [resume, hphase]

/-- The arrivals of a stream are its messages, and how it ends. -/
theorem IsTrying.foldl_stream (htrying : IsTrying query settings tried s)
    (messages : List TopicMessage) (last : Arrival) :
    (.rested :: .opened :: (messages.map .message ++ [last])).foldl resume s =
      ((messages.map .message).foldl resume { s with phase := .streaming }).resume last := by
  rw [List.foldl_cons, htrying.rested, List.foldl_cons, List.foldl_append]
  rfl

/-- The limit leaves room for the messages of a session as long as it is not reached with them. -/
theorem IsTrying.reachesLimit_iff (htrying : IsTrying query settings tried s)
    (session : Session) :
    ReachesLimit query.limit (tried ++ [session]) ↔
      s.limit ≠ 0 ∧ s.limit.toNat ≤ s.delivered + session.messages.length := by
  rw [htrying.limit, htrying.delivered]
  simp [ReachesLimit]

/-- A session that fails counts for one failure more, or for the first one if it delivered a
message. -/
theorem IsTrying.exists_fail (htrying : IsTrying query settings tried s) {error : TransportError}
    (herror : session.error? = some error)
    (hroom : ¬ ReachesLimit query.limit (tried ++ [session])) :
    ∃ last : Subscription, (.rested :: session.arrivals).foldl resume s = last.fail error ∧
      last.settings = settings ∧ last.limit = query.limit ∧
      last.query.topicId = query.topicId ∧
      last.delivered = ((tried ++ [session]).flatMap Session.messages).length ∧
      last.failures + 1 = (sinceDelivery (tried ++ [session])).length := by
  rw [htrying.reachesLimit_iff] at hroom
  rw [List.flatMap_append, List.length_append, ← htrying.delivered, sinceDelivery_concat]
  cases session with
  | refused =>
      cases herror
      refine ⟨{ s with phase := .connecting }, ?_, htrying.bounds, htrying.limit,
        htrying.topicId, rfl, ?_⟩
      · rw [List.foldl_cons, htrying.rested]
        rfl
      · simp [Session.delivers, Session.messages, htrying.failures]
  | broken messages =>
      cases herror
      have hhandled := @hasHandled_messages { s with phase := .streaming } rfl messages hroom
      refine ⟨_, ?_, hhandled.settings.trans htrying.bounds, hhandled.limit.trans htrying.limit,
        hhandled.topicId.trans htrying.topicId, ?_, ?_⟩
      · rw [Session.arrivals, htrying.foldl_stream, resume_broke hhandled.phase]
      · rw [hhandled.delivered]
        simp [Session.messages]
      · rw [hhandled.failures]
        by_cases hmessages : messages = []
        · simp [Session.delivers, Session.messages, hmessages, htrying.failures]
        · simp [Session.delivers, Session.messages, hmessages]
  | completed => cases herror

theorem IsTrying.delivered_lt (htrying : IsTrying query settings tried s) (hlimit : s.limit ≠ 0) :
    s.delivered < s.limit.toNat := by
  rw [htrying.limit] at hlimit ⊢
  rw [htrying.delivered]
  exact Nat.lt_of_not_le fun hle => htrying.room ⟨hlimit, hle⟩

/-- A stream that brings the last message of the limit ends the subscription well, however it ends
itself. -/
theorem IsTrying.ended_stream (htrying : IsTrying query settings tried s)
    {messages : List TopicMessage}
    (hreached : s.limit ≠ 0 ∧ s.limit.toNat ≤ s.delivered + messages.length) (last : Arrival) :
    ((.rested :: .opened :: (messages.map .message ++ [last])).foldl resume s).phase =
      .ended (.ok ()) := by
  have hmessages := @ended_messages { s with phase := .streaming } rfl messages hreached.1
    (htrying.delivered_lt hreached.1) hreached.2
  rw [htrying.foldl_stream, resume_of_ended hmessages, hmessages]

/-- A stream that completes ends the subscription well, and so does the last message that the limit
allows. -/
theorem IsTrying.ended (htrying : IsTrying query settings tried s)
    (hends : session.error? = none ∨ ReachesLimit query.limit (tried ++ [session])) :
    ((.rested :: session.arrivals).foldl resume s).phase = .ended (.ok ()) := by
  rw [htrying.reachesLimit_iff] at hends
  cases session with
  | refused =>
      obtain herror | ⟨hlimit, hreached⟩ := hends
      · cases herror
      · exact absurd (htrying.delivered_lt hlimit) (Nat.not_lt.mpr hreached)
  | broken messages error =>
      obtain herror | hreached := hends
      · cases herror
      · exact htrying.ended_stream hreached _
  | completed messages =>
      by_cases hreached : s.limit ≠ 0 ∧ s.limit.toNat ≤ s.delivered + messages.length
      · exact htrying.ended_stream hreached _
      · have hhandled := @hasHandled_messages { s with phase := .streaming } rfl messages hreached
        rw [Session.arrivals, htrying.foldl_stream, resume_completed hhandled.phase]

/-! ### Session after session -/

theorem afterSessions_concat (query : TopicQuery) (settings : ExecuteSettings)
    (tried : List Session) (session : Session) :
    (start query settings).afterSessions (tried ++ [session]) =
      (.rested :: session.arrivals).foldl resume
        ((start query settings).afterSessions tried) := by
  -- What starts does not pause, so a pause before the first session makes no difference.
  have hpaused : ∀ sessions, (start query settings).afterSessions sessions =
      (sessions.flatMap fun session => .rested :: session.arrivals).foldl resume
        (start query settings) := by
    intro sessions
    cases sessions with
    | nil => rfl
    | cons => rfl
  rw [hpaused, hpaused, List.flatMap_append, List.foldl_append]
  simp

theorem HaveFailed.of_concat {limit : UInt64} (hfailed : HaveFailed limit (tried ++ [session])) :
    HaveFailed limit tried := by
  obtain ⟨herrors, hroom⟩ := hfailed
  refine ⟨fun earlier hearlier => herrors earlier (List.mem_append_left _ hearlier), ?_⟩
  rintro ⟨hlimit, hle⟩
  apply hroom
  refine ⟨hlimit, hle.trans ?_⟩
  simp

/-- The sessions are not spent at any point. -/
def AreUnspent (limit : UInt64) (attempts : Nat) (tried : List Session) : Prop :=
  ∀ earlier, earlier <+: tried → ¬ AreSpent limit attempts earlier

theorem areUnspent_concat_iff {limit : UInt64} {attempts : Nat} :
    AreUnspent limit attempts (tried ++ [session]) ↔
      AreUnspent limit attempts tried ∧ ¬ AreSpent limit attempts (tried ++ [session]) := by
  simp only [AreUnspent, List.prefix_concat_iff, or_imp, forall_and, forall_eq]
  exact And.comm

theorem areSpent_iff {limit : UInt64} {attempts : Nat}
    (hfailed : HaveFailed limit (tried ++ [session])) :
    AreSpent limit attempts (tried ++ [session]) ↔
      attempts ≤ (sinceDelivery (tried ++ [session])).length := by
  rw [le_length_sinceDelivery_iff]
  constructor
  · exact fun hspent => ⟨hspent.enough, hspent.quiet⟩
  · exact fun ⟨henough, hquiet⟩ => ⟨hfailed, by simp, henough, hquiet⟩

/-- Sessions that have failed, and are not spent, leave a subscription that goes on. -/
theorem isTrying_afterSessions (hfailed : HaveFailed query.limit tried)
    (hunspent : AreUnspent query.limit settings.maxAttempts.toNat tried) :
    IsTrying query settings tried ((start query settings).afterSessions tried) := by
  induction tried using List.reverseRecOn with
  | nil => exact isTrying_start query settings
  | append_singleton tried session ih =>
      obtain ⟨hearlier, hnow⟩ := areUnspent_concat_iff.mp hunspent
      obtain ⟨error, herror⟩ := Option.isSome_iff_exists.mp (hfailed.1 session (by simp))
      obtain ⟨last, hlast, hbounds, hlimit, htopic, hdelivered, hfailures⟩ :=
        (ih hfailed.of_concat hearlier).exists_fail herror hfailed.2
      rw [areSpent_iff hfailed, ← hfailures] at hnow
      rw [afterSessions_concat, hlast]
      refine ⟨hbounds, hlimit, htopic, hdelivered, hfailed.2, hfailures, ?_⟩
      simp [fail, hbounds, hnow, ← hfailures]

/-- Where the sessions become spent, the subscription gives up, and says so. -/
theorem gaveUp_afterSessions
    (hunspent : AreUnspent query.limit settings.maxAttempts.toNat tried)
    (hspent : AreSpent query.limit settings.maxAttempts.toNat (tried ++ [session])) :
    ∃ error, session.error? = some error ∧
      ((start query settings).afterSessions (tried ++ [session])).outcome? =
        some (.error (.subscription (.gaveUp query.topicId
          (sinceDelivery (tried ++ [session])).length error))) := by
  have hfailed := hspent.failed
  obtain ⟨error, herror⟩ := Option.isSome_iff_exists.mp (hfailed.1 session (by simp))
  obtain ⟨last, hlast, hbounds, _, htopic, _, hfailures⟩ :=
    (isTrying_afterSessions hfailed.of_concat hunspent).exists_fail herror hfailed.2
  rw [areSpent_iff hfailed, ← hfailures] at hspent
  refine ⟨error, herror, ?_⟩
  rw [afterSessions_concat, hlast]
  simp [fail, outcome?, hbounds, htopic, hspent, ← hfailures]

theorem outcome?_of_isTrying (htrying : IsTrying query settings tried s) : s.outcome? = none := by
  have hphase := htrying.phase
  split at hphase <;> simp [outcome?, hphase]

/-- A session leaves a subscription that has ended well, or has only failed. -/
theorem ended_or_haveFailed (hfailed : HaveFailed query.limit tried)
    (hunspent : AreUnspent query.limit settings.maxAttempts.toNat tried) (session : Session) :
    ((start query settings).afterSessions (tried ++ [session])).outcome? = some (.ok ()) ∨
      HaveFailed query.limit (tried ++ [session]) := by
  by_cases hends : session.error? = none ∨ ReachesLimit query.limit (tried ++ [session])
  · have hended := (isTrying_afterSessions hfailed hunspent).ended hends
    refine .inl ?_
    simp only [afterSessions_concat, outcome?, hended]
  · obtain ⟨herror, hroom⟩ := not_or.mp hends
    refine .inr ⟨fun later hlater => ?_, hroom⟩
    obtain hearlier | hlast := List.mem_append.mp hlater
    · exact hfailed.1 later hearlier
    · rw [List.mem_singleton.mp hlast]
      exact Option.isSome_iff_ne_none.mpr herror

/-- A subscription goes on exactly when all its sessions have failed and are not spent. -/
theorem outcome?_afterSessions_eq_none_iff :
    ((start query settings).afterSessions tried).outcome? = none ↔
      HaveFailed query.limit tried ∧
        AreUnspent query.limit settings.maxAttempts.toNat tried := by
  constructor
  · intro hgoing
    induction tried using List.reverseRecOn with
    | nil =>
        refine ⟨⟨by simp, not_reachesLimit_nil _⟩, fun earlier hearlier hspent => ?_⟩
        exact hspent.tried (List.prefix_nil.mp hearlier)
    | append_singleton tried session ih =>
        obtain hbefore | ⟨outcome, hended⟩ :=
          ((start query settings).afterSessions tried).outcome?_eq_none_or_ended
        · obtain ⟨hfailed, hunspent⟩ := ih hbefore
          obtain hended | hall := ended_or_haveFailed hfailed hunspent session
          · cases hgoing.symm.trans hended
          · refine ⟨hall, areUnspent_concat_iff.mpr ⟨hunspent, fun hspent => ?_⟩⟩
            obtain ⟨error, _, hgaveUp⟩ := gaveUp_afterSessions hunspent hspent
            cases hgoing.symm.trans hgaveUp
        · -- What has ended stays as it is.
          rw [afterSessions_concat, foldl_resume_of_ended hended] at hgoing
          simp [outcome?, hended] at hgoing
  · rintro ⟨hfailed, hunspent⟩
    exact outcome?_of_isTrying (isTrying_afterSessions hfailed hunspent)

/-- A subscription fails with a session only when its sessions are spent with it, and were not
before. -/
theorem areSpent_of_error {fault : ClientError}
    (hbefore : ((start query settings).afterSessions tried).outcome? = none)
    (hfault : ((start query settings).afterSessions (tried ++ [session])).outcome? =
      some (.error fault)) :
    AreUnspent query.limit settings.maxAttempts.toNat tried ∧
      AreSpent query.limit settings.maxAttempts.toNat (tried ++ [session]) := by
  obtain ⟨hfailed, hunspent⟩ := outcome?_afterSessions_eq_none_iff.mp hbefore
  refine ⟨hunspent, ?_⟩
  obtain hended | hall := ended_or_haveFailed hfailed hunspent session
  · cases hended.symm.trans hfault
  · by_contra hnow
    have hgoes := outcome?_afterSessions_eq_none_iff.mpr
      ⟨hall, areUnspent_concat_iff.mpr ⟨hunspent, hnow⟩⟩
    cases hgoes.symm.trans hfault

/-- Through whatever sessions, and however often it is woken in between without anything ready, a
subscription gives up just at the session with which they are spent, pauses before it connects
again as long as the sessions since the last delivery ask for, and ends well with a stream that
completes or with the last message of the limit. -/
theorem gives_up_just_when_spent (query : TopicQuery) (settings : ExecuteSettings) :
    let attempts := settings.maxAttempts.toNat
    let after := (start query settings).afterSessions
    (∀ tried session,
      ((after tried).outcome? = none ∧
          ∃ fault, (after (tried ++ [session])).outcome? = some (.error (.subscription fault))) ↔
        AreUnspent query.limit attempts tried ∧
          AreSpent query.limit attempts (tried ++ [session])) ∧
    (∀ tried, tried ≠ [] → HaveFailed query.limit tried → AreUnspent query.limit attempts tried →
      (after tried).phase =
        .resting (settings.backoffFor ((sinceDelivery tried).length - 1))) ∧
    (∀ tried session, HaveFailed query.limit tried → AreUnspent query.limit attempts tried →
      session.error? = none ∨ ReachesLimit query.limit (tried ++ [session]) →
      (after (tried ++ [session])).outcome? = some (.ok ())) ∧
    ∀ sessions wakings, (∀ waking ∈ wakings, waking.1 = false) →
      wakings.filterMap Prod.snd = arrivalsOver sessions →
      (start query settings).woken wakings = after sessions := by
  intro attempts after
  refine ⟨fun tried session => ⟨?_, ?_⟩, fun tried htried hfailed hunspent => ?_,
    fun tried session hfailed hunspent hends => ?_, fun sessions wakings hgoing harrivals => ?_⟩
  · rintro ⟨hbefore, _, hfault⟩
    exact areSpent_of_error hbefore hfault
  · rintro ⟨hunspent, hspent⟩
    obtain ⟨error, _, hgaveUp⟩ := gaveUp_afterSessions hunspent hspent
    exact ⟨outcome?_afterSessions_eq_none_iff.mpr ⟨hspent.failed.of_concat, hunspent⟩,
      _, hgaveUp⟩
  · have hphase := (isTrying_afterSessions hfailed hunspent).phase
    rwa [if_neg htried] at hphase
  · have hended := (isTrying_afterSessions hfailed hunspent).ended hends
    simp only [after, afterSessions_concat, outcome?, hended]
  · rw [woken_eq_foldl _ hgoing, harrivals]
    rfl

/-- Two refusals, a stream that breaks after a message, and another refusal. -/
def faltering : List Session :=
  [.refused .closed, .refused .closed, .broken [Delivery.ofSecond 1] .closed, .refused .closed]

/-- What it takes for these sessions to arrive, with nothing ready in between. -/
def falteringWakings : List (Bool × Option Arrival) :=
  (arrivalsOver faltering).flatMap fun arrival => [(false, none), (false, some arrival)]

theorem gives_up_just_when_spent_faltering :
    let query : TopicQuery := ⟨.ofNum 9, none, none, 3⟩
    let settings := { ExecuteSettings.quick with maxAttempts := 3 }
    let after := (start query settings).afterSessions
    AreSpent 3 3 (faltering ++ [.refused .closed]) ∧
      (∃ fault, (after (faltering ++ [.refused .closed])).outcome? =
        some (.error (.subscription fault))) ∧
      HaveFailed 3 faltering ∧ (after faltering).phase = .resting (settings.backoffFor 1) ∧
      Session.error? (.completed []) = none ∧
      (after (faltering ++ [.completed []])).outcome? = some (.ok ()) ∧
      (start query settings).woken falteringWakings = after faltering := by
  intro query settings after
  obtain ⟨hgivesUp, hpauses, hends, hwoken⟩ := gives_up_just_when_spent query settings
  have hspent : AreSpent 3 3 (faltering ++ [.refused .closed]) := by decide
  have hfailed : HaveFailed 3 faltering := by decide
  have hunspent : AreUnspent 3 3 faltering :=
    (@outcome?_afterSessions_eq_none_iff query settings faltering).mp rfl |>.2
  refine ⟨hspent, ((hgivesUp _ _).mpr ⟨hunspent, hspent⟩).2, hfailed, ?_, rfl, ?_, ?_⟩
  · exact hpauses faltering (by simp [faltering]) hfailed hunspent
  · exact hends faltering _ hfailed hunspent (.inl rfl)
  · exact hwoken faltering falteringWakings (by decide) rfl

end Subscription

end LedgerClient
