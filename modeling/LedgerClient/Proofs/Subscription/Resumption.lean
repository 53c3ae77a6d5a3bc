import LedgerClient.Proofs.Subscription.Delivery

/-!
# What a subscription asks for

Whatever its mirror does, a subscription asks each time for what comes after the last message
that was handled, and for as many as the limit leaves; that is never zero, which would be no
limit. With the last message that the limit allows it ends.
-/

namespace LedgerClient

/-- What a subscription does at its waits. -/
inductive SubscriptionEvent where
  /-- It asks for a connection. -/
  | asked (query : TopicQuery)
  /-- It hands a message to its subscriber. -/
  | handled (message : TopicMessage)
  /-- It pauses. -/
  | paused (pause : Duration)
  | ended (outcome : Outcome Unit)

/-- The messages that were handled, in order. -/
def SubscriptionEvent.handledIn (events : List SubscriptionEvent) : List TopicMessage :=
  events.filterMap fun
    | .handled message => some message
    | _ => none

open SubscriptionEvent

namespace Subscription

/-- What a subscription has done by the time it goes on with what is ready: it asked for what it
waits for, or it hands the message on. -/
def attempts (s : Subscription) (ready : Option Arrival) : List SubscriptionEvent :=
  match s.phase, ready with
  | .connecting, _ => [.asked s.query]
  | .streaming, some (.message message) => [.handled message]
  | .resting pause, _ => [.paused pause]
  | _, _ => []

/-- How a subscription ends, if it does so just then. -/
def ending (s next : Subscription) : List SubscriptionEvent :=
  match s.outcome?, next.outcome? with
  | none, some outcome => [.ended outcome]
  | _, _ => []

/-- What a subscription does when it is woken. Once it is to be given up, it attempts nothing. -/
def doings (s : Subscription) (isCancelled : Bool) (ready : Option Arrival) :
    List SubscriptionEvent :=
  (if isCancelled then [] else s.attempts ready) ++ s.ending (s.wake isCancelled ready)

/-- What a subscription does as it is woken again and again, by whatever is ready then. -/
def course (s : Subscription) : List (Bool × Option Arrival) → List SubscriptionEvent
  | [] => []
  | (isCancelled, ready) :: rest =>
      s.doings isCancelled ready ++ (s.wake isCancelled ready).course rest

/-! ### What is still to be asked for -/

/-- A query asks for what comes after messages that the answer to another one began with. -/
structure Resumes (asked query : TopicQuery) (handled : List TopicMessage) : Prop where
  topicId : asked.topicId = query.topicId
  endTime : asked.endTime = query.endTime
  startTime : asked.startTime =
    match handled.getLast? with
    | none => query.startTime
    | some message => some (message.consensusTimestamp + tick)
  unlimited : query.limit = 0 → asked.limit = 0
  limited : query.limit ≠ 0 → asked.limit.toNat + handled.length = query.limit.toNat

/-- A subscription that was started for a query and has handled some messages. -/
structure IsFollowing (query : TopicQuery) (handled : List TopicMessage) (s : Subscription) :
    Prop where
  limit : s.limit = query.limit
  delivered : s.delivered = handled.length
  resumes : Resumes s.query query handled
  going : s.outcome? = none → query.limit ≠ 0 → handled.length < query.limit.toNat

theorem isFollowing_start (query : TopicQuery) (settings : ExecuteSettings) :
    IsFollowing query [] (start query settings) where
  limit := rfl
  delivered := rfl
  resumes := ⟨rfl, rfl, rfl, fun hlimit => hlimit, fun _ => rfl⟩
  going _ hlimit := Nat.pos_of_ne_zero fun hzero => hlimit (UInt64.toNat_inj.mp hzero)

variable {query : TopicQuery} {handled : List TopicMessage} {s : Subscription}

/-- What changes neither the query nor the count stays on the course. -/
theorem IsFollowing.of_same (hfollowing : IsFollowing query handled s) {next : Subscription}
    (hlimit : next.limit = s.limit) (hdelivered : next.delivered = s.delivered)
    (hquery : next.query = s.query) (hgoing : next.outcome? = none → s.outcome? = none) :
    IsFollowing query handled next where
  limit := hlimit.trans hfollowing.limit
  delivered := hdelivered.trans hfollowing.delivered
  resumes := by
    rw [hquery]
    exact hfollowing.resumes
  going hnone := hfollowing.going (hgoing hnone)

theorem resumes_deliver (hfollowing : IsFollowing query handled s) (hgoing : s.outcome? = none)
    (message : TopicMessage) :
    Resumes (s.deliver message).query query (handled ++ [message]) := by
  obtain ⟨hlimit, hdelivered, hresumes, hroom⟩ := hfollowing
  refine ⟨hresumes.topicId, hresumes.endTime, ?_, fun hzero => ?_, fun hpositive => ?_⟩
  · rw [List.getLast?_concat]
    rfl
  · simp only [deliver, queryAfter, hlimit, hzero, if_true]
    exact hresumes.unlimited hzero
  · have hlt := hroom hgoing hpositive
    simp only [deliver, queryAfter, hlimit, hdelivered, if_neg hpositive, List.length_append,
      List.length_singleton]
    rw [Delivery.toNat_limit_after hlt]
    omega

/-- A message is delivered to go on with, or as the last one that the limit allows. -/
theorem phase_deliver (hfollowing : IsFollowing query handled s) (hgoing : s.outcome? = none)
    (message : TopicMessage) :
    ((s.deliver message).phase = .streaming ∧
        (query.limit ≠ 0 → handled.length + 1 < query.limit.toNat)) ∨
      (s.deliver message).phase = .ended (.ok ()) ∧ query.limit ≠ 0 ∧
        handled.length + 1 = query.limit.toNat := by
  obtain ⟨hlimit, hdelivered, _, hroom⟩ := hfollowing
  by_cases hlast : query.limit ≠ 0 ∧ query.limit.toNat ≤ handled.length + 1
  · have hlt := hroom hgoing hlast.1
    refine .inr ⟨?_, hlast.1, by omega⟩
    simp only [deliver, hlimit, hdelivered, if_pos hlast]
  · refine .inl ⟨?_, fun hpositive => ?_⟩
    · simp only [deliver, hlimit, hdelivered, if_neg hlast]
    · apply Nat.lt_of_not_le
      intro hle
      exact hlast ⟨hpositive, hle⟩

theorem IsFollowing.stop (hfollowing : IsFollowing query handled s) :
    IsFollowing query handled s.stop := by
  unfold Subscription.stop
  split
  · exact hfollowing
  · refine hfollowing.of_same rfl rfl rfl fun hnone => ?_
    cases hnone

theorem IsFollowing.fail (hfollowing : IsFollowing query handled s) (hgoing : s.outcome? = none)
    (error : TransportError) : IsFollowing query handled (s.fail error) :=
  hfollowing.of_same rfl rfl rfl fun _ => hgoing

/-- What arrives in place of a message is not asked for again and not counted. -/
theorem IsFollowing.resume (hfollowing : IsFollowing query handled s) (arrival : Arrival)
    (hother : s.phase = .streaming → ∀ message, arrival ≠ .message message) :
    IsFollowing query handled (s.resume arrival) := by
  have hgoing {phase : Phase} (hphase : s.phase = phase)
      (hopen : ∀ outcome, phase ≠ .ended outcome) : s.outcome? = none :=
    Delivery.outcome?_eq_none_of_phase hphase hopen
  unfold Subscription.resume
  split
  next _ hphase => exact hfollowing.of_same rfl rfl rfl fun _ => hgoing hphase (by simp)
  next _ hphase => exact hfollowing.fail (hgoing hphase (by simp)) _
  next message hphase => exact absurd rfl (hother hphase message)
  next _ hphase => exact hfollowing.fail (hgoing hphase (by simp)) _
  next _ hphase => exact hfollowing.of_same rfl rfl rfl fun _ => hgoing hphase (by simp)
  next _ hphase => exact hfollowing.of_same rfl rfl rfl fun _ => hgoing hphase (by simp)
  next => exact hfollowing

theorem IsFollowing.wake (hfollowing : IsFollowing query handled s) (isCancelled : Bool)
    (ready : Option Arrival) (hother : isCancelled = false → s.phase = .streaming →
      ∀ message, ready ≠ some (.message message)) :
    IsFollowing query handled (s.wake isCancelled ready) := by
  unfold Subscription.wake
  split
  next => exact hfollowing.stop
  next hcancelled =>
    cases ready with
    | none => exact hfollowing
    | some arrival =>
        refine hfollowing.resume arrival fun hphase message hmessage => ?_
        exact hother (Bool.eq_false_iff.mpr hcancelled) hphase message (congrArg some hmessage)

/-! ### The course of a subscription -/

/-- What a subscription may do, once it has handled some messages of a query. -/
inductive Follows (query : TopicQuery) : List TopicMessage → List SubscriptionEvent → Prop where
  | nil {handled : List TopicMessage} : Follows query handled []
  | asked {handled : List TopicMessage} {asked : TopicQuery} {rest : List SubscriptionEvent}
      (hresumes : Resumes asked query handled)
      (hpositive : query.limit ≠ 0 → 0 < asked.limit.toNat) (hrest : Follows query handled rest) :
      Follows query handled (.asked asked :: rest)
  | handled {handled : List TopicMessage} {message : TopicMessage} {rest : List SubscriptionEvent}
      (hroom : query.limit ≠ 0 → handled.length + 1 < query.limit.toNat)
      (hrest : Follows query (handled ++ [message]) rest) :
      Follows query handled (.handled message :: rest)
  | last {handled : List TopicMessage} {message : TopicMessage}
      (hlast : handled.length + 1 = query.limit.toNat) :
      Follows query handled [.handled message, .ended (.ok ())]
  | paused {handled : List TopicMessage} {pause : Duration} {rest : List SubscriptionEvent}
      (hrest : Follows query handled rest) : Follows query handled (.paused pause :: rest)
  | ended {handled : List TopicMessage} {outcome : Outcome Unit} :
      Follows query handled [.ended outcome]

theorem stop_of_ended {outcome : Outcome Unit} (hended : s.phase = .ended outcome) :
    s.stop = s := by
  unfold stop
  rw [hended]

theorem resume_of_ended {outcome : Outcome Unit} (hended : s.phase = .ended outcome)
    (arrival : Arrival) : s.resume arrival = s := by
  unfold resume
  rw [hended]

theorem wake_of_ended {outcome : Outcome Unit} (hended : s.phase = .ended outcome)
    (isCancelled : Bool) (ready : Option Arrival) : s.wake isCancelled ready = s := by
  unfold wake
  split
  · exact stop_of_ended hended
  · split
    · exact resume_of_ended hended _
    · rfl

theorem course_of_ended {outcome : Outcome Unit} (hended : s.phase = .ended outcome)
    (wakings : List (Bool × Option Arrival)) : s.course wakings = [] := by
  have houtcome : s.outcome? = some outcome := by simp only [outcome?, hended]
  induction wakings with
  | nil => rfl
  | cons waking rest ih =>
      obtain ⟨isCancelled, ready⟩ := waking
      simp only [course, doings, attempts, ending, wake_of_ended hended, houtcome, hended, ih,
        ite_self, List.append_nil]

/-- The course goes on from what a waking leaves, unless that is the end. -/
theorem follows_ending {next : Subscription} {rest : List SubscriptionEvent}
    (hgoing : s.outcome? = none) (hfollowing : IsFollowing query handled next)
    (hrest : ∀ handled, IsFollowing query handled next → Follows query handled rest)
    (hended : ∀ outcome, next.phase = .ended outcome → rest = []) :
    Follows query handled (s.ending next ++ rest) := by
  unfold ending
  rw [hgoing]
  cases hphase : next.phase with
  | ended outcome =>
      rw [hended outcome hphase]
      simp only [outcome?, hphase]
      exact .ended
  | _ =>
      simp only [outcome?, hphase]
      exact hrest handled hfollowing

/-- What is attempted without a message at hand asks for what is still to come. -/
theorem follows_attempts {ready : Option Arrival} {rest : List SubscriptionEvent}
    (hfollowing : IsFollowing query handled s) (hgoing : s.outcome? = none)
    (hother : s.phase = .streaming → ∀ message, ready ≠ some (.message message))
    (hrest : Follows query handled rest) : Follows query handled (s.attempts ready ++ rest) := by
  unfold attempts
  split
  next =>
    refine .asked hfollowing.resumes (fun hlimit => ?_) hrest
    have hlt := hfollowing.going hgoing hlimit
    have hsum := hfollowing.resumes.limited hlimit
    omega
  next message hphase => exact absurd rfl (hother hphase message)
  next => exact .paused hrest
  next => exact hrest

/-- A message that is handed on is one that the limit allows, and the last such ends the course. -/
theorem follows_message {message : TopicMessage} {rest : List SubscriptionEvent}
    (hfollowing : IsFollowing query handled s) (hphase : s.phase = .streaming)
    (hrest : ∀ handled, IsFollowing query handled (s.deliver message) →
      Follows query handled rest)
    (hended : ∀ outcome, (s.deliver message).phase = .ended outcome → rest = []) :
    Follows query handled (.handled message :: (s.ending (s.deliver message) ++ rest)) := by
  have hgoing : s.outcome? = none := Delivery.outcome?_eq_none_of_phase hphase (by simp)
  have hresumes := resumes_deliver hfollowing hgoing message
  rcases phase_deliver hfollowing hgoing message with ⟨hstreaming, hroom⟩ | ⟨hends, _, hlast⟩
  · have hnext : IsFollowing query (handled ++ [message]) (s.deliver message) := by
      refine ⟨hfollowing.limit, ?_, hresumes, fun _ hlimit => ?_⟩
      · rw [List.length_append, List.length_singleton, ← hfollowing.delivered]
        rfl
      · rw [List.length_append, List.length_singleton]
        exact hroom hlimit
    exact .handled hroom (follows_ending hgoing hnext hrest hended)
  · rw [hended _ hends]
    have houtcome : (s.deliver message).outcome? = some (.ok ()) := by simp only [outcome?, hends]
    simp only [ending, hgoing, houtcome, List.append_nil]
    exact .last hlast

theorem outcome?_eq_none_or_ended (s : Subscription) :
    s.outcome? = none ∨ ∃ outcome, s.phase = .ended outcome := by
  unfold outcome?
  split
  next outcome hphase => exact .inr ⟨outcome, hphase⟩
  next => exact .inl rfl

/-- Whatever wakes a subscription, what it does goes on with its course. -/
theorem follows_doings (hfollowing : IsFollowing query handled s) (isCancelled : Bool)
    (ready : Option Arrival) {rest : List SubscriptionEvent}
    (hrest : ∀ handled, IsFollowing query handled (s.wake isCancelled ready) →
      Follows query handled rest)
    (hended : ∀ outcome, (s.wake isCancelled ready).phase = .ended outcome → rest = []) :
    Follows query handled (s.doings isCancelled ready ++ rest) := by
  unfold doings
  rw [List.append_assoc]
  rcases s.outcome?_eq_none_or_ended with hgoing | ⟨outcome, hphase⟩
  · by_cases hmessage : isCancelled = false ∧ s.phase = .streaming ∧
        ∃ message, ready = some (.message message)
    · obtain ⟨rfl, hphase, message, rfl⟩ := hmessage
      have hwake : s.wake false (some (.message message)) = s.deliver message := by
        simp only [wake, resume, hphase, Bool.false_eq_true, if_false]
      rw [hwake] at hrest hended ⊢
      simp only [attempts, hphase]
      exact follows_message hfollowing hphase hrest hended
    · have hother : isCancelled = false → s.phase = .streaming →
          ∀ message, ready ≠ some (.message message) :=
        fun hcancelled hphase message hready => hmessage ⟨hcancelled, hphase, message, hready⟩
      have hends := follows_ending hgoing (hfollowing.wake isCancelled ready hother) hrest hended
      cases isCancelled with
      | true => exact hends
      | false => exact follows_attempts hfollowing hgoing (hother rfl) hends
  · -- What has ended does nothing more.
    rw [wake_of_ended hphase] at hended
    rw [hended outcome hphase]
    simp only [attempts, ending, hphase, wake_of_ended hphase, outcome?, ite_self, List.append_nil]
    exact .nil

theorem follows_course (hfollowing : IsFollowing query handled s)
    (wakings : List (Bool × Option Arrival)) : Follows query handled (s.course wakings) := by
  induction wakings generalizing handled s with
  | nil => exact .nil
  | cons waking rest ih =>
      obtain ⟨isCancelled, ready⟩ := waking
      exact follows_doings hfollowing isCancelled ready (fun _ hnext => ih hnext)
        fun _ hended => course_of_ended hended rest

/-! ### What the course tells -/

namespace Follows

variable {before after events rest : List SubscriptionEvent}

theorem tail {event : SubscriptionEvent} (hfollows : Follows query handled (event :: rest)) :
    Follows query (handled ++ handledIn [event]) rest := by
  cases hfollows with
  | asked _ _ hrest =>
      rwa [handledIn, List.filterMap_cons_none rfl, List.filterMap_nil, List.append_nil]
  | handled _ hrest => exact hrest
  | last _ => exact .ended
  | paused hrest =>
      rwa [handledIn, List.filterMap_cons_none rfl, List.filterMap_nil, List.append_nil]
  | ended => exact .nil

/-- What is left of a course goes on from what was handled before. -/
theorem of_append (hfollows : Follows query handled (before ++ rest)) :
    Follows query (handled ++ handledIn before) rest := by
  induction before generalizing handled with
  | nil => rwa [handledIn, List.filterMap_nil, List.append_nil]
  | cons event others ih =>
      have hlater := ih hfollows.tail
      rwa [List.append_assoc, handledIn, handledIn, ← List.filterMap_append] at hlater

theorem resumes_of_asked {asked : TopicQuery}
    (hfollows : Follows query [] (before ++ .asked asked :: after)) :
    Resumes asked query (handledIn before) ∧ (query.limit ≠ 0 → 0 < asked.limit.toNat) := by
  cases hfollows.of_append with
  | asked hresumes hpositive _ => exact ⟨hresumes, hpositive⟩

theorem room_of_handled {message : TopicMessage}
    (hfollows : Follows query [] (before ++ .handled message :: after)) (hlimit : query.limit ≠ 0) :
    (handledIn before).length + 1 < query.limit.toNat ∨
      (handledIn before).length + 1 = query.limit.toNat ∧ after = [.ended (.ok ())] := by
  cases hfollows.of_append with
  | handled hroom _ => exact .inl (hroom hlimit)
  | last hlast => exact .inr ⟨hlast, rfl⟩

theorem length_handledIn_le (hfollows : Follows query handled events)
    (hlimit : query.limit ≠ 0 → handled.length ≤ query.limit.toNat) (hbounded : query.limit ≠ 0) :
    handled.length + (handledIn events).length ≤ query.limit.toNat := by
  induction hfollows with
  | nil => exact hlimit hbounded
  | asked _ _ _ ih => exact ih hlimit
  | @handled handled message rest hroom _ ih =>
      have hle := ih fun _ => by
        rw [List.length_append, List.length_singleton]
        exact Nat.le_of_lt (hroom hbounded)
      rw [List.length_append, List.length_singleton, Nat.add_assoc, Nat.add_comm 1] at hle
      exact hle
  | last hlast => exact Nat.le_of_eq hlast
  | paused _ ih => exact ih hlimit
  | ended => exact hlimit hbounded

end Follows

/-- Whatever wakes a subscription, and in whatever order: each time it asks for what comes after the
messages that were handled by then, and under a limit for as many as it leaves, one or more; it
handles no more than the limit in all, and ends well right after the last one. -/
theorem course_resumes (query : TopicQuery) (settings : ExecuteSettings)
    (wakings : List (Bool × Option Arrival)) :
    let events := (start query settings).course wakings
    (∀ before asked after, events = before ++ .asked asked :: after →
      Resumes asked query (handledIn before) ∧ (query.limit ≠ 0 → 0 < asked.limit.toNat)) ∧
    (query.limit ≠ 0 → (handledIn events).length ≤ query.limit.toNat) ∧
    ∀ before message after, events = before ++ .handled message :: after → query.limit ≠ 0 →
      (handledIn before).length + 1 < query.limit.toNat ∨
        (handledIn before).length + 1 = query.limit.toNat ∧ after = [.ended (.ok ())] := by
  intro events
  have hfollows : Follows query [] events :=
    follows_course (isFollowing_start query settings) wakings
  refine ⟨fun before asked after hevents => ?_, fun hlimit => ?_,
    fun before message after hevents hlimit => ?_⟩
  · rw [hevents] at hfollows
    exact hfollows.resumes_of_asked
  · have hle := hfollows.length_handledIn_le (fun _ => Nat.zero_le _) hlimit
    rwa [List.length_nil, Nat.zero_add] at hle
  · rw [hevents] at hfollows
    exact hfollows.room_of_handled hlimit

/-- A stream that breaks after a message, and one that would bring two more. -/
def breaking : List (Bool × Option Arrival) :=
  [(false, some .opened), (false, some (.message (Delivery.ofSecond 1))),
    (false, some (.broke .closed)), (false, some .rested), (false, some .opened),
    (false, some (.message (Delivery.ofSecond 2))), (false, some (.message (Delivery.ofSecond 3)))]

theorem course_resumes_breaking :
    (start Delivery.firstTwo .quick).course breaking =
      [.asked Delivery.firstTwo, .handled (Delivery.ofSecond 1),
        .paused (ExecuteSettings.quick.backoffFor 0)] ++
      .asked ⟨.ofNum 9, some ⟨1, 1⟩, none, 1⟩ ::
        [.handled (Delivery.ofSecond 2), .ended (.ok ())] ∧
    Delivery.firstTwo.limit ≠ 0 ∧
    Resumes ⟨.ofNum 9, some ⟨1, 1⟩, none, 1⟩ Delivery.firstTwo [Delivery.ofSecond 1] ∧
    (handledIn ((start Delivery.firstTwo .quick).course breaking)).length ≤ 2 := by
  have hevents : (start Delivery.firstTwo .quick).course breaking =
      [.asked Delivery.firstTwo, .handled (Delivery.ofSecond 1),
        .paused (ExecuteSettings.quick.backoffFor 0)] ++
      .asked ⟨.ofNum 9, some ⟨1, 1⟩, none, 1⟩ ::
        [.handled (Delivery.ofSecond 2), .ended (.ok ())] := rfl
  obtain ⟨hasked, hlength, _⟩ := course_resumes Delivery.firstTwo .quick breaking
  have hlimit : Delivery.firstTwo.limit ≠ 0 := by decide
  exact ⟨hevents, hlimit, (hasked _ _ _ hevents).1, hlength hlimit⟩

end Subscription

end LedgerClient
