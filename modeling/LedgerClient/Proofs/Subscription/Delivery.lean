import LedgerClient.Proofs.Timestamp.Order
import LedgerClient.Subscription
import Mathlib.Logic.Relation

/-!
# What a subscription delivers

A subscription follows a topic over connections that may fail or break at any point.
What it delivers over all of them is what one connection that never breaks would have
brought: each connection asks for just what the ones before it still owe.
-/

namespace LedgerClient

/-! ### What a mirror answers -/

namespace TopicQuery

/-- A moment is within the bounds of a query, the first one inclusive and the second exclusive. -/
def Admits (query : TopicQuery) (moment : Timestamp) : Prop :=
  (∀ start ∈ query.startTime, start ≤ moment) ∧ ∀ stop ∈ query.endTime, moment < stop

instance (query : TopicQuery) : DecidablePred query.Admits := fun moment =>
  inferInstanceAs (Decidable ((∀ start ∈ query.startTime, start ≤ moment) ∧ _))

/-- The first messages, as many as a limit allows; zero is no limit. -/
def limited (limit : UInt64) (messages : List TopicMessage) : List TopicMessage :=
  if limit = 0 then messages else messages.take limit.toNat

/-- What a query denotes of the messages of its topic. -/
def answer (query : TopicQuery) (stored : List TopicMessage) : List TopicMessage :=
  limited query.limit (stored.filter fun message => query.Admits message.consensusTimestamp)

end TopicQuery

/-- Messages as a topic holds them: at normal moments, one after the other, before the last second
there is. -/
structure IsTopicLog (stored : List TopicMessage) : Prop where
  normal : ∀ message ∈ stored, message.consensusTimestamp.IsNormal
  bounded : ∀ message ∈ stored, message.consensusTimestamp.seconds.toInt < 2 ^ 63 - 1
  increasing : stored.Pairwise fun a b => a.consensusTimestamp < b.consensusTimestamp

namespace TopicQuery

/-- Where a message comes first, the messages admitted after it are the others. -/
theorem filter_after {query next : TopicQuery} {stored rest : List TopicMessage}
    {message : TopicMessage} (hlog : IsTopicLog stored)
    (hfilter : (stored.filter fun m => query.Admits m.consensusTimestamp) = message :: rest)
    (hstart : next.startTime = some (message.consensusTimestamp + Subscription.tick))
    (hend : next.endTime = query.endTime) :
    (stored.filter fun m => next.Admits m.consensusTimestamp) = rest := by
  have hmem : message ∈ stored.filter fun m => query.Admits m.consensusTimestamp := by
    rw [hfilter]
    exact List.mem_cons_self
  obtain ⟨hstored, hadmits⟩ := List.mem_filter.mp hmem
  obtain ⟨hfrom, _⟩ := of_decide_eq_true hadmits
  -- Starting a nanosecond after the message admits just what comes after it.
  have hnext : ∀ m ∈ stored, decide (next.Admits m.consensusTimestamp) =
      (decide (message.consensusTimestamp < m.consensusTimestamp) &&
        decide (query.Admits m.consensusTimestamp)) := by
    intro m hm
    have hafter := Timestamp.add_nano_le_iff (rfl : Subscription.tick.nanos = 1)
      (hlog.normal message hstored) (hlog.bounded message hstored) (hlog.normal m hm)
    rw [Bool.eq_iff_iff]
    simp only [Bool.and_eq_true, decide_eq_true_eq]
    constructor
    · rintro ⟨hnear, hto⟩
      have hlt := hafter.mp (hnear _ hstart)
      exact ⟨hlt, fun start hquery => Timestamp.le_of_le_of_lt (hfrom start hquery) hlt, hend ▸ hto⟩
    · rintro ⟨hlt, _, hto⟩
      refine ⟨fun start hquery => ?_, hend ▸ hto⟩
      rw [hstart] at hquery
      cases hquery
      exact hafter.mpr hlt
  have hpairwise := hlog.increasing.filter fun m => decide (query.Admits m.consensusTimestamp)
  rw [hfilter, List.pairwise_cons] at hpairwise
  rw [List.filter_congr hnext, ← List.filter_filter, hfilter, List.filter_cons_of_neg]
  · exact List.filter_eq_self.mpr fun m hm => decide_eq_true (hpairwise.1 m hm)
  · exact of_decide_eq_false (decide_eq_false (by simp [Timestamp.lt_irrefl]))

/-- After the first message of an answer, the query for what comes after it, with a limit lower by one
if there is one, is answered by the rest. A limit that comes to zero leaves no rest. -/
theorem answer_after {query next : TopicQuery} {stored rest : List TopicMessage}
    {message : TopicMessage} (hlog : IsTopicLog stored)
    (hanswer : query.answer stored = message :: rest)
    (hstart : next.startTime = some (message.consensusTimestamp + Subscription.tick))
    (hend : next.endTime = query.endTime) :
    (query.limit = 0 → next.limit = 0 → next.answer stored = rest) ∧
    (query.limit ≠ 0 → next.limit.toNat + 1 = query.limit.toNat →
      if next.limit = 0 then rest = [] else next.answer stored = rest) := by
  constructor
  · intro hquery hnext
    simp only [answer, limited, hquery, if_true] at hanswer
    simp only [answer, limited, hnext, if_true]
    exact filter_after hlog hanswer hstart hend
  · intro hquery hnext
    simp only [answer, limited, if_neg hquery, ← hnext] at hanswer
    cases hfilter : stored.filter fun m => query.Admits m.consensusTimestamp with
    | nil => simp [hfilter] at hanswer
    | cons first others =>
        rw [hfilter, List.take_succ_cons, List.cons.injEq] at hanswer
        obtain ⟨rfl, hrest⟩ := hanswer
        split
        next hzero =>
          rw [← hrest, hzero]
          rfl
        next hpositive =>
          simp only [answer, limited, if_neg hpositive]
          rw [filter_after hlog hfilter hstart hend, hrest]

end TopicQuery

/-! ### Deliveries -/

/-- A subscription with its mirror and its subscriber. -/
structure Delivery where
  subscription : Subscription
  /-- What is left of the stream that is open. -/
  stream : List TopicMessage := []
  /-- What was handed to the subscriber, in order. -/
  delivered : List TopicMessage := []
  /-- The subscription was given up. -/
  isCancelled : Bool := false

namespace Delivery

/-- A subscription that begins. -/
def start (query : TopicQuery) (settings : ExecuteSettings) : Delivery :=
  { subscription := .start query settings }

/-- What can happen next, the mirror holding messages for each topic. Connections may fail and streams
break at any time. A stream brings the answer to the query it was opened with, and completes behind it. -/
inductive Step (stored : TopicId → List TopicMessage) : Delivery → Delivery → Prop where
  | opened {d : Delivery} (hphase : d.subscription.phase = .connecting) :
      Step stored d { d with
        subscription := d.subscription.wake false (some .opened)
        stream := d.subscription.query.answer (stored d.subscription.query.topicId) }
  | refused {d : Delivery} (error : TransportError) (hphase : d.subscription.phase = .connecting) :
      Step stored d { d with subscription := d.subscription.wake false (some (.refused error)) }
  | message {d : Delivery} {message : TopicMessage} {rest : List TopicMessage}
      (hphase : d.subscription.phase = .streaming) (hstream : d.stream = message :: rest) :
      Step stored d { d with
        subscription := d.subscription.wake false (some (.message message))
        stream := rest
        delivered := d.delivered ++ [message] }
  | broke {d : Delivery} (error : TransportError) (hphase : d.subscription.phase = .streaming) :
      Step stored d { d with subscription := d.subscription.wake false (some (.broke error)) }
  | completed {d : Delivery} (hphase : d.subscription.phase = .streaming) (hstream : d.stream = []) :
      Step stored d { d with subscription := d.subscription.wake false (some .completed) }
  | rested {d : Delivery} {pause : Duration} (hphase : d.subscription.phase = .resting pause) :
      Step stored d { d with subscription := d.subscription.wake false (some .rested) }
  | idle {d : Delivery} : Step stored d { d with subscription := d.subscription.wake false none }
  | cancelled {d : Delivery} (ready : Option Arrival) (hphase : d.subscription.outcome? = none) :
      Step stored d { d with
        subscription := d.subscription.wake true ready
        isCancelled := true }

/-- What a delivery comes to, whatever happens, for an original query. -/
structure IsOnCourse (query : TopicQuery) (stored : List TopicMessage) (d : Delivery) : Prop where
  limit : d.subscription.limit = query.limit
  count : d.subscription.delivered = d.delivered.length
  topicId : d.subscription.query.topicId = query.topicId
  endTime : d.subscription.query.endTime = query.endTime
  unlimited : query.limit = 0 → d.subscription.query.limit = 0
  /-- While it goes on, the next connection is asked for as many as the limit leaves, and for just what
  is still owed. -/
  limited : d.subscription.outcome? = none → query.limit ≠ 0 →
    d.delivered.length < query.limit.toNat ∧
      d.subscription.query.limit.toNat + d.delivered.length = query.limit.toNat
  owed : d.subscription.outcome? = none →
    d.delivered ++ d.subscription.query.answer stored = query.answer stored
  stream : d.subscription.phase = .streaming → d.stream = d.subscription.query.answer stored
  inOrder : d.delivered <+: query.answer stored
  complete : d.subscription.outcome? = some (.ok ()) → d.isCancelled = false →
    d.delivered = query.answer stored

theorem isOnCourse_start (query : TopicQuery) (settings : ExecuteSettings)
    (stored : List TopicMessage) : IsOnCourse query stored (.start query settings) where
  limit := rfl
  count := rfl
  topicId := rfl
  endTime := rfl
  unlimited hlimit := hlimit
  limited _ hlimit := by
    refine ⟨?_, rfl⟩
    exact Nat.pos_of_ne_zero fun hzero => hlimit (UInt64.toNat_inj.mp hzero)
  owed _ := rfl
  stream hphase := by cases hphase
  inOrder := List.nil_prefix
  complete hended := by cases hended

/-- A step that delivers nothing and asks for nothing else stays on course, if a stream that it opens
holds what is owed, and if it ends well only when all is delivered. -/
theorem IsOnCourse.of_same {query : TopicQuery} {stored : List TopicMessage} {d next : Delivery}
    (hcourse : IsOnCourse query stored d)
    (hlimit : next.subscription.limit = d.subscription.limit)
    (hcount : next.subscription.delivered = d.subscription.delivered)
    (hquery : next.subscription.query = d.subscription.query)
    (hdelivered : next.delivered = d.delivered)
    (hgoing : next.subscription.outcome? = none → d.subscription.outcome? = none)
    (hstream : next.subscription.phase = .streaming →
      next.stream = d.subscription.query.answer stored)
    (hcomplete : next.subscription.outcome? = some (.ok ()) → next.isCancelled = false →
      d.delivered = query.answer stored) : IsOnCourse query stored next where
  limit := hlimit.trans hcourse.limit
  count := by rw [hcount, hdelivered, hcourse.count]
  topicId := by rw [hquery, hcourse.topicId]
  endTime := by rw [hquery, hcourse.endTime]
  unlimited := by
    rw [hquery]
    exact hcourse.unlimited
  limited := by
    rw [hquery, hdelivered]
    exact fun hnone => hcourse.limited (hgoing hnone)
  owed := by
    rw [hquery, hdelivered]
    exact fun hnone => hcourse.owed (hgoing hnone)
  stream := by
    rw [hquery]
    exact hstream
  inOrder := by
    rw [hdelivered]
    exact hcourse.inOrder
  complete := by
    rw [hdelivered]
    exact hcomplete

theorem outcome?_eq_none_of_phase {s : Subscription} {phase : Phase} (hphase : s.phase = phase)
    (hgoing : ∀ outcome, phase ≠ .ended outcome) : s.outcome? = none := by
  unfold Subscription.outcome?
  split
  next outcome hended => exact absurd (hphase.symm.trans hended) (hgoing outcome)
  next => rfl

/-- A failure neither opens a stream nor ends well. -/
theorem IsOnCourse.fail {query : TopicQuery} {stored : List TopicMessage} {d : Delivery}
    (hcourse : IsOnCourse query stored d) (hgoing : d.subscription.outcome? = none)
    (error : TransportError) :
    IsOnCourse query stored { d with subscription := d.subscription.fail error } := by
  have hphase : (∃ outcome, (d.subscription.fail error).phase = .ended (.error outcome)) ∨
      ∃ pause, (d.subscription.fail error).phase = .resting pause := by
    simp only [Subscription.fail]
    split
    · exact .inl ⟨_, rfl⟩
    · exact .inr ⟨_, rfl⟩
  refine hcourse.of_same rfl rfl rfl rfl (fun _ => hgoing) ?_ ?_
  · intro hstreaming
    rcases hphase with ⟨outcome, hended⟩ | ⟨pause, hresting⟩
    · exact absurd (hended.symm.trans hstreaming) (by simp)
    · exact absurd (hresting.symm.trans hstreaming) (by simp)
  · intro hok
    unfold Subscription.outcome? at hok
    rcases hphase with ⟨outcome, hended⟩ | ⟨pause, hresting⟩
    · simp [hended] at hok
    · simp [hresting] at hok

theorem toNat_limit_after {limit : UInt64} {delivered : Nat} (hdelivered : delivered ≤ limit.toNat) :
    (limit - UInt64.ofNat delivered).toNat = limit.toNat - delivered := by
  have hfits : (UInt64.ofNat delivered).toNat = delivered :=
    UInt64.toNat_ofNat_of_lt' (Nat.lt_of_le_of_lt hdelivered limit.toNat_lt)
  rw [UInt64.toNat_sub_of_le _ _ (by rwa [UInt64.le_iff_toNat_le, hfits]), hfits]

/-- A message delivered leaves the stream with what is then owed, or it was the last one the limit
allows. -/
theorem deliver_cases {query : TopicQuery} {stored rest : List TopicMessage} {d : Delivery}
    {message : TopicMessage} (hlog : IsTopicLog stored) (hcourse : IsOnCourse query stored d)
    (hphase : d.subscription.phase = .streaming) (hstream : d.stream = message :: rest) :
    let next := d.subscription.deliver message
    (next.phase = .streaming ∧ next.query.answer stored = rest ∧
      (query.limit = 0 → next.query.limit = 0) ∧
      (query.limit ≠ 0 → d.delivered.length + 1 < query.limit.toNat ∧
        next.query.limit.toNat + (d.delivered.length + 1) = query.limit.toNat)) ∨
    (next.phase = .ended (.ok ()) ∧ rest = [] ∧ query.limit ≠ 0) := by
  intro next
  have hgoing : d.subscription.outcome? = none := outcome?_eq_none_of_phase hphase (by simp)
  have hanswer : d.subscription.query.answer stored = message :: rest :=
    (hcourse.stream hphase).symm.trans hstream
  have hstart : next.query.startTime = some (message.consensusTimestamp + Subscription.tick) := rfl
  obtain ⟨hfree, hbound⟩ := TopicQuery.answer_after hlog hanswer hstart rfl
  by_cases hlimit : query.limit = 0
  · -- Without a limit only the start of the query moves.
    have hquery : next.query.limit = 0 := by
      simp only [next, Subscription.deliver, Subscription.queryAfter, hcourse.limit, hlimit, if_true]
      exact hcourse.unlimited hlimit
    refine .inl ⟨?_, hfree (hcourse.unlimited hlimit) hquery, fun _ => hquery, absurd hlimit⟩
    simp [next, Subscription.deliver, hcourse.limit, hlimit]
  · obtain ⟨hlt, hleft⟩ := hcourse.limited hgoing hlimit
    have hquery : next.query.limit.toNat = query.limit.toNat - (d.delivered.length + 1) := by
      simp only [next, Subscription.deliver, Subscription.queryAfter, hcourse.limit, hcourse.count,
        if_neg hlimit]
      exact toNat_limit_after hlt
    have hpositive : d.subscription.query.limit ≠ 0 := by
      intro hzero
      rw [hzero] at hleft
      have hsum : 0 + d.delivered.length = query.limit.toNat := hleft
      omega
    have hrest := hbound hpositive (by omega)
    by_cases hlast : query.limit.toNat ≤ d.delivered.length + 1
    · -- A limit of zero would be none at all, but the subscription ends here and asks no more.
      have hzero : next.query.limit = 0 := UInt64.toNat_inj.mp (by
        rw [hquery]
        show _ = 0
        omega)
      rw [if_pos hzero] at hrest
      refine .inr ⟨?_, hrest, hlimit⟩
      simp [next, Subscription.deliver, hcourse.limit, hcourse.count, hlimit, hlast]
    · have hnonzero : next.query.limit ≠ 0 := by
        intro hzero
        rw [hzero] at hquery
        have hdifference : 0 = query.limit.toNat - (d.delivered.length + 1) := hquery
        omega
      rw [if_neg hnonzero] at hrest
      refine .inl ⟨?_, hrest, fun hzero => absurd hzero hlimit, fun _ => ⟨by omega, by omega⟩⟩
      simp [next, Subscription.deliver, hcourse.limit, hcourse.count, hlast]

theorem IsOnCourse.deliver {query : TopicQuery} {stored rest : List TopicMessage} {d : Delivery}
    {message : TopicMessage} (hlog : IsTopicLog stored) (hcourse : IsOnCourse query stored d)
    (hphase : d.subscription.phase = .streaming) (hstream : d.stream = message :: rest) :
    IsOnCourse query stored { d with
      subscription := d.subscription.deliver message
      stream := rest
      delivered := d.delivered ++ [message] } := by
  have hgoing : d.subscription.outcome? = none := outcome?_eq_none_of_phase hphase (by simp)
  have hall : (d.delivered ++ [message]) ++ rest = query.answer stored := by
    rw [List.append_assoc, ← hcourse.owed hgoing, ← hcourse.stream hphase, hstream]
    rfl
  have hcount : (d.subscription.deliver message).delivered = (d.delivered ++ [message]).length := by
    simp only [Subscription.deliver, hcourse.count, List.length_append, List.length_singleton]
  rcases deliver_cases hlog hcourse hphase hstream with
    ⟨hstreaming, hanswer, hfree, hbound⟩ | ⟨hended, hrest, hlimit⟩
  · have hgoes := outcome?_eq_none_of_phase hstreaming (by simp)
    refine ⟨hcourse.limit, hcount, hcourse.topicId, hcourse.endTime, hfree, ?_, ?_, ?_,
      ⟨rest, hall⟩, ?_⟩
    · intro _ hlimit
      rw [List.length_append, List.length_singleton]
      exact hbound hlimit
    · intro _
      rw [hanswer]
      exact hall
    · intro _
      exact hanswer.symm
    · intro hok
      exact absurd (hgoes.symm.trans hok) (by simp)
  · have hends : (d.subscription.deliver message).outcome? = some (.ok ()) := by
      simp only [Subscription.outcome?, hended]
    refine ⟨hcourse.limit, hcount, hcourse.topicId, hcourse.endTime,
      fun hzero => absurd hzero hlimit, ?_, ?_, ?_, ⟨rest, hall⟩, ?_⟩
    · intro hnone
      exact absurd (hends.symm.trans hnone) (by simp)
    · intro hnone
      exact absurd (hends.symm.trans hnone) (by simp)
    · intro hstreaming
      exact absurd (hended.symm.trans hstreaming) (by simp)
    · intro _ _
      rw [← hall, hrest, List.append_nil]

/-- Whatever happens next, a delivery stays on course. -/
theorem IsOnCourse.step {query : TopicQuery} {stored : TopicId → List TopicMessage}
    {d next : Delivery} (hlog : IsTopicLog (stored query.topicId))
    (hcourse : IsOnCourse query (stored query.topicId) d) (hstep : Step stored d next) :
    IsOnCourse query (stored query.topicId) next := by
  cases hstep with
  | opened hphase =>
      have hgoing := outcome?_eq_none_of_phase hphase (by simp)
      have hopens : d.subscription.wake false (some .opened) =
          { d.subscription with phase := .streaming } := by
        simp [Subscription.wake, Subscription.resume, hphase]
      rw [hopens, hcourse.topicId]
      exact hcourse.of_same rfl rfl rfl rfl (fun _ => hgoing) (fun _ => rfl) (fun hok => by cases hok)
  | refused error hphase =>
      have hfails : d.subscription.wake false (some (.refused error)) =
          d.subscription.fail error := by
        simp [Subscription.wake, Subscription.resume, hphase]
      rw [hfails]
      exact hcourse.fail (outcome?_eq_none_of_phase hphase (by simp)) error
  | @message message rest hphase hstream =>
      have hdelivers : d.subscription.wake false (some (.message message)) =
          d.subscription.deliver message := by
        simp [Subscription.wake, Subscription.resume, hphase]
      rw [hdelivers]
      exact hcourse.deliver hlog hphase hstream
  | broke error hphase =>
      have hfails : d.subscription.wake false (some (.broke error)) = d.subscription.fail error := by
        simp [Subscription.wake, Subscription.resume, hphase]
      rw [hfails]
      exact hcourse.fail (outcome?_eq_none_of_phase hphase (by simp)) error
  | completed hphase hstream =>
      have hgoing := outcome?_eq_none_of_phase hphase (by simp)
      have hends : d.subscription.wake false (some .completed) =
          { d.subscription with phase := .ended (.ok ()) } := by
        simp [Subscription.wake, Subscription.resume, hphase]
      rw [hends]
      refine hcourse.of_same rfl rfl rfl rfl (fun _ => hgoing) (fun hstreaming => by
        cases hstreaming) (fun _ _ => ?_)
      -- The stream has brought all that it was opened for, so nothing is owed.
      have howed := hcourse.owed hgoing
      rwa [← hcourse.stream hphase, hstream, List.append_nil] at howed
  | rested hphase =>
      have hgoing := outcome?_eq_none_of_phase hphase (by simp)
      have hrests : d.subscription.wake false (some .rested) =
          { d.subscription with phase := .connecting } := by
        simp [Subscription.wake, Subscription.resume, hphase]
      rw [hrests]
      exact hcourse.of_same rfl rfl rfl rfl (fun _ => hgoing) (fun hstreaming => by
        cases hstreaming) (fun hok => by cases hok)
  | idle => exact hcourse
  | cancelled ready hgoing =>
      have hstops : d.subscription.wake true ready =
          { d.subscription with phase := .ended (.ok ()) } := by
        show d.subscription.stop = _
        unfold Subscription.stop
        split
        next outcome hended => simp [Subscription.outcome?, hended] at hgoing
        next => rfl
      rw [hstops]
      -- It ends well though messages may be owed, but it is noted as given up.
      exact hcourse.of_same rfl rfl rfl rfl (fun _ => hgoing) (fun hstreaming => by
        cases hstreaming) (fun _ hcancelled => by cases hcancelled)

theorem isOnCourse_of_steps {query : TopicQuery} {settings : ExecuteSettings}
    {stored : TopicId → List TopicMessage} {d : Delivery}
    (hlog : IsTopicLog (stored query.topicId))
    (hsteps : Relation.ReflTransGen (Step stored) (.start query settings) d) :
    IsOnCourse query (stored query.topicId) d := by
  induction hsteps with
  | refl => exact isOnCourse_start query settings _
  | tail _ hstep ih => exact ih.step hlog hstep

/-- Over connections that fail and streams that break at any point, the messages delivered are the
first ones of those the original query denotes, and all of them when the subscription ends well
without being given up. -/
theorem delivered_of_steps {query : TopicQuery} {settings : ExecuteSettings}
    {stored : TopicId → List TopicMessage} {d : Delivery}
    (hlog : IsTopicLog (stored query.topicId))
    (hsteps : Relation.ReflTransGen (Step stored) (.start query settings) d) :
    d.delivered <+: query.answer (stored query.topicId) ∧
      (d.subscription.outcome? = some (.ok ()) → d.isCancelled = false →
        d.delivered = query.answer (stored query.topicId)) :=
  ⟨(isOnCourse_of_steps hlog hsteps).inOrder, (isOnCourse_of_steps hlog hsteps).complete⟩

/-- The message of a second. -/
def ofSecond (second : Int64) : TopicMessage := ⟨.ofNum 9, ⟨second, 0⟩, 0, []⟩

/-- A topic with a message in each of three seconds. -/
def everySecond : List TopicMessage := [ofSecond 1, ofSecond 2, ofSecond 3]

/-- Asks for two messages. -/
def firstTwo : TopicQuery := ⟨.ofNum 9, some ⟨1, 0⟩, none, 2⟩

theorem delivered_of_steps_broken : IsTopicLog everySecond ∧ ∃ d,
    Relation.ReflTransGen (Step fun _ => everySecond) (.start firstTwo .quick) d ∧
      d.subscription.outcome? = some (.ok ()) ∧ d.delivered = firstTwo.answer everySecond ∧
      d.delivered.length = 2 := by
  have hlog : IsTopicLog everySecond := ⟨by decide, by decide, by decide⟩
  have hopened : Relation.ReflTransGen (Step fun _ => everySecond) (.start firstTwo .quick) _ :=
    .single (.opened rfl)
  have hmessage := hopened.tail (@Step.message _ _ (ofSecond 1) [ofSecond 2] rfl rfl)
  have hbroke := hmessage.tail (.broke .closed rfl)
  have hrested := hbroke.tail (@Step.rested _ _ _ rfl)
  have hreopened := hrested.tail (.opened rfl)
  have hlast := hreopened.tail (@Step.message _ _ (ofSecond 2) [] rfl rfl)
  exact ⟨hlog, _, hlast, rfl, (delivered_of_steps hlog hlast).2 rfl rfl, rfl⟩

end Delivery

end LedgerClient
