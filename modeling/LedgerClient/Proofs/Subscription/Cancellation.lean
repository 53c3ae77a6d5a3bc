import LedgerClient.Proofs.Subscription.Resumption

/-!
# How a subscription is cancelled

A subscription runs in a task of its own, while whoever holds its handle may cancel it at any time,
or let go of the handle, which cancels it too. The task looks for that at its waits, before it
looks at what is ready there. So a message that it has taken from the stream by then is still
handed to its subscriber, and a call of the subscriber goes on to its end; but nothing else
happens before the task ends well.
-/

namespace LedgerClient

namespace Subscription

variable {s : Subscription}

theorem phase_deliver_cases (s : Subscription) (message : TopicMessage) :
    (s.deliver message).phase = .streaming ∨ (s.deliver message).phase = .ended (.ok ()) := by
  by_cases hlast : s.limit ≠ 0 ∧ s.limit.toNat ≤ s.delivered + 1
  · exact .inr (if_pos hlast)
  · exact .inl (if_neg hlast)

theorem outcome?_stop (hgoing : s.outcome? = none) : s.stop.outcome? = some (.ok ()) := by
  cases hphase : s.phase with
  | ended outcome => simp [outcome?, hphase] at hgoing
  | _ => simp only [outcome?, stop, hphase]

theorem isSome_outcome?_stop (s : Subscription) : s.stop.outcome?.isSome := by
  cases hphase : s.phase <;> simp [stop, outcome?, hphase]

theorem ending_stop (s : Subscription) :
    s.ending s.stop = if s.outcome?.isSome then [] else [.ended (.ok ())] := by
  cases hphase : s.phase <;> simp [ending, outcome?, stop, hphase]

/-! ### Tasks -/

/-- What a task is at. -/
inductive Activity where
  /-- It waits, or has ended. -/
  | waiting
  /-- It has taken a message from the stream. -/
  | holding (message : TopicMessage)
  /-- Its subscriber handles a message. -/
  | handling (message : TopicMessage)

/-- What may happen next while a task runs. -/
inductive Turn where
  /-- The holder of the handle cancels the subscription. -/
  | cancel
  /-- The holder lets go of the handle. -/
  | drop
  /-- The task looks at its wait, and takes what is ready there. -/
  | wake (ready : Option Arrival)
  /-- The task calls its subscriber. -/
  | call
  /-- The call of the subscriber is over. -/
  | finish

def Turn.cancels : Turn → Bool
  | .cancel | .drop => true
  | _ => false

/-- A subscription that runs in a task. -/
structure Task where
  subscription : Subscription
  activity : Activity := .waiting
  isCancelled : Bool := false
  /-- There is a handle of the subscription. -/
  isHeld : Bool := true

namespace Task

def launch (query : TopicQuery) (settings : ExecuteSettings) : Task :=
  { subscription := start query settings }

/-- The task ends at its next wait. -/
def isToStop (task : Task) : Bool := task.isCancelled || !task.isHeld

/-- The message that the task takes from the stream, if that is what is ready. -/
def taken? (task : Task) (ready : Option Arrival) : Option TopicMessage :=
  match task.isToStop, task.subscription.phase, ready with
  | false, .streaming, some (.message message) => some message
  | _, _, _ => none

/-- What happens in a turn, and what the subscription does in it. A turn that is not due changes
nothing. -/
def turn (task : Task) : Turn → Task × List SubscriptionEvent
  | .cancel => ({ task with isCancelled := task.isCancelled || task.isHeld }, [])
  | .drop => ({ task with isCancelled := task.isCancelled || task.isHeld, isHeld := false }, [])
  | .wake ready =>
      match task.activity with
      | .waiting =>
          let subscription := task.subscription.wake task.isToStop ready
          match task.taken? ready with
          | some message => ({ task with subscription, activity := .holding message }, [])
          | none => ({ task with subscription }, task.subscription.doings task.isToStop ready)
      | _ => (task, [])
  | .call =>
      match task.activity with
      | .holding message => ({ task with activity := .handling message }, [.handled message])
      | _ => (task, [])
  | .finish =>
      match task.activity with
      | .handling _ =>
          ({ task with activity := .waiting }, task.subscription.outcome?.toList.map .ended)
      | _ => (task, [])

/-- Turn after turn. -/
def turns (task : Task) : List Turn → Task × List SubscriptionEvent
  | [] => (task, [])
  | turn :: rest =>
      let (next, events) := task.turn turn
      let (last, later) := next.turns rest
      (last, events ++ later)

/-- What is left to do for a task that is to stop. -/
def remaining (task : Task) : List SubscriptionEvent :=
  match task.activity with
  | .waiting => if task.subscription.outcome?.isSome then [] else [.ended (.ok ())]
  | .holding message => [.handled message, .ended (.ok ())]
  | .handling _ => [.ended (.ok ())]

/-- A message that was taken has been counted, and the subscription goes on, or ends well with it. -/
def IsCounted (task : Task) : Prop :=
  task.activity ≠ .waiting →
    task.subscription.phase = .streaming ∨ task.subscription.phase = .ended (.ok ())

variable {task : Task}

theorem turns_cons (task : Task) (turn : Turn) (rest : List Turn) :
    task.turns (turn :: rest) =
      (((task.turn turn).1.turns rest).1,
        (task.turn turn).2 ++ ((task.turn turn).1.turns rest).2) := rfl

theorem eq_streaming_of_taken? {ready : Option Arrival} {message : TopicMessage}
    (htaken : task.taken? ready = some message) :
    task.isToStop = false ∧ task.subscription.phase = .streaming ∧
      ready = some (.message message) := by
  unfold taken? at htaken
  split at htaken
  next hstop hphase =>
    cases htaken
    exact ⟨hstop, hphase, rfl⟩
  next => cases htaken

theorem wake_of_taken? {ready : Option Arrival} {message : TopicMessage}
    (htaken : task.taken? ready = some message) :
    task.subscription.wake task.isToStop ready = task.subscription.deliver message := by
  obtain ⟨hstop, hphase, rfl⟩ := eq_streaming_of_taken? htaken
  simp only [wake, resume, hstop, hphase, Bool.false_eq_true, if_false]

/-! ### A task by itself -/

/-- A task that comes to the end of what it has taken does what its subscription does when it is
woken. -/
theorem turns_waking (hwaiting : task.activity = .waiting) (ready : Option Arrival) :
    task.turns [.wake ready, .call, .finish] =
      ({ task with subscription := task.subscription.wake task.isToStop ready },
        task.subscription.doings task.isToStop ready) := by
  obtain ⟨subscription, activity, isCancelled, isHeld⟩ := task
  obtain rfl : activity = .waiting := hwaiting
  cases htaken : taken? ⟨subscription, .waiting, isCancelled, isHeld⟩ ready with
  | none => simp [turns, turn, htaken]
  | some message =>
      have hwake := wake_of_taken? htaken
      obtain ⟨hstop, hphase, rfl⟩ := eq_streaming_of_taken? htaken
      simp only at hwake hstop hphase
      have hgoing : subscription.outcome? = none := by simp only [outcome?, hphase]
      simp only [turns, turn, htaken, doings, hstop] at hwake ⊢
      simp only [hwake, attempts, hphase, ending, hgoing]
      cases (subscription.deliver message).outcome? <;> rfl

theorem turns_append (task : Task) (before after : List Turn) :
    task.turns (before ++ after) =
      (((task.turns before).1.turns after).1,
        (task.turns before).2 ++ ((task.turns before).1.turns after).2) := by
  induction before generalizing task with
  | nil => rfl
  | cons turn rest ih => rw [List.cons_append, turns_cons, turns_cons, ih, List.append_assoc]

/-- A task that nobody interferes with does what its subscription does. -/
theorem turns_wakings (hwaiting : task.activity = .waiting) (readies : List (Option Arrival)) :
    (task.turns (readies.flatMap fun ready => [.wake ready, .call, .finish])).2 =
      task.subscription.course (readies.map fun ready => (task.isToStop, ready)) := by
  induction readies generalizing task with
  | nil => rfl
  | cons ready rest ih =>
      rw [List.flatMap_cons, turns_append, turns_waking hwaiting]
      exact congrArg (task.subscription.doings task.isToStop ready ++ ·) (ih hwaiting)

/-! ### What a task counts -/

theorem isCounted_launch (query : TopicQuery) (settings : ExecuteSettings) :
    (launch query settings).IsCounted := fun hbusy => absurd rfl hbusy

theorem IsCounted.turn (hcounted : task.IsCounted) (turn : Turn) : (task.turn turn).1.IsCounted := by
  cases turn with
  | cancel => exact hcounted
  | drop => exact hcounted
  | wake ready =>
      simp only [Task.turn]
      split
      next hwaiting =>
        split
        next message htaken =>
          intro _
          simp only [wake_of_taken? htaken]
          exact phase_deliver_cases _ _
        next => exact fun hbusy => absurd hwaiting hbusy
      next => exact hcounted
  | call =>
      simp only [Task.turn]
      split
      next hholding => exact fun _ => hcounted (by simp [hholding])
      next => exact hcounted
  | finish =>
      simp only [Task.turn]
      split
      next => exact fun hbusy => absurd rfl hbusy
      next => exact hcounted

theorem IsCounted.turns (hcounted : task.IsCounted) (taken : List Turn) :
    (task.turns taken).1.IsCounted := by
  induction taken generalizing task with
  | nil => exact hcounted
  | cons turn rest ih => exact ih (hcounted.turn turn)

/-! ### A task that is cancelled -/

theorem isToStop_turn (task : Task) (turn : Turn) :
    (task.turn turn).1.isToStop = (task.isToStop || turn.cancels) := by
  cases turn with
  | cancel =>
      simp only [Task.turn, isToStop, Turn.cancels, Bool.or_true, Bool.or_assoc, Bool.or_not_self]
  | drop => simp only [Task.turn, isToStop, Turn.cancels, Bool.not_false, Bool.or_true]
  | wake ready =>
      simp only [Task.turn, Turn.cancels, Bool.or_false]
      split
      next => split <;> rfl
      next => rfl
  | call =>
      simp only [Task.turn, Turn.cancels, Bool.or_false]
      split <;> rfl
  | finish =>
      simp only [Task.turn, Turn.cancels, Bool.or_false]
      split <;> rfl

theorem isToStop_turns (task : Task) (taken : List Turn) :
    (task.turns taken).1.isToStop = (task.isToStop || taken.any Turn.cancels) := by
  induction taken generalizing task with
  | nil => simp [turns]
  | cons turn rest ih => rw [turns_cons, ih, isToStop_turn, List.any_cons, Bool.or_assoc]

/-- A task that is to stop does so at its wait, whatever is ready there. -/
theorem turn_wake_of_isToStop (hstop : task.isToStop) (hwaiting : task.activity = .waiting)
    (ready : Option Arrival) :
    task.turn (.wake ready) =
      ({ task with subscription := task.subscription.stop },
        if task.subscription.outcome?.isSome then [] else [.ended (.ok ())]) := by
  have htaken : task.taken? ready = none := by simp only [taken?, hstop]
  simp only [turn, hwaiting, htaken, hstop, wake, doings, if_true, List.nil_append, ending_stop]

/-- Once it is to stop, what a task does and what is then left to do is what was left before. -/
theorem turn_remaining (hstop : task.isToStop) (hcounted : task.IsCounted) (turn : Turn) :
    (task.turn turn).2 ++ (task.turn turn).1.remaining = task.remaining := by
  cases turn with
  | cancel => rfl
  | drop => rfl
  | wake ready =>
      by_cases hwaiting : task.activity = .waiting
      · rw [turn_wake_of_isToStop hstop hwaiting]
        simp only [remaining, hwaiting, isSome_outcome?_stop, if_true, List.append_nil]
      · simp only [Task.turn]
        rfl
  | call =>
      simp only [Task.turn]
      split
      next message hholding => simp only [remaining, hholding, List.singleton_append]
      next => rfl
  | finish =>
      simp only [Task.turn]
      split
      next message hhandling =>
        -- The message may have been the last one of the limit.
        obtain hstreaming | hended := hcounted (by simp [hhandling])
        · simp [remaining, hhandling, outcome?, hstreaming]
        · simp [remaining, hhandling, outcome?, hended]
      next => rfl

/-- Whatever happens to a task that is to stop, it does no more than what is left to do. -/
theorem turns_remaining (hstop : task.isToStop) (hcounted : task.IsCounted) (after : List Turn) :
    (task.turns after).2 ++ (task.turns after).1.remaining = task.remaining := by
  induction after generalizing task with
  | nil => rfl
  | cons turn rest ih =>
      have hnext : (task.turn turn).1.isToStop := by simp [isToStop_turn, hstop]
      rw [turns_cons, List.append_assoc, ih hnext (hcounted.turn turn)]
      exact turn_remaining hstop hcounted turn

/-- At its next wait a task that is to stop has nothing left to do. -/
theorem remaining_turns (hstop : task.isToStop) (ready : Option Arrival) :
    (task.turns [.call, .finish, .wake ready]).1.remaining = [] := by
  have hnext : ((task.turn .call).1.turn .finish).1.isToStop := by
    rw [isToStop_turn, isToStop_turn, hstop]
    rfl
  have hwaiting : ((task.turn .call).1.turn .finish).1.activity = .waiting := by
    cases hactivity : task.activity <;> simp [turn, hactivity]
  show (((task.turn .call).1.turn .finish).1.turn (.wake ready)).1.remaining = []
  rw [turn_wake_of_isToStop hnext hwaiting]
  simp only [remaining, hwaiting, isSome_outcome?_stop, if_true]

/-- However far a subscription has come when it is cancelled, or its handle is let go: at a wait it
ends well when it next looks at it, whatever is ready there; if it has taken a message, it still
hands that to its subscriber, and if its subscriber handles a message, that goes on; but it does
nothing else before it ends well, which it does at the next wait. -/
theorem cancelled_task_stops (query : TopicQuery) (settings : ExecuteSettings)
    {before : List Turn} (hcancelled : before.any Turn.cancels) :
    let task := ((launch query settings).turns before).1
    (task.activity = .waiting → task.subscription.outcome? = none → ∀ ready,
      (task.turn (.wake ready)).2 = [.ended (.ok ())] ∧
        (task.turn (.wake ready)).1.subscription.outcome? = some (.ok ())) ∧
    (∀ after, (task.turns after).2 <+: task.remaining) ∧
    ∀ ready, (task.turns [.call, .finish, .wake ready]).2 = task.remaining := by
  intro task
  have hstop : task.isToStop := by simp [task, isToStop_turns, hcancelled]
  have hcounted : task.IsCounted := (isCounted_launch query settings).turns before
  refine ⟨fun hwaiting hgoing ready => ?_, fun after => ?_, fun ready => ?_⟩
  · rw [turn_wake_of_isToStop hstop hwaiting, hgoing]
    exact ⟨rfl, outcome?_stop hgoing⟩
  · rw [← turns_remaining hstop hcounted after]
    exact List.prefix_append _ _
  · have hall := turns_remaining hstop hcounted [.call, .finish, .wake ready]
    rwa [remaining_turns hstop ready, List.append_nil] at hall

/-- A message is taken from the stream before the subscription is cancelled. -/
def takenBefore : List Turn :=
  [.wake (some .opened), .wake (some (.message (Delivery.ofSecond 1))), .cancel]

/-- The handle is let go while the subscription waits for a stream. -/
def droppedBefore : List Turn := [.wake none, .drop]

theorem cancelled_task_stops_holding :
    let holding := ((launch Delivery.firstTwo .quick).turns takenBefore).1
    let waiting := ((launch Delivery.firstTwo .quick).turns droppedBefore).1
    takenBefore.any Turn.cancels ∧
      (holding.turns [.wake none, .call, .cancel]).2 <+:
        [.handled (Delivery.ofSecond 1), .ended (.ok ())] ∧
      (holding.turns [.call, .finish, .wake (some (.message (Delivery.ofSecond 2)))]).2 =
        [.handled (Delivery.ofSecond 1), .ended (.ok ())] ∧
      droppedBefore.any Turn.cancels ∧ waiting.activity = .waiting ∧
      waiting.subscription.outcome? = none ∧
      (waiting.turn (.wake (some .opened))).2 = [.ended (.ok ())] := by
  have htaken : takenBefore.any Turn.cancels := by decide
  have hdropped : droppedBefore.any Turn.cancels := by decide
  obtain ⟨_, hatMost, hends⟩ := cancelled_task_stops Delivery.firstTwo .quick htaken
  obtain ⟨hstops, _, _⟩ := cancelled_task_stops Delivery.firstTwo .quick hdropped
  exact ⟨htaken, hatMost _, hends _, hdropped, rfl, rfl, (hstops rfl rfl _).1⟩

end Task

end Subscription

end LedgerClient
