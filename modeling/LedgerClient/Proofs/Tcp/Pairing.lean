import LedgerClient.Proofs.Tcp.Peer

/-!
# Answers and their requests

A channel keeps a connection only where no answer is due on it: every request that was written to it
has had its answer read. So what is read next is the answer to what is written next. A call that
fails, or that its caller gives up, leaves its connection behind with all that may still come over
it, and the next request goes over a new one. This is so once a call has its turn: the caller of one
that still waits for it gives up nothing but the wait.
-/

namespace LedgerClient.Tcp

variable {ω κ : Type}

/-! ### What is done with sockets -/

/-- Something that is done with sockets. -/
inductive Deed (κ : Type) where
  /-- A wait for the connection, and whether the caller stayed until its end. -/
  | lock (granted : Bool)
  /-- A dial, and the socket that came of it. -/
  | dial (socket : Option κ)
  | write (socket : κ) (octets : Bytes)
  | read (socket : κ) (count : Nat)
  | shutDown (socket : κ)
  | hangUp (socket : κ)

/-- It is done with a socket that is there already. -/
def Deed.IsUseOf (socket : κ) : Deed κ → Prop
  | .lock _ | .dial _ => False
  | .write other _ | .read other _ | .shutDown other | .hangUp other => other = socket

/-- The same sockets, with all that is done with them noted in order. -/
def Sockets.noted (sockets : Sockets ω κ) : Sockets (ω × List (Deed κ)) κ where
  lock world :=
    let (turn, after) := sockets.lock world.1
    (turn, (after, world.2 ++ [.lock turn.isSome]))
  dial endpoint world :=
    let (reply, after) := sockets.dial endpoint world.1
    (reply, (after, world.2 ++ [.dial (reply.bind (·.toOption))]))
  write socket octets world :=
    let (reply, after) := sockets.write socket octets world.1
    (reply, (after, world.2 ++ [.write socket octets]))
  read socket count world :=
    let (portion, after) := sockets.read socket count world.1
    (portion, (after, world.2 ++ [.read socket count]))
  shutDown socket world :=
    let (reply, after) := sockets.shutDown socket world.1
    (reply, (after, world.2 ++ [.shutDown socket]))
  hangUp socket world := (sockets.hangUp socket world.1, world.2 ++ [.hangUp socket])

theorem AnswersInOrder.noted {sockets : Sockets ω κ} {line : ω → κ → Line}
    (hpeer : AnswersInOrder sockets line) :
    AnswersInOrder sockets.noted fun world => line world.1 where
  lock world := hpeer.lock world.1
  dial endpoint world socket after hdial := by
    simp only [Sockets.noted, Prod.mk.injEq] at hdial
    obtain ⟨hreply, rfl⟩ := hdial
    exact hpeer.dial endpoint world.1 socket _ (Prod.ext hreply rfl)
  write socket octets world after hwrite := by
    simp only [Sockets.noted, Prod.mk.injEq] at hwrite
    obtain ⟨hreply, rfl⟩ := hwrite
    exact hpeer.write socket octets world.1 _ (Prod.ext hreply rfl)
  read socket count world bytes after hread := by
    simp only [Sockets.noted, Prod.mk.injEq] at hread
    obtain ⟨hportion, rfl⟩ := hread
    exact hpeer.read socket count world.1 bytes _ (Prod.ext hportion rfl)
  taken world := hpeer.taken world.1
  asked world := hpeer.asked world.1
  fits world := hpeer.fits world.1

/-! ### What a call does with sockets -/

/-- Nothing was done but with a socket that was there already. -/
def OnlyUses (socket : κ) (world after : ω × List (Deed κ)) : Prop :=
  ∃ deeds, after.2 = world.2 ++ deeds ∧ ∀ deed ∈ deeds, deed.IsUseOf socket

theorem OnlyUses.trans {socket : κ} {world middle after : ω × List (Deed κ)}
    (hfirst : OnlyUses socket world middle) (hsecond : OnlyUses socket middle after) :
    OnlyUses socket world after := by
  obtain ⟨deeds, hdeeds, huses⟩ := hfirst
  obtain ⟨others, hothers, hothersUse⟩ := hsecond
  refine ⟨deeds ++ others, by rw [hothers, hdeeds, List.append_assoc], ?_⟩
  simpa [or_imp, forall_and] using ⟨huses, hothersUse⟩

/-- Nothing was done but with a socket that was there already, and if a request fits, it was the
first thing to be written. -/
def Asks (socket : κ) (limit : Nat) (request : Bytes) (world after : ω × List (Deed κ)) : Prop :=
  ∃ deeds, after.2 = world.2 ++ deeds ∧ (∀ deed ∈ deeds, deed.IsUseOf socket) ∧
    (Fits limit request → deeds.head? = some (.write socket (framed request)))

theorem Asks.trans {socket : κ} {limit : Nat} {request : Bytes}
    {world middle after : ω × List (Deed κ)} (hfirst : Asks socket limit request world middle)
    (hsecond : OnlyUses socket middle after) : Asks socket limit request world after := by
  obtain ⟨deeds, hdeeds, huses, hwritten⟩ := hfirst
  obtain ⟨others, hothers, hothersUse⟩ := hsecond
  refine ⟨deeds ++ others, by rw [hothers, hdeeds, List.append_assoc], ?_, fun hfits => ?_⟩
  · simpa [or_imp, forall_and] using ⟨huses, hothersUse⟩
  · rw [List.head?_append, hwritten hfits]
    rfl

section Noted

variable (sockets : Sockets ω κ) (socket : κ) (limit : Nat) (world : ω × List (Deed κ))

theorem onlyUses_read (count : Nat) :
    OnlyUses socket world (sockets.noted.read socket count world).2 :=
  ⟨[.read socket count], rfl, by simp [Deed.IsUseOf]⟩

theorem onlyUses_hangUp : OnlyUses socket world (sockets.noted.hangUp socket world) :=
  ⟨[.hangUp socket], rfl, by simp [Deed.IsUseOf]⟩

theorem asks_writeFrame (request : Bytes) :
    Asks socket limit request world (writeFrame sockets.noted limit socket request world).2 := by
  unfold writeFrame
  cases hframe : frame limit request with
  | error error =>
      refine ⟨[], (List.append_nil _).symm, by simp, fun hfits => ?_⟩
      rw [hfits.frame_eq] at hframe
      cases hframe
  | ok octets =>
      obtain ⟨_, rfl⟩ := fits_of_frame_eq hframe
      exact ⟨[.write socket (framed request)], rfl, by simp [Deed.IsUseOf], fun _ => rfl⟩

theorem onlyUses_readFrame :
    OnlyUses socket world (readFrame limit (sockets.noted.read socket) world).2 := by
  have hheader := onlyUses_read sockets socket world 4
  unfold readFrame
  rcases hread : sockets.noted.read socket 4 world with ⟨header | _ | reason | _, left⟩
  all_goals rw [hread] at hheader
  case octets =>
    have hpayload := onlyUses_read sockets socket left header.toNatLE
    simp only
    split
    next => exact hheader
    next => split <;> simp_all only <;> exact hheader.trans hpayload
  all_goals exact hheader

/-- A request that fits is written before anything is read. -/
theorem asks_roundTrip (request : Bytes) :
    Asks socket limit request world
      (Channel.roundTrip sockets.noted limit socket request world).2 := by
  have hwrite := asks_writeFrame sockets socket limit world request
  unfold Channel.roundTrip
  rcases hwritten : writeFrame sockets.noted limit socket request world with
    ⟨_ | error | _, written⟩
  all_goals rw [hwritten] at hwrite
  case some.ok =>
    have hanswer := onlyUses_readFrame sockets socket limit written
    simp only
    split <;> simp_all only <;> exact hwrite.trans hanswer
  all_goals exact hwrite

end Noted

/-- What is done for a request and its answer. -/
def exchangeDeeds (socket : κ) (request answer : Bytes) : List (Deed κ) :=
  [.write socket (framed request), .read socket 4, .read socket answer.length]

theorem AnswersInOrder.deeds_roundTrip {sockets : Sockets ω κ} {line : ω → κ → Line}
    (hpeer : AnswersInOrder sockets line) {limit : Nat} {socket : κ} {request answer : Bytes}
    {world after : ω × List (Deed κ)}
    (hanswer : Channel.roundTrip sockets.noted limit socket request world =
      (some (.ok answer), after)) :
    after.2 = world.2 ++ exchangeDeeds socket request answer := by
  obtain ⟨_, written, header, headed, hwrite, hheader, hpayload⟩ := exists_of_roundTrip_eq hanswer
  have hlength := (hpeer.noted.read _ _ _ _ _ hpayload).1
  have hwritten := congrArg (·.2.2) hwrite
  have hheaded := congrArg (·.2.2) hheader
  have hafter := congrArg (·.2.2) hpayload
  simp only [Sockets.noted] at hwritten hheaded hafter
  rw [← hafter, ← hheaded, ← hwritten, exchangeDeeds, hlength]
  simp

/-! ### One call -/

/-- A call of a channel. -/
inductive Call where
  | send (request : Bytes)
  | close

/-- A call that was made. -/
structure Entry (ω κ : Type) where
  call : Call
  /-- What came of a request, unless the caller stopped waiting. -/
  reply : Option (Except TransportError Bytes)
  /-- What was done with sockets. -/
  deeds : List (Deed κ)
  /-- The channel behind the call. -/
  channel : Channel κ
  world : ω

namespace Entry

/-- A request was sent, and this answer came of it. -/
def Answers (entry : Entry ω κ) (request answer : Bytes) : Prop :=
  entry.call = .send request ∧ entry.reply = some (.ok answer)

/-- A request was sent, and an error came of it, or the caller stopped waiting. -/
def Fails (entry : Entry ω κ) : Prop :=
  (∃ request, entry.call = .send request) ∧ ∀ answer, entry.reply ≠ some (.ok answer)

/-- It had the connection of the channel to itself. -/
def HasTurn (entry : Entry ω κ) : Prop := entry.deeds.head? = some (.lock true)

/-- Its caller did not wait for its turn. Nothing was done, and the channel is as it was. -/
structure GivesWay (channel : Channel κ) (entry : Entry ω κ) : Prop where
  reply : entry.reply = none
  deeds : entry.deeds = [.lock false]
  channel : entry.channel = channel

/-- In its turn it begins by dialling. -/
def Dials (entry : Entry ω κ) : Prop := ∃ socket, [.lock true, .dial socket] <+: entry.deeds

/-- In its turn it uses a connection that is there already, and a request that fits is written
first. -/
structure Reuses (entry : Entry ω κ) (socket : κ) (limit : Nat) (request : Bytes) : Prop where
  uses : ∀ deed ∈ entry.deeds.tail, deed.IsUseOf socket
  written : Fits limit request → [.lock true, .write socket (framed request)] <+: entry.deeds

/-- A request went over a connection behind the earlier ones, which were all answered, and the
answer is the one that the peer gave to it. The connection was dialled for the first of them. -/
structure Pairs (line : ω → κ → Line) (entry : Entry ω κ) (socket : κ) (earlier : List Bytes)
    (request answer : Bytes) : Prop where
  settled : (line entry.world socket).IsSettled (earlier ++ [request])
  answered : (line entry.world socket).answers[earlier.length]? = some answer
  deeds : entry.deeds = .lock true :: (if earlier.isEmpty then [.dial (some socket)] else []) ++
    exchangeDeeds socket request answer

end Entry

namespace Channel

/-- Makes a call. -/
def turn (sockets : Sockets ω κ) (channel : Channel κ) (world : ω) (call : Call) : Entry ω κ :=
  match call with
  | .send request =>
      let (reply, channel, after) := channel.send sockets.noted request (world, [])
      ⟨call, reply, after.2, channel, after.1⟩
  | .close =>
      let (_, channel, after) := channel.close sockets.noted (world, [])
      ⟨call, none, after.2, channel, after.1⟩

/-- A request and its answer over a connection, which is kept if the answer came. -/
def exchangeOver (sockets : Sockets ω κ) (channel : Channel κ) (socket : κ) (request : Bytes)
    (world : ω) : Option (Except TransportError Bytes) × Channel κ × ω :=
  match roundTrip sockets channel.limit socket request world with
  | (some (.ok answer), after) => (some (.ok answer), { channel with socket := some socket }, after)
  | (reply, after) => (reply, { channel with socket := none }, sockets.hangUp socket after)

theorem exchange_of_kept (sockets : Sockets ω κ) {channel : Channel κ} {socket : κ}
    (hkept : channel.socket = some socket) (request : Bytes) (world : ω) :
    channel.exchange sockets request world = channel.exchangeOver sockets socket request world := by
  simp only [exchange, acquire, hkept]
  rfl

/-- Without a connection a request is preceded by a dial, and goes over the connection that came
of it. -/
theorem exchange_of_none (sockets : Sockets ω κ) {channel : Channel κ}
    (hnone : channel.socket = none) (request : Bytes) (world : ω) (deeds : List (Deed κ)) :
    (∃ socket after, sockets.dial channel.endpoint world = (some (.ok socket), after) ∧
      channel.exchange sockets.noted request (world, deeds) =
        channel.exchangeOver sockets.noted socket request
          (after, deeds ++ [.dial (some socket)])) ∨
    ∃ reply after, (∀ answer, reply ≠ some (.ok answer)) ∧
      channel.exchange sockets.noted request (world, deeds) =
        (reply, { channel with socket := none }, (after, deeds ++ [.dial none])) := by
  rcases hdial : sockets.dial channel.endpoint world with ⟨_ | error | socket, after⟩
  · refine .inr ⟨none, after, by simp, ?_⟩
    simp only [exchange, acquire, hnone, connect, Sockets.noted, hdial]
    rfl
  · refine .inr ⟨some (.error (.connect channel.endpoint error)), after, by simp, ?_⟩
    simp only [exchange, acquire, hnone, connect, Sockets.noted, hdial]
    rfl
  · refine .inl ⟨socket, after, rfl, ?_⟩
    simp only [exchange, acquire, hnone, connect, Sockets.noted, hdial]
    rfl

theorem asks_exchangeOver (sockets : Sockets ω κ) (channel : Channel κ) (socket : κ)
    (request : Bytes) (world : ω × List (Deed κ)) :
    Asks socket channel.limit request world
      (channel.exchangeOver sockets.noted socket request world).2.2 := by
  have htrip := asks_roundTrip sockets socket channel.limit world request
  unfold exchangeOver
  rcases hreply : roundTrip sockets.noted channel.limit socket request world with
    ⟨_ | error | answer, after⟩
  all_goals rw [hreply] at htrip
  case some.ok => exact htrip
  all_goals exact htrip.trans (onlyUses_hangUp sockets socket after)

theorem socket_exchangeOver_of_ne_ok (sockets : Sockets ω κ) (channel : Channel κ) (socket : κ)
    (request : Bytes) (world : ω)
    (hreply : ∀ answer, (channel.exchangeOver sockets socket request world).1 ≠ some (.ok answer)) :
    (channel.exchangeOver sockets socket request world).2.1.socket = none := by
  unfold exchangeOver at hreply ⊢
  split
  next hanswer => simp [hanswer] at hreply
  next => rfl

theorem exchangeOver_eq_ok {sockets : Sockets ω κ} {channel after : Channel κ} {socket : κ}
    {request answer : Bytes} {world later : ω}
    (hreply : channel.exchangeOver sockets socket request world =
      (some (.ok answer), after, later)) :
    after.socket = some socket ∧
      roundTrip sockets channel.limit socket request world = (some (.ok answer), later) := by
  unfold exchangeOver at hreply
  split at hreply
  next hanswer =>
    simp only [Prod.mk.injEq, Option.some.injEq, Except.ok.injEq] at hreply
    obtain ⟨rfl, rfl, rfl⟩ := hreply
    exact ⟨rfl, hanswer⟩
  next hfailed _ =>
    simp only [Prod.mk.injEq] at hreply
    obtain ⟨rfl, _, _⟩ := hreply
    exact absurd rfl (hfailed answer)

@[simp] theorem call_turn (sockets : Sockets ω κ) (channel : Channel κ) (world : ω) (call : Call) :
    (channel.turn sockets world call).call = call := by
  cases call <;> rfl

/-- A call whose caller does not wait for its turn. -/
theorem turn_of_lock_eq_none {sockets : Sockets ω κ} {world after : ω}
    (hlock : sockets.lock world = (none, after)) (channel : Channel κ) (call : Call) :
    channel.turn sockets world call = ⟨call, none, [.lock false], channel, after⟩ := by
  cases call <;> simp [turn, send, close, Sockets.noted, hlock]

/-- A request that has its turn. -/
theorem turn_send_of_lock_eq_some {sockets : Sockets ω κ} {world after : ω}
    (hlock : sockets.lock world = (some (), after)) (channel : Channel κ) (request : Bytes) :
    channel.turn sockets world (.send request) =
      let result := channel.exchange sockets.noted request (after, [.lock true])
      ⟨.send request, result.1, result.2.2.2, result.2.1, result.2.2.1⟩ := by
  simp [turn, send, Sockets.noted, hlock]

theorem exists_lock_of_hasTurn {sockets : Sockets ω κ} {channel : Channel κ} {world : ω}
    {call : Call} (hturn : (channel.turn sockets world call).HasTurn) :
    ∃ after, sockets.lock world = (some (), after) := by
  rcases hlock : sockets.lock world with ⟨_ | _, after⟩
  · simp [turn_of_lock_eq_none hlock, Entry.HasTurn] at hturn
  · exact ⟨after, rfl⟩

theorem hasTurn_of_lock_eq_some {sockets : Sockets ω κ} {world after : ω}
    (hlock : sockets.lock world = (some (), after)) (channel : Channel κ) (call : Call) :
    (channel.turn sockets world call).HasTurn := by
  cases call with
  | close =>
      cases hsocket : channel.socket <;>
        simp [Entry.HasTurn, turn, close, Sockets.noted, hlock, hsocket]
  | send request =>
      rw [Entry.HasTurn, turn_send_of_lock_eq_some hlock]
      rcases hsocket : channel.socket with _ | socket
      · rcases exchange_of_none sockets hsocket request after [.lock true] with
          ⟨socket, dialled, _, hexchange⟩ | ⟨reply, dialled, _, hexchange⟩
        · obtain ⟨deeds, hdeeds, _⟩ := asks_exchangeOver sockets channel socket request
            (dialled, [.lock true, .dial (some socket)])
          simp [hexchange, hdeeds]
        · simp [hexchange]
      · obtain ⟨deeds, hdeeds, _⟩ :=
          asks_exchangeOver sockets channel socket request (after, [.lock true])
        simp [exchange_of_kept sockets.noted hsocket, hdeeds]

/-- Either a call has its turn, or its caller does not wait for it and the channel stays as it
is. -/
theorem hasTurn_or_turn_eq (sockets : Sockets ω κ) (channel : Channel κ) (world : ω) (call : Call) :
    (channel.turn sockets world call).HasTurn ∨
      channel.turn sockets world call =
        ⟨call, none, [.lock false], channel, (sockets.lock world).2⟩ := by
  rcases hlock : sockets.lock world with ⟨_ | _, after⟩
  · exact .inr (turn_of_lock_eq_none hlock channel call)
  · exact .inl (hasTurn_of_lock_eq_some hlock channel call)

/-- Behind a close there is no connection. -/
theorem socket_turn_close {sockets : Sockets ω κ} {channel : Channel κ} {world : ω}
    (hturn : (channel.turn sockets world .close).HasTurn) :
    (channel.turn sockets world .close).channel.socket = none := by
  obtain ⟨after, hlock⟩ := exists_lock_of_hasTurn hturn
  cases hsocket : channel.socket <;> simp [turn, close, Sockets.noted, hlock, hsocket]

/-- Behind a request that failed or was given up in its turn there is no connection. -/
theorem socket_turn_of_fails {sockets : Sockets ω κ} {channel : Channel κ} {world : ω} {call : Call}
    (hfails : (channel.turn sockets world call).Fails)
    (hturn : (channel.turn sockets world call).HasTurn) :
    (channel.turn sockets world call).channel.socket = none := by
  obtain ⟨after, hlock⟩ := exists_lock_of_hasTurn hturn
  obtain ⟨⟨request, hcall⟩, hreply⟩ := hfails
  rw [call_turn] at hcall
  subst hcall
  rw [turn_send_of_lock_eq_some hlock] at hreply ⊢
  rcases hsocket : channel.socket with _ | socket
  · rcases exchange_of_none sockets hsocket request after [.lock true] with
      ⟨socket, dialled, _, hexchange⟩ | ⟨reply, dialled, _, hexchange⟩
    · rw [hexchange] at hreply ⊢
      exact socket_exchangeOver_of_ne_ok sockets.noted channel socket request _ hreply
    · rw [hexchange]
  · rw [exchange_of_kept sockets.noted hsocket] at hreply ⊢
    exact socket_exchangeOver_of_ne_ok sockets.noted channel socket request _ hreply

/-- Behind a request that failed or was given up in its turn there is no connection, nor is there
behind a close. -/
theorem socket_turn_of_ends {sockets : Sockets ω κ} {channel : Channel κ} {world : ω} {call : Call}
    (hends : (channel.turn sockets world call).Fails ∨
      (channel.turn sockets world call).call = .close)
    (hturn : (channel.turn sockets world call).HasTurn) :
    (channel.turn sockets world call).channel.socket = none := by
  rcases hends with hfails | hclose
  · exact socket_turn_of_fails hfails hturn
  · rw [call_turn] at hclose
    subst hclose
    exact socket_turn_close hturn

/-- Without a connection a request begins with a dial. -/
theorem dials_turn_of_none {sockets : Sockets ω κ} {channel : Channel κ}
    (hnone : channel.socket = none) {world : ω} {request : Bytes}
    (hturn : (channel.turn sockets world (.send request)).HasTurn) :
    (channel.turn sockets world (.send request)).Dials := by
  obtain ⟨after, hlock⟩ := exists_lock_of_hasTurn hturn
  rw [turn_send_of_lock_eq_some hlock, Entry.Dials]
  rcases exchange_of_none sockets hnone request after [.lock true] with
    ⟨socket, dialled, _, hexchange⟩ | ⟨reply, dialled, _, hexchange⟩
  · rw [hexchange]
    obtain ⟨deeds, hdeeds, _⟩ :=
      asks_exchangeOver sockets channel socket request (dialled, [.lock true, .dial (some socket)])
    exact ⟨some socket, deeds, hdeeds.symm⟩
  · rw [hexchange]
    exact ⟨none, List.prefix_refl _⟩

/-- With a connection a request uses that one only, and is written to it if it fits. -/
theorem reuses_turn_of_kept {sockets : Sockets ω κ} {channel : Channel κ} {socket : κ}
    (hkept : channel.socket = some socket) {world : ω} {request : Bytes}
    (hturn : (channel.turn sockets world (.send request)).HasTurn) :
    (channel.turn sockets world (.send request)).Reuses socket channel.limit request := by
  obtain ⟨after, hlock⟩ := exists_lock_of_hasTurn hturn
  rw [turn_send_of_lock_eq_some hlock, exchange_of_kept sockets.noted hkept]
  obtain ⟨deeds, hdeeds, huses, hwritten⟩ :=
    asks_exchangeOver sockets channel socket request (after, [.lock true])
  refine ⟨?_, fun hfits => ?_⟩
  · simp only [hdeeds]
    exact huses
  · obtain ⟨rest, rfl⟩ := List.head?_eq_some_iff.mp (hwritten hfits)
    exact ⟨rest, hdeeds.symm⟩

/-- The limit of a channel stays. -/
theorem limit_turn (sockets : Sockets ω κ) (channel : Channel κ) (world : ω) (call : Call) :
    (channel.turn sockets world call).channel.limit = channel.limit := by
  rcases hasTurn_or_turn_eq sockets channel world call with hturn | hway
  · obtain ⟨after, hlock⟩ := exists_lock_of_hasTurn hturn
    cases call with
    | send request =>
        rw [turn_send_of_lock_eq_some hlock]
        simp only [exchange]
        split
        · rfl
        · rfl
        · split <;> rfl
    | close => cases hsocket : channel.socket <;> simp [turn, close, Sockets.noted, hlock, hsocket]
  · rw [hway]

section Peer

variable {sockets : Sockets ω κ} {line : ω → κ → Line}

/-- The channel has no connection, or one over which requests went and all of them are answered. -/
def IsQuiet (line : ω → κ → Line) (channel : Channel κ) (world : ω) : Prop :=
  ∀ socket, channel.socket = some socket →
    ∃ earlier, earlier ≠ [] ∧ (line world socket).IsSettled earlier

theorem isQuiet_lock (hpeer : AnswersInOrder sockets line) {channel : Channel κ} {world : ω}
    (hquiet : channel.IsQuiet line world) : channel.IsQuiet line (sockets.lock world).2 := by
  intro socket hsocket
  obtain ⟨earlier, hsome, hsettled⟩ := hquiet socket hsocket
  exact ⟨earlier, hsome, hpeer.isSettled_lock hsettled⟩

theorem pairs_of_exchangeOver (hpeer : AnswersInOrder sockets line) (channel : Channel κ)
    {after : Channel κ} {socket : κ} {earlier : List Bytes} {request answer : Bytes} {world : ω}
    {later : ω × List (Deed κ)} (hsettled : (line world socket).IsSettled earlier)
    (hreply : channel.exchangeOver sockets.noted socket request
      (world, .lock true :: if earlier.isEmpty then [.dial (some socket)] else []) =
        (some (.ok answer), after, later)) (call : Call) :
    (Entry.mk call (some (.ok answer)) later.2 after later.1).Pairs line socket earlier request
      answer := by
  obtain ⟨_, htrip⟩ := exchangeOver_eq_ok hreply
  obtain ⟨hboth, hanswer⟩ := hpeer.noted.roundTrip hsettled htrip
  exact ⟨hboth, hanswer, hpeer.deeds_roundTrip htrip⟩

/-- An answer that comes over the connection of the channel is the one to the request. -/
theorem pairs_turn_of_kept (hpeer : AnswersInOrder sockets line) {channel : Channel κ} {socket : κ}
    {earlier : List Bytes} {world : ω} (hkept : channel.socket = some socket)
    (hsome : earlier ≠ []) (hsettled : (line world socket).IsSettled earlier)
    {request answer : Bytes}
    (hreply : (channel.turn sockets world (.send request)).reply = some (.ok answer)) :
    (channel.turn sockets world (.send request)).Pairs line socket earlier request answer ∧
      (channel.turn sockets world (.send request)).channel.socket = some socket := by
  have hstill := hpeer.isSettled_lock hsettled
  rcases hlock : sockets.lock world with ⟨_ | _, after⟩
  · rw [turn_of_lock_eq_none hlock] at hreply
    cases hreply
  · rw [hlock] at hstill
    rw [turn_send_of_lock_eq_some hlock, exchange_of_kept sockets.noted hkept] at hreply ⊢
    rcases hover : channel.exchangeOver sockets.noted socket request (after, [.lock true]) with
      ⟨reply, behind, later⟩
    simp only [hover] at hreply ⊢
    subst hreply
    refine ⟨pairs_of_exchangeOver hpeer channel hstill ?_ _, (exchangeOver_eq_ok hover).1⟩
    rw [List.isEmpty_eq_false_iff.mpr hsome]
    exact hover

/-- So is one that comes over a new connection. -/
theorem pairs_turn_of_none (hpeer : AnswersInOrder sockets line) {channel : Channel κ} {world : ω}
    (hnone : channel.socket = none) {request answer : Bytes}
    (hreply : (channel.turn sockets world (.send request)).reply = some (.ok answer)) :
    ∃ socket, (channel.turn sockets world (.send request)).Pairs line socket [] request answer ∧
      (channel.turn sockets world (.send request)).channel.socket = some socket := by
  rcases hlock : sockets.lock world with ⟨_ | _, after⟩
  · rw [turn_of_lock_eq_none hlock] at hreply
    cases hreply
  rw [turn_send_of_lock_eq_some hlock] at hreply ⊢
  rcases exchange_of_none sockets hnone request after [.lock true] with
    ⟨socket, dialled, hdial, hexchange⟩ | ⟨reply, dialled, hfailed, hexchange⟩
  · rcases hover : channel.exchangeOver sockets.noted socket request
      (dialled, [.lock true, .dial (some socket)]) with ⟨reply, behind, later⟩
    simp only [hexchange, List.singleton_append, hover] at hreply ⊢
    subst hreply
    have hempty := Line.isSettled_empty
    rw [← hpeer.dial _ _ _ _ hdial] at hempty
    exact ⟨socket, pairs_of_exchangeOver hpeer channel hempty hover _, (exchangeOver_eq_ok hover).1⟩
  · rw [hexchange] at hreply
    exact absurd hreply (hfailed answer)

theorem exists_pairs_turn (hpeer : AnswersInOrder sockets line) {channel : Channel κ} {world : ω}
    (hquiet : channel.IsQuiet line world) {call : Call} {request answer : Bytes}
    (hanswers : (channel.turn sockets world call).Answers request answer) :
    ∃ socket earlier,
      (channel.turn sockets world call).Pairs line socket earlier request answer ∧
        (channel.turn sockets world call).channel.socket = some socket := by
  obtain ⟨hcall, hreply⟩ := hanswers
  rw [call_turn] at hcall
  subst hcall
  rcases hsocket : channel.socket with _ | socket
  · obtain ⟨socket, hpairs⟩ := pairs_turn_of_none hpeer hsocket hreply
    exact ⟨socket, [], hpairs⟩
  · obtain ⟨earlier, hsome, hsettled⟩ := hquiet socket hsocket
    exact ⟨socket, earlier, pairs_turn_of_kept hpeer hsocket hsome hsettled hreply⟩

theorem isQuiet_of_pairs {entry : Entry ω κ} {socket : κ} {earlier : List Bytes}
    {request answer : Bytes} (hpairs : entry.Pairs line socket earlier request answer)
    (hsocket : entry.channel.socket = some socket) : entry.channel.IsQuiet line entry.world := by
  intro other hother
  obtain rfl : socket = other := Option.some.inj (hsocket.symm.trans hother)
  exact ⟨earlier ++ [request], by simp, hpairs.settled⟩

theorem isQuiet_of_none {channel : Channel κ} (hnone : channel.socket = none) (world : ω) :
    channel.IsQuiet line world := by
  intro socket hsocket
  rw [hnone] at hsocket
  cases hsocket

/-- Every call leaves the channel quiet. -/
theorem isQuiet_turn (hpeer : AnswersInOrder sockets line) {channel : Channel κ} {world : ω}
    (hquiet : channel.IsQuiet line world) (call : Call) :
    (channel.turn sockets world call).channel.IsQuiet line
      (channel.turn sockets world call).world := by
  rcases hasTurn_or_turn_eq sockets channel world call with hturn | hway
  · cases call with
    | close => exact isQuiet_of_none (socket_turn_close hturn) _
    | send request =>
        by_cases hanswer : ∃ answer,
            (channel.turn sockets world (.send request)).reply = some (.ok answer)
        · obtain ⟨answer, hreply⟩ := hanswer
          obtain ⟨socket, earlier, hpairs, hsocket⟩ :=
            exists_pairs_turn hpeer hquiet ⟨call_turn .., hreply⟩
          exact isQuiet_of_pairs hpairs hsocket
        · refine isQuiet_of_none (socket_turn_of_fails ⟨⟨request, call_turn ..⟩, ?_⟩ hturn) _
          exact not_exists.mp hanswer
  · rw [hway]
    exact isQuiet_lock hpeer hquiet

end Peer

/-! ### Sequences of calls -/

/-- Makes calls one after the other. -/
def entries (sockets : Sockets ω κ) : List Call → Channel κ → ω → List (Entry ω κ)
  | [], _, _ => []
  | call :: rest, channel, world =>
      let entry := channel.turn sockets world call
      entry :: entries sockets rest entry.channel entry.world

/-- The channel as calls left it. -/
def leftBy (channel : Channel κ) : List (Entry ω κ) → Channel κ
  | [] => channel
  | entry :: rest => entry.channel.leftBy rest

/-- What holds before the first call and is kept by each of the calls before an entry holds when
that is made. -/
theorem exists_of_entries_eq {sockets : Sockets ω κ} (holds : Channel κ → ω → Prop)
    {before later : List (Entry ω κ)} {entry : Entry ω κ}
    (hkept : ∀ channel world call, channel.turn sockets world call ∈ before →
      holds channel world → holds (channel.turn sockets world call).channel
        (channel.turn sockets world call).world)
    {calls : List Call} {channel : Channel κ} {world : ω} (hstart : holds channel world)
    (hentries : entries sockets calls channel world = before ++ entry :: later) :
    ∃ call rest now, holds (channel.leftBy before) now ∧
      entry = (channel.leftBy before).turn sockets now call ∧
      later = entries sockets rest entry.channel entry.world := by
  induction before generalizing calls channel world with
  | nil =>
      cases calls with
      | nil => cases hentries
      | cons call rest =>
          obtain ⟨rfl, rfl⟩ := List.cons_eq_cons.mp hentries
          exact ⟨call, rest, world, hstart, rfl, rfl⟩
  | cons first before ih =>
      cases calls with
      | nil => cases hentries
      | cons call rest =>
          obtain ⟨rfl, hrest⟩ := List.cons_eq_cons.mp hentries
          refine ih (fun ready now next hnext => ?_) ?_ hrest
          · exact hkept ready now next (List.mem_cons_of_mem _ hnext)
          · exact hkept channel world call List.mem_cons_self hstart

section Peer

variable {sockets : Sockets ω κ} {line : ω → κ → Line} {channel : Channel κ} {world : ω}
  {calls : List Call}

/-- Every call is made by a quiet channel, with the limit of the first. -/
theorem exists_ready (hpeer : AnswersInOrder sockets line) (hnew : channel.socket = none)
    {before later : List (Entry ω κ)} {entry : Entry ω κ}
    (hentries : entries sockets calls channel world = before ++ entry :: later) :
    ∃ call rest now, (IsQuiet line (channel.leftBy before) now ∧
        (channel.leftBy before).limit = channel.limit) ∧
      entry = (channel.leftBy before).turn sockets now call ∧
      later = entries sockets rest entry.channel entry.world := by
  refine exists_of_entries_eq
    (fun ready now => IsQuiet line ready now ∧ ready.limit = channel.limit)
    (fun ready now call _ hready => ?_) ⟨isQuiet_of_none hnew world, rfl⟩ hentries
  exact ⟨isQuiet_turn hpeer hready.1 call, (limit_turn sockets ready now call).trans hready.2⟩

/-- Without a connection the next request that has its turn dials, however many calls before it are
closes or do not have their turn. -/
theorem dials_of_none (hnone : channel.socket = none) {between later : List (Entry ω κ)}
    {next : Entry ω κ} (hentries : entries sockets calls channel world = between ++ next :: later)
    (hbetween : ∀ entry ∈ between, entry.HasTurn → entry.call = .close)
    (hnext : ∃ request, next.call = .send request) (hturn : next.HasTurn) : next.Dials := by
  have hkept : ∀ (channel : Channel κ) (world : ω) (call : Call),
      channel.turn sockets world call ∈ between → channel.socket = none →
        (channel.turn sockets world call).channel.socket = none := by
    intro channel world call hmember hnone
    rcases hasTurn_or_turn_eq sockets channel world call with hturn | hway
    · have hcall := hbetween _ hmember hturn
      rw [call_turn] at hcall
      subst hcall
      exact socket_turn_close hturn
    · rw [hway]
      exact hnone
  obtain ⟨call, _, now, hidle, rfl, _⟩ :=
    exists_of_entries_eq (fun channel _ => channel.socket = none) hkept hnone hentries
  obtain ⟨request, hrequest⟩ := hnext
  rw [call_turn] at hrequest
  subst hrequest
  exact dials_turn_of_none hidle hturn

/-- With a connection the next request that has its turn goes over it, and its answer is the next
one there. -/
theorem reuses_of_kept (hpeer : AnswersInOrder sockets line) {socket : κ}
    {earlier : List Bytes} (hkept : channel.socket = some socket) (hsome : earlier ≠ [])
    (hsettled : (line world socket).IsSettled earlier) {between later : List (Entry ω κ)}
    {next : Entry ω κ} (hentries : entries sockets calls channel world = between ++ next :: later)
    (hbetween : ∀ entry ∈ between, ¬ entry.HasTurn) {request : Bytes}
    (hnext : next.call = .send request) (hturn : next.HasTurn) :
    next.Reuses socket channel.limit request ∧
      ∀ answer, next.Answers request answer → next.Pairs line socket earlier request answer := by
  have hstill : ∀ (ready : Channel κ) (now : ω) (call : Call),
      ready.turn sockets now call ∈ between →
        ready = channel ∧ (line now socket).IsSettled earlier →
        (ready.turn sockets now call).channel = channel ∧
          (line (ready.turn sockets now call).world socket).IsSettled earlier := by
    rintro ready now call hmember ⟨rfl, hsettled⟩
    have hway := (hasTurn_or_turn_eq sockets ready now call).resolve_left (hbetween _ hmember)
    rw [hway]
    exact ⟨rfl, hpeer.isSettled_lock hsettled⟩
  obtain ⟨call, _, now, ⟨hsame, hsettled⟩, rfl, _⟩ := exists_of_entries_eq
    (fun ready now => ready = channel ∧ (line now socket).IsSettled earlier) hstill
    ⟨rfl, hsettled⟩ hentries
  rw [call_turn] at hnext
  subst hnext
  rw [hsame] at hturn ⊢
  refine ⟨reuses_turn_of_kept hkept hturn, fun answer hanswers => ?_⟩
  exact (pairs_turn_of_kept hpeer hkept hsome hsettled hanswers.2).1

end Peer

end Channel

/-- However calls follow each other on a channel, and whichever of them fail or are given up: an
answer that a call returns is the one that the peer gave to the request of that call. A call whose
caller does not wait for its turn does nothing. Behind a request that failed or was given up in its
turn, and behind a close in its turn, the next request that has its turn begins with a dial. Behind
one that succeeded it goes over the same connection, if there is no close in between. -/
theorem answers_are_paired {sockets : Sockets ω κ} {line : ω → κ → Line}
    (hpeer : AnswersInOrder sockets line) {channel : Channel κ} (hnew : channel.socket = none)
    (world : ω) (calls : List Call) :
    let entries := channel.entries sockets calls world
    (∀ entry ∈ entries, ∀ request answer, entry.Answers request answer →
      ∃ socket earlier, entry.Pairs line socket earlier request answer) ∧
    (∀ before entry later, entries = before ++ entry :: later →
      entry.HasTurn ∨ entry.GivesWay (channel.leftBy before)) ∧
    (∀ before ended between next later,
      entries = before ++ ended :: (between ++ next :: later) →
      ended.Fails ∨ ended.call = .close → ended.HasTurn →
      (∀ entry ∈ between, entry.HasTurn → entry.call = .close) →
      (∃ request, next.call = .send request) → next.HasTurn → next.Dials) ∧
    ∀ before done between next later request answer,
      entries = before ++ done :: (between ++ next :: later) → done.Answers request answer →
      (∀ entry ∈ between, ¬ entry.HasTurn) →
      ∀ other, next.call = .send other → next.HasTurn →
      ∃ socket earlier, done.Pairs line socket earlier request answer ∧
        next.Reuses socket channel.limit other ∧
        ∀ reply, next.Answers other reply →
          next.Pairs line socket (earlier ++ [request]) other reply := by
  refine ⟨fun entry hentry request answer hanswers => ?_, ?_, ?_, ?_⟩
  · obtain ⟨before, later, hsplit⟩ := List.append_of_mem hentry
    obtain ⟨call, _, now, ⟨hquiet, _⟩, rfl, _⟩ := Channel.exists_ready hpeer hnew hsplit
    obtain ⟨socket, earlier, hpairs, _⟩ := Channel.exists_pairs_turn hpeer hquiet hanswers
    exact ⟨socket, earlier, hpairs⟩
  · intro before entry later hsplit
    obtain ⟨call, _, now, _, rfl, _⟩ := Channel.exists_ready hpeer hnew hsplit
    refine (Channel.hasTurn_or_turn_eq sockets _ now call).imp_right fun hway => ?_
    rw [hway]
    exact ⟨rfl, rfl, rfl⟩
  · intro before ended between next later hsplit hended hturn hbetween hnext hnextTurn
    obtain ⟨call, rest, now, _, rfl, hlater⟩ := Channel.exists_ready hpeer hnew hsplit
    have hnone := Channel.socket_turn_of_ends hended hturn
    exact Channel.dials_of_none hnone hlater.symm hbetween hnext hnextTurn
  · intro before done between next later request answer hsplit hanswers hbetween other hnext hturn
    obtain ⟨call, rest, now, ⟨hquiet, hlimit⟩, rfl, hlater⟩ :=
      Channel.exists_ready hpeer hnew hsplit
    obtain ⟨socket, earlier, hpairs, hsocket⟩ := Channel.exists_pairs_turn hpeer hquiet hanswers
    have hbehind := Channel.reuses_of_kept hpeer hsocket (by simp) hpairs.settled hlater.symm
      hbetween hnext hturn
    rw [Channel.limit_turn, hlimit] at hbehind
    exact ⟨socket, earlier, hpairs, hbehind⟩

/-- A peer that sends the octets of every request back in reverse, over the connection that was
dialled last. -/
structure Mirror where
  /-- Which of the next operations are done in time; those behind them all are. -/
  script : List Bool
  dialled : Nat := 0
  requests : List Bytes := []
  /-- How many octets have been read. -/
  taken : Nat := 0
  fits : ∀ request ∈ requests, request.length < UInt32.size := by simp
  taken_le : taken ≤ ((requests.map List.reverse).flatMap framed).length := by simp

namespace Mirror

/-- The octets that have been sent back. -/
def reflected (mirror : Mirror) : Bytes := (mirror.requests.map List.reverse).flatMap framed

/-- An operation that changes nothing for the peer. -/
def delay (mirror : Mirror) : Mirror := { mirror with script := mirror.script.tail }

/-- The octets are a frame. -/
def IsFrame (octets : Bytes) : Prop :=
  octets = framed (octets.drop 4) ∧ (octets.drop 4).length < UInt32.size

instance (octets : Bytes) : Decidable (IsFrame octets) := inferInstanceAs (Decidable (_ ∧ _))

/-- Takes a request. -/
def ask (mirror : Mirror) (request : Bytes) (hrequest : request.length < UInt32.size) : Mirror where
  script := mirror.script.tail
  dialled := mirror.dialled
  requests := mirror.requests ++ [request]
  taken := mirror.taken
  fits := by simpa [or_imp, forall_and] using ⟨mirror.fits, hrequest⟩
  taken_le := by
    rw [List.map_append, List.flatMap_append, List.length_append]
    exact Nat.le_add_right_of_le mirror.taken_le

/-- Whether the next operation on a socket is done in time. -/
def Obliges (mirror : Mirror) (socket : Nat) : Prop :=
  mirror.script.headD true = true ∧ socket = mirror.dialled

instance (mirror : Mirror) (socket : Nat) : Decidable (mirror.Obliges socket) :=
  inferInstanceAs (Decidable (_ ∧ _))

def sockets : Sockets Mirror Nat where
  lock mirror := (if mirror.script.headD true then some () else none, mirror.delay)
  dial _ mirror :=
    if mirror.script.headD true then
      (some (.ok (mirror.dialled + 1)),
        { script := mirror.script.tail, dialled := mirror.dialled + 1 })
    else (none, mirror.delay)
  write socket octets mirror :=
    if h : mirror.Obliges socket ∧ IsFrame octets then
      (some (.ok ()), mirror.ask (octets.drop 4) h.2.2)
    else (none, mirror.delay)
  read socket count mirror :=
    if h : mirror.Obliges socket ∧ mirror.taken + count ≤ mirror.reflected.length then
      (.octets ((mirror.reflected.drop mirror.taken).take count),
        { mirror.delay with taken := mirror.taken + count, taken_le := h.2 })
    else (.abandoned, mirror.delay)
  shutDown _ mirror := (if mirror.script.headD true then some (.ok ()) else none, mirror.delay)
  hangUp _ mirror := mirror

def line (mirror : Mirror) (socket : Nat) : Line :=
  if socket = mirror.dialled then
    { written := mirror.requests.flatMap framed
      answers := mirror.requests.map List.reverse
      taken := mirror.reflected.take mirror.taken }
  else {}

theorem line_ask (mirror : Mirror) (request : Bytes) (hrequest : request.length < UInt32.size) :
    (mirror.ask request hrequest).line mirror.dialled =
      { written := (mirror.line mirror.dialled).written ++ framed request
        answers := (mirror.line mirror.dialled).answers ++ [request.reverse]
        taken := (mirror.line mirror.dialled).taken } := by
  have htaken : mirror.taken ≤ ((mirror.requests.map List.reverse).flatMap framed).length :=
    mirror.taken_le
  simp [line, ask, reflected, List.take_append_of_le_length htaken]

theorem answersInOrder : AnswersInOrder sockets line where
  lock mirror socket := ⟨rfl, rfl, List.prefix_refl _⟩
  dial endpoint mirror socket after hdial := by
    simp only [sockets] at hdial
    split at hdial
    next => cases hdial; simp [line, reflected]
    next => cases hdial
  write socket octets mirror after hwrite := by
    simp only [sockets] at hwrite
    split at hwrite
    next h =>
      obtain ⟨⟨_, rfl⟩, hframe, _⟩ := h
      cases hwrite
      rw [line_ask, ← hframe]
      exact ⟨rfl, rfl, List.prefix_append _ _⟩
    next => cases hwrite
  read socket count mirror bytes after hread := by
    simp only [sockets] at hread
    split at hread
    next h =>
      obtain ⟨⟨_, rfl⟩, hcount⟩ := h
      cases hread
      refine ⟨?_, by simp [line, delay], ?_, by simp [line, delay]⟩
      · rw [List.length_take, List.length_drop]
        omega
      · simp [line, delay, reflected, List.take_add]
    next => cases hread
  taken mirror socket := by
    unfold line
    split
    · exact List.take_prefix _ _
    · exact List.nil_prefix
  asked mirror socket requests hfits hwritten := by
    unfold line at hwritten ⊢
    split
    next hlast =>
      rw [if_pos hlast] at hwritten
      have hsame := eq_of_flatMap_framed_eq mirror.fits hfits hwritten
      simp [hsame]
    next => exact Nat.zero_le _
  fits mirror socket answer hanswer := by
    unfold line at hanswer
    split at hanswer
    next =>
      obtain ⟨request, hrequest, rfl⟩ := List.mem_map.mp hanswer
      rw [List.length_reverse]
      exact mirror.fits request hrequest
    next => cases hanswer

end Mirror

def channelToMirror : Channel Nat := { endpoint := "node:50211", limit := 100 }

/-- Four requests, a close, and another request. -/
def callsAmidDelays : List Call :=
  [.send [1, 2], .send [8], .send [3, 4], .send [5, 6], .close, .send [7]]

/-- The caller of the second request does not wait for its turn. The payload of the next answer and
the last dial are not there in time. -/
def delays : Mirror where
  script := [true, true, true, true, true] ++ [false] ++ [true, true, true, false] ++
    [true, true, true, true, true] ++ [true, true] ++ [true, false]

theorem answers_are_paired_amid_delays :
    let entries := channelToMirror.entries Mirror.sockets callsAmidDelays delays
    entries.map (·.reply) = [some (.ok [2, 1]), none, none, some (.ok [6, 5]), none, none] ∧
    (∀ entry ∈ entries, ∀ request answer, entry.Answers request answer →
      ∃ socket earlier, entry.Pairs Mirror.line socket earlier request answer) ∧
    (∃ first second, entries[0]? = some first ∧ entries[1]? = some second ∧
      second.GivesWay first.channel) ∧
    (∃ third socket, entries[2]? = some third ∧
      [.lock true, .write socket (framed [3, 4])] <+: third.deeds) ∧
    (∃ fourth, entries[3]? = some fourth ∧ fourth.Dials) ∧
    ∃ last, entries[5]? = some last ∧ last.Dials := by
  obtain ⟨hpairs, hways, hdials, hreuses⟩ := answers_are_paired Mirror.answersInOrder
    (rfl : channelToMirror.socket = none) delays callsAmidDelays
  refine ⟨rfl, hpairs, ?_, ?_, ⟨_, rfl, ?_⟩, _, rfl, ?_⟩
  · exact ⟨_, _, rfl, rfl, (hways [_] _ _ rfl).resolve_left (by rintro ⟨⟩)⟩
  · obtain ⟨socket, _, _, hreuse, _⟩ := hreuses [] _ [_] _ _ _ _ rfl ⟨rfl, rfl⟩
      (List.forall_mem_singleton.mpr (by rintro ⟨⟩)) _ rfl rfl
    exact ⟨_, socket, rfl, hreuse.written (by decide)⟩
  · have hgivenUp : ∀ answer, (none : Option (Except TransportError Bytes)) ≠ some (.ok answer) :=
      by simp
    exact hdials [_, _] _ [] _ _ rfl (.inl ⟨⟨_, rfl⟩, hgivenUp⟩) rfl (by simp) ⟨_, rfl⟩ rfl
  · exact hdials [_, _, _, _] _ [] _ _ rfl (.inr rfl) rfl (by simp) ⟨_, rfl⟩ rfl

/-- The caller of the second request does not wait for its turn, and everything else is in time. -/
def lateTurn : Mirror where
  script := [true, true, true, true, true] ++ [false]

/-- A request that is given up before its turn leaves the connection to the next one, which does not
dial. -/
theorem next_reuses_behind_abandoned_wait :
    ∃ first second third, AnswersInOrder Mirror.sockets Mirror.line ∧
      channelToMirror.entries Mirror.sockets [.send [1, 2], .send [8], .send [3, 4]] lateTurn =
        [first, second, third] ∧
      first.Answers [1, 2] [2, 1] ∧ second.Fails ∧ third.Answers [3, 4] [4, 3] ∧
      ∀ socket, .dial socket ∉ third.deeds := by
  refine ⟨_, _, _, Mirror.answersInOrder, rfl, ⟨rfl, rfl⟩, ⟨⟨_, rfl⟩, ?_⟩, ⟨rfl, rfl⟩, ?_⟩
  · rintro answer ⟨⟩
  · intro socket hdial
    change .dial socket ∈ .lock true :: exchangeDeeds 1 [3, 4] [4, 3] at hdial
    simp [exchangeDeeds] at hdial

end LedgerClient.Tcp
