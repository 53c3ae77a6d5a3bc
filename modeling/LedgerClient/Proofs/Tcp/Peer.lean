import LedgerClient.Proofs.Tcp.Frames

/-!
# Peers that answer in order

Over a connection on which every request has had its answer read, the next request is followed by
its own answer, and then again no answer is due.
-/

namespace LedgerClient.Tcp

variable {ω κ : Type}

/-- What has gone over a connection. -/
structure Line where
  /-- The octets that were written. -/
  written : Bytes := []
  /-- The payloads with which the peer has answered, in order. -/
  answers : List Bytes := []
  /-- The octets that were read. -/
  taken : Bytes := []

/-- Over each connection the peer answers every request frame with one frame, in order, and the
octets come through in order. An answer may be under way for any time; nothing is said of what an
operation on a socket does that fails or is given up. -/
structure AnswersInOrder (sockets : Sockets ω κ) (line : ω → κ → Line) : Prop where
  /-- While a call waits for the connection, nothing is written and nothing is read. -/
  lock : ∀ world socket, let after := (sockets.lock world).2
    (line after socket).written = (line world socket).written ∧
      (line after socket).taken = (line world socket).taken ∧
      (line world socket).answers <+: (line after socket).answers
  dial : ∀ endpoint world socket after, sockets.dial endpoint world = (some (.ok socket), after) →
    line after socket = {}
  write : ∀ socket octets world after, sockets.write socket octets world = (some (.ok ()), after) →
    (line after socket).written = (line world socket).written ++ octets ∧
      (line after socket).taken = (line world socket).taken ∧
      (line world socket).answers <+: (line after socket).answers
  read : ∀ socket count world bytes after,
    sockets.read socket count world = (.octets bytes, after) →
    bytes.length = count ∧ (line after socket).written = (line world socket).written ∧
      (line after socket).taken = (line world socket).taken ++ bytes ∧
      (line world socket).answers <+: (line after socket).answers
  /-- What is read is what the peer answered. -/
  taken : ∀ world socket,
    (line world socket).taken <+: (line world socket).answers.flatMap framed
  /-- There is no answer without a request. -/
  asked : ∀ world socket (requests : List Bytes),
    (∀ request ∈ requests, request.length < UInt32.size) →
    (line world socket).written = requests.flatMap framed →
    (line world socket).answers.length ≤ requests.length
  fits : ∀ world socket, ∀ answer ∈ (line world socket).answers, answer.length < UInt32.size

/-- The requests that were written have all been answered, and the answers have been read. -/
structure Line.IsSettled (line : Line) (requests : List Bytes) : Prop where
  fits : ∀ request ∈ requests, request.length < UInt32.size
  written : line.written = requests.flatMap framed
  answered : line.answers.length = requests.length
  taken : line.taken = line.answers.flatMap framed

theorem Line.isSettled_empty : ({} : Line).IsSettled [] := ⟨by simp, rfl, rfl, rfl⟩

/-! ### One request and its answer -/

theorem fits_of_frame_eq {limit : Nat} {payload bytes : Bytes}
    (hframe : frame limit payload = .ok bytes) : Fits limit payload ∧ bytes = framed payload := by
  unfold frame at hframe
  split at hframe
  next => cases hframe
  next hlimit =>
    split at hframe
    next => cases hframe
    next hsize =>
      exact ⟨⟨Nat.le_of_not_lt hlimit, Nat.lt_of_not_le hsize⟩, (Except.ok.inj hframe).symm⟩

/-- Frames that are written one after the other can be told apart. -/
theorem eq_of_flatMap_framed_eq {payloads others : List Bytes}
    (hpayloads : ∀ payload ∈ payloads, payload.length < UInt32.size)
    (hothers : ∀ other ∈ others, other.length < UInt32.size)
    (hframes : payloads.flatMap framed = others.flatMap framed) : payloads = others := by
  have hreads : ∀ payloads : List Bytes, (∀ payload ∈ payloads, payload.length < UInt32.size) →
      Reads UInt32.size readOctets (payloads.flatMap framed) payloads .ended := by
    intro payloads hpayloads
    have hfits : ∀ payload ∈ payloads, Fits UInt32.size payload := fun payload hpayload =>
      ⟨Nat.le_of_lt (hpayloads payload hpayload), hpayloads payload hpayload⟩
    simpa using reads_framed_append hfits reads_nil
  exact ((hreads payloads hpayloads).unique (hframes ▸ hreads others hothers)).1

theorem exists_of_readFrame_eq {σ : Type} {limit : Nat} {read : Nat → σ → Portion × σ}
    {stream after : σ} {payload : Bytes}
    (hread : readFrame limit read stream = (.payload payload, after)) :
    ∃ header headed, read 4 stream = (.octets header, headed) ∧
      read header.toNatLE headed = (.octets payload, after) := by
  unfold readFrame at hread
  rcases hheader : read 4 stream with ⟨header | _ | reason | _, headed⟩
  case octets =>
    refine ⟨header, headed, rfl, ?_⟩
    simp only [hheader] at hread
    split at hread
    next => cases hread
    next => rcases hpayload : read header.toNatLE headed with ⟨_ | _ | _ | _, _⟩ <;> simp_all
  all_goals simp [hheader] at hread

theorem writeFrame_eq_ok {sockets : Sockets ω κ} {limit : Nat} {socket : κ} {payload : Bytes}
    {world after : ω}
    (hwrite : writeFrame sockets limit socket payload world = (some (.ok ()), after)) :
    Fits limit payload ∧ sockets.write socket (framed payload) world = (some (.ok ()), after) := by
  unfold writeFrame at hwrite
  cases hframe : frame limit payload with
  | error error =>
      rw [hframe] at hwrite
      cases hwrite
  | ok octets =>
      obtain ⟨hfits, rfl⟩ := fits_of_frame_eq hframe
      rcases hreply : sockets.write socket (framed payload) world with ⟨_ | error | _, written⟩
      all_goals simp only [hframe, hreply] at hwrite; cases hwrite
      exact ⟨hfits, rfl⟩

/-- Where an answer comes of it, the request was written, and then a header was read and as much as
it says. -/
theorem exists_of_roundTrip_eq {sockets : Sockets ω κ} {limit : Nat} {socket : κ}
    {request answer : Bytes} {world after : ω}
    (hanswer : Channel.roundTrip sockets limit socket request world = (some (.ok answer), after)) :
    request.length < UInt32.size ∧ ∃ written header headed,
      sockets.write socket (framed request) world = (some (.ok ()), written) ∧
      sockets.read socket 4 written = (.octets header, headed) ∧
      sockets.read socket header.toNatLE headed = (.octets answer, after) := by
  unfold Channel.roundTrip at hanswer
  rcases hwrite : writeFrame sockets limit socket request world with ⟨_ | error | _, written⟩
  case some.ok =>
    obtain ⟨hfits, hwritten⟩ := writeFrame_eq_ok hwrite
    rcases hread : readFrame limit (sockets.read socket) written with ⟨payload | _ | _ | _, left⟩
    case payload =>
      simp only [hwrite, hread, Prod.mk.injEq, Option.some.injEq, Except.ok.injEq] at hanswer
      obtain ⟨rfl, rfl⟩ := hanswer
      obtain ⟨header, headed, hheader, hpayload⟩ := exists_of_readFrame_eq hread
      exact ⟨hfits.2, written, header, headed, hwritten, hheader, hpayload⟩
    all_goals simp [hwrite, hread] at hanswer
  all_goals simp [hwrite] at hanswer

theorem header_eq_ofNatLE {header payload : Bytes} (hheader : header.length = 4)
    (hbegins : header <+: framed payload) : header = Bytes.ofNatLE 4 payload.length := by
  have hlength : header.length = (Bytes.ofNatLE 4 payload.length).length := by simp [hheader]
  exact (List.prefix_of_prefix_length_le hbegins (List.prefix_append _ _)
    (Nat.le_of_eq hlength)).eq_of_length hlength

section Peer

variable {sockets : Sockets ω κ} {line : ω → κ → Line}

/-- Where all requests have been answered, no more has come. -/
theorem AnswersInOrder.answers_eq (hpeer : AnswersInOrder sockets line) {world : ω} {socket : κ}
    {requests answers : List Bytes} (hfits : ∀ request ∈ requests, request.length < UInt32.size)
    (hwritten : (line world socket).written = requests.flatMap framed)
    (hanswers : answers <+: (line world socket).answers)
    (hall : answers.length = requests.length) : (line world socket).answers = answers := by
  refine (hanswers.eq_of_length_le ?_).symm
  rw [hall]
  exact hpeer.asked world socket requests hfits hwritten

/-- Settled requests stay settled while a call waits for the connection. -/
theorem AnswersInOrder.isSettled_lock (hpeer : AnswersInOrder sockets line) {world : ω} {socket : κ}
    {requests : List Bytes} (hsettled : (line world socket).IsSettled requests) :
    (line (sockets.lock world).2 socket).IsSettled requests := by
  obtain ⟨hwritten, htaken, hanswers⟩ := hpeer.lock world socket
  rw [hsettled.written] at hwritten
  have hsame := hpeer.answers_eq hsettled.fits hwritten hanswers hsettled.answered
  exact
    { fits := hsettled.fits
      written := hwritten
      answered := by rw [hsame, hsettled.answered]
      taken := by rw [htaken, hsettled.taken, hsame] }

/-- When a header is read behind settled requests and one more, there is one answer more, and the
header is its own. -/
theorem AnswersInOrder.exists_answer (hpeer : AnswersInOrder sockets line) {socket : κ}
    {request header : Bytes} {earlier : List Bytes} {world written headed : ω}
    (hsettled : (line world socket).IsSettled earlier) (hrequest : request.length < UInt32.size)
    (hwrite : sockets.write socket (framed request) world = (some (.ok ()), written))
    (hheader : sockets.read socket 4 written = (.octets header, headed)) :
    ∃ reply, reply.length < UInt32.size ∧ header = Bytes.ofNatLE 4 reply.length ∧
      (line headed socket).written = (earlier ++ [request]).flatMap framed ∧
      (line headed socket).answers = (line world socket).answers ++ [reply] ∧
      (line headed socket).taken = (line world socket).answers.flatMap framed ++ header := by
  obtain ⟨hwritten₁, htaken₁, hanswers₁⟩ := hpeer.write _ _ _ _ hwrite
  obtain ⟨hfour, hwritten₂, htaken₂, hanswers₂⟩ := hpeer.read _ _ _ _ _ hheader
  have hfits : ∀ other ∈ earlier ++ [request], other.length < UInt32.size := by
    simpa [or_imp, forall_and] using ⟨hsettled.fits, hrequest⟩
  have hwritten : (line headed socket).written = (earlier ++ [request]).flatMap framed := by
    rw [hwritten₂, hwritten₁, hsettled.written, List.flatMap_append, List.flatMap_singleton]
  have htaken : (line headed socket).taken =
      (line world socket).answers.flatMap framed ++ header := by
    rw [htaken₂, htaken₁, hsettled.taken]
  obtain ⟨more, hmore⟩ := hanswers₁.trans hanswers₂
  have hone : more.length ≤ 1 := by
    have hcount := hpeer.asked headed socket _ hfits hwritten
    rw [← hmore, List.length_append, hsettled.answered, List.length_append] at hcount
    exact Nat.le_of_add_le_add_left hcount
  have hread : header <+: more.flatMap framed := by
    have hall := hpeer.taken headed socket
    rwa [htaken, ← hmore, List.flatMap_append, List.prefix_append_right_inj] at hall
  match more, hone with
  | [], _ => simp [List.prefix_nil.mp hread] at hfour
  | [reply], _ =>
    rw [List.flatMap_singleton] at hread
    exact ⟨reply, hpeer.fits headed socket reply (by simp [← hmore]),
      header_eq_ofNatLE hfour hread, hwritten, hmore.symm, htaken⟩

/-- Behind requests that are settled, the answer that comes is the answer to the request that was
sent, and then that is settled too. -/
theorem AnswersInOrder.roundTrip (hpeer : AnswersInOrder sockets line) {limit : Nat} {socket : κ}
    {request answer : Bytes} {earlier : List Bytes} {world after : ω}
    (hsettled : (line world socket).IsSettled earlier)
    (hanswer : Channel.roundTrip sockets limit socket request world = (some (.ok answer), after)) :
    (line after socket).IsSettled (earlier ++ [request]) ∧
      (line after socket).answers[earlier.length]? = some answer := by
  obtain ⟨hrequest, written, header, headed, hwrite, hheader, hpayload⟩ :=
    exists_of_roundTrip_eq hanswer
  obtain ⟨reply, hsize, rfl, hwritten, hanswers, htaken⟩ :=
    hpeer.exists_answer hsettled hrequest hwrite hheader
  obtain ⟨hlength, hwritten', htaken', hanswers'⟩ := hpeer.read _ _ _ _ _ hpayload
  rw [hwritten] at hwritten'
  rw [htaken] at htaken'
  have hfits : ∀ other ∈ earlier ++ [request], other.length < UInt32.size := by
    simpa [or_imp, forall_and] using ⟨hsettled.fits, hrequest⟩
  -- All requests are answered, so no more has come while the payload was read.
  have hall : (line after socket).answers = (line world socket).answers ++ [reply] := by
    rw [← hanswers]
    exact hpeer.answers_eq hfits hwritten' hanswers' (by simp [hanswers, hsettled.answered])
  have hanswer : answer = reply := by
    have hbegins := hpeer.taken after socket
    rw [htaken', hall, List.flatMap_append, List.append_assoc, List.prefix_append_right_inj,
      List.flatMap_singleton, framed, List.prefix_append_right_inj] at hbegins
    refine hbegins.eq_of_length ?_
    rw [hlength, Bytes.toNatLE_ofNatLE 4 _ hsize]
  subst hanswer
  refine ⟨⟨hfits, hwritten', ?_, ?_⟩, ?_⟩
  · simp [hall, hsettled.answered]
  · rw [htaken', hall]
    simp [framed]
  · simp [hall, ← hsettled.answered]

end Peer

end LedgerClient.Tcp
