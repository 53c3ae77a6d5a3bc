import LedgerClient.Tcp.Channel

/-!
# Frames that are written and read back

Frames say where they end, so payloads that are written one after the other are read back as they
were, whatever pieces the octets come in. What is too long is refused on either side: a payload
before any of it is written, and a header before any of its payload is read.
-/

namespace LedgerClient.Tcp

variable {ω κ σ : Type}

/-- A payload with its length in front. -/
def framed (payload : Bytes) : Bytes := Bytes.ofNatLE 4 payload.length ++ payload

/-- A payload that is no longer than a limit, and not longer than a header can say. -/
def Fits (limit : Nat) (payload : Bytes) : Prop :=
  payload.length ≤ limit ∧ payload.length < UInt32.size

instance (limit : Nat) (payload : Bytes) : Decidable (Fits limit payload) :=
  inferInstanceAs (Decidable (_ ∧ _))

@[simp] theorem length_framed (payload : Bytes) : (framed payload).length = 4 + payload.length := by
  simp [framed]

theorem Fits.frame_eq {limit : Nat} {payload : Bytes} (hfits : Fits limit payload) :
    frame limit payload = .ok (framed payload) := by
  rw [frame, if_neg (Nat.not_lt.mpr hfits.1), if_neg (Nat.not_le.mpr hfits.2), framed]

/-! ### Writing -/

/-- Writes payloads one after the other, as long as they are taken. -/
def writeFrames (sockets : Sockets ω κ) (limit : Nat) (socket : κ) :
    List Bytes → ω → Option (Except TransportError Unit) × ω
  | [], world => (some (.ok ()), world)
  | payload :: rest, world =>
      match writeFrame sockets limit socket payload world with
      | (some (.ok ()), world) => writeFrames sockets limit socket rest world
      | (reply, world) => (reply, world)

/-- A socket takes all that is written to it, and `sent` are the octets it was given. -/
structure Takes (sockets : Sockets ω κ) (socket : κ) (sent : ω → Bytes) : Prop where
  reply : ∀ octets world, (sockets.write socket octets world).1 = some (.ok ())
  sent : ∀ octets world, sent (sockets.write socket octets world).2 = sent world ++ octets

theorem writeFrame_of_lt (sockets : Sockets ω κ) (socket : κ) {limit : Nat} {payload : Bytes}
    (hlong : limit < payload.length) (world : ω) :
    writeFrame sockets limit socket payload world =
      (some (.error (.frameTooLarge payload.length limit)), world) := by
  simp [writeFrame, frame, hlong]

section Writing

variable {sockets : Sockets ω κ} {socket : κ} {sent : ω → Bytes} {limit : Nat}

theorem Takes.writeFrame_fst (htakes : Takes sockets socket sent) {payload : Bytes}
    (hfits : Fits limit payload) (world : ω) :
    (writeFrame sockets limit socket payload world).1 = some (.ok ()) := by
  have hreply := htakes.reply (framed payload) world
  simp only [writeFrame, hfits.frame_eq, hreply]
  rfl

theorem Takes.sent_writeFrame (htakes : Takes sockets socket sent) {payload : Bytes}
    (hfits : Fits limit payload) (world : ω) :
    sent (writeFrame sockets limit socket payload world).2 = sent world ++ framed payload := by
  simp [writeFrame, hfits.frame_eq, htakes.sent]

/-- Payloads that fit are all written, one frame behind the other. -/
theorem Takes.sent_writeFrames (htakes : Takes sockets socket sent) {payloads : List Bytes}
    (hfits : ∀ payload ∈ payloads, Fits limit payload) (world : ω) :
    (writeFrames sockets limit socket payloads world).1 = some (.ok ()) ∧
      sent (writeFrames sockets limit socket payloads world).2 =
        sent world ++ payloads.flatMap framed := by
  induction payloads generalizing world with
  | nil => simp [writeFrames]
  | cons payload rest ih =>
      obtain ⟨hfirst, hrest⟩ := List.forall_mem_cons.mp hfits
      have hreply := htakes.writeFrame_fst hfirst world
      have hsent := htakes.sent_writeFrame hfirst world
      cases hwritten : writeFrame sockets limit socket payload world with
      | mk reply next =>
          rw [hwritten] at hreply hsent
          obtain rfl : reply = some (.ok ()) := hreply
          obtain ⟨hreply, hlater⟩ := ih hrest next
          simp only [writeFrames, hwritten]
          refine ⟨hreply, ?_⟩
          rw [hlater, hsent, List.flatMap_cons, List.append_assoc]

end Writing

/-! ### Reading -/

/-- Reading from a stream is reading from the octets that it holds. -/
def Brings (read : Nat → σ → Portion × σ) (octets : σ → Bytes) : Prop :=
  ∀ count stream, (read count stream).map id octets = readOctets count (octets stream)

/-- Reads from octets that come in pieces, taking as many pieces as it needs. -/
def readPieces (count : Nat) : List Bytes → Portion × List Bytes
  | [] => if count = 0 then (.octets [], []) else (.ended, [])
  | piece :: rest =>
      if count ≤ piece.length then (.octets (piece.take count), piece.drop count :: rest)
      else match readPieces (count - piece.length) rest with
        | (.octets bytes, rest) => (.octets (piece ++ bytes), rest)
        | (portion, rest) => (portion, rest)

theorem readOctets_append_of_le {count : Nat} {octets : Bytes} (hcount : count ≤ octets.length)
    (rest : Bytes) :
    readOctets count (octets ++ rest) = (.octets (octets.take count), octets.drop count ++ rest) := by
  have hall : count ≤ (octets ++ rest).length := by
    rw [List.length_append]
    omega
  rw [readOctets, if_pos hall, List.take_append_of_le_length hcount,
    List.drop_append_of_le_length hcount]

theorem readOctets_append_of_not_le {count : Nat} {octets : Bytes}
    (hcount : ¬ count ≤ octets.length) (rest : Bytes) :
    readOctets count (octets ++ rest) =
      match readOctets (count - octets.length) rest with
      | (.octets bytes, left) => (.octets (octets ++ bytes), left)
      | (portion, left) => (portion, left) := by
  have htake : octets.take count = octets := List.take_of_length_le (by omega)
  have hdrop : octets.drop count = [] := List.drop_of_length_le (by omega)
  by_cases hrest : count - octets.length ≤ rest.length
  · have hall : count ≤ octets.length + rest.length := by omega
    simp [readOctets, hrest, hall, List.take_append, List.drop_append, htake, hdrop]
  · have hall : ¬ count ≤ octets.length + rest.length := by omega
    simp [readOctets, hrest, hall]

theorem readOctets_header {header : Bytes} (hheader : header.length = 4) (rest : Bytes) :
    readOctets 4 (header ++ rest) = (.octets header, rest) := by
  rw [← hheader, readOctets_append_of_le (Nat.le_refl _), List.take_length, List.drop_length,
    List.nil_append]

theorem brings_readPieces : Brings readPieces List.flatten := by
  intro count pieces
  induction pieces generalizing count with
  | nil => by_cases hcount : count = 0 <;> simp [readPieces, readOctets, hcount]
  | cons piece rest ih =>
      rw [List.flatten_cons]
      by_cases hpiece : count ≤ piece.length
      · rw [readOctets_append_of_le hpiece, readPieces, if_pos hpiece]
        rfl
      · rw [readOctets_append_of_not_le hpiece, readPieces, if_neg hpiece, ← ih]
        cases hlater : readPieces (count - piece.length) rest with
        | mk portion left => cases portion <;> rfl

/-- Frames that are read from a stream, one after the other: their payloads, and what reading
comes to where there is none. -/
inductive Reads (limit : Nat) (read : Nat → σ → Portion × σ) : σ → List Bytes → Reading → Prop where
  | payload {stream left : σ} {payload : Bytes} {rest : List Bytes} {last : Reading}
      (hread : readFrame limit read stream = (.payload payload, left))
      (hrest : Reads limit read left rest last) : Reads limit read stream (payload :: rest) last
  | last {stream left : σ} {last : Reading} (hread : readFrame limit read stream = (last, left))
      (hlast : ∀ payload, last ≠ .payload payload) : Reads limit read stream [] last

/-- What is read is determined by the stream. -/
theorem Reads.unique {limit : Nat} {read : Nat → σ → Portion × σ} {stream : σ}
    {payloads others : List Bytes} {last other : Reading}
    (hreads : Reads limit read stream payloads last)
    (hothers : Reads limit read stream others other) : payloads = others ∧ last = other := by
  induction hreads generalizing others with
  | payload hread _ ih =>
      cases hothers with
      | payload hother hrest =>
          cases hread.symm.trans hother
          obtain ⟨rfl, rfl⟩ := ih hrest
          exact ⟨rfl, rfl⟩
      | last hother hlast =>
          cases hread.symm.trans hother
          exact absurd rfl (hlast _)
  | last hread hlast =>
      cases hothers with
      | payload hother _ =>
          cases hread.symm.trans hother
          exact absurd rfl (hlast _)
      | last hother _ =>
          cases hread.symm.trans hother
          exact ⟨rfl, rfl⟩

section Reading

variable {read : Nat → σ → Portion × σ} {octets : σ → Bytes} {limit : Nat}

/-- What a frame is read as depends on the octets of the stream alone. -/
theorem Brings.map_readFrame (hbrings : Brings read octets) (limit : Nat) (stream : σ) :
    (readFrame limit read stream).map id octets = readFrame limit readOctets (octets stream) := by
  simp only [readFrame, ← hbrings 4 stream]
  cases hheader : read 4 stream with
  | mk portion left =>
      cases portion with
      | octets header =>
          simp only [Prod.map_apply, id_eq]
          split
          · rfl
          · rw [← hbrings header.toNatLE left]
            cases hpayload : read header.toNatLE left with
            | mk portion rest => cases portion <;> rfl
      | ended => rfl
      | failed => rfl
      | abandoned => rfl

theorem Brings.exists_readFrame (hbrings : Brings read octets) {stream : σ} {reading : Reading}
    {rest : Bytes} (hread : readFrame limit readOctets (octets stream) = (reading, rest)) :
    ∃ left, readFrame limit read stream = (reading, left) ∧ octets left = rest := by
  rw [← hbrings.map_readFrame] at hread
  cases hframe : readFrame limit read stream with
  | mk found left =>
      rw [hframe] at hread
      cases hread
      exact ⟨left, rfl, rfl⟩

/-- What is read from a stream is what is read from its octets. -/
theorem Brings.reads (hbrings : Brings read octets) {stream : σ} {payloads : List Bytes}
    {last : Reading} (hreads : Reads limit readOctets (octets stream) payloads last) :
    Reads limit read stream payloads last := by
  generalize hoctets : octets stream = bytes at hreads
  induction hreads generalizing stream with
  | payload hread _ ih =>
      subst hoctets
      obtain ⟨left, hframe, hleft⟩ := hbrings.exists_readFrame hread
      exact .payload hframe (ih hleft)
  | last hread hlast =>
      subst hoctets
      obtain ⟨left, hframe, _⟩ := hbrings.exists_readFrame hread
      exact .last hframe hlast

/-- Frames that are there are read, before what follows them. -/
theorem reads_framed_append {payloads : List Bytes} (hfits : ∀ payload ∈ payloads, Fits limit payload)
    {rest : Bytes} {last : Reading} (hrest : Reads limit readOctets rest [] last) :
    Reads limit readOctets (payloads.flatMap framed ++ rest) payloads last := by
  induction payloads with
  | nil => exact hrest
  | cons payload others ih =>
      obtain ⟨hfirst, hothers⟩ := List.forall_mem_cons.mp hfits
      rw [List.flatMap_cons, List.append_assoc]
      exact .payload (readFrame_append hfirst.frame_eq _) (ih hothers)

theorem reads_nil : Reads limit readOctets [] [] .ended := .last rfl (by simp)

/-- A header that announces too much is refused, and what comes behind it is not read. -/
theorem readFrame_of_lt {header : Bytes} (hheader : header.length = 4)
    (hlong : limit < header.toNatLE) (rest : Bytes) :
    readFrame limit readOctets (header ++ rest) =
      (.failed (.frameTooLarge header.toNatLE limit), rest) := by
  simp [readFrame, readOctets_header hheader, hlong]

end Reading

/-- Payloads that fit are written as frames and read back as they were, whatever the stream brings
them in; a payload that is longer than the limit is refused with nothing written; and a header that
announces more than the limit is refused, with what it announces, before anything behind it is
read. -/
theorem frames_read_back {sockets : Sockets ω κ} {socket : κ} {sent : ω → Bytes}
    (htakes : Takes sockets socket sent) {read : Nat → σ → Portion × σ} {octets : σ → Bytes}
    (hbrings : Brings read octets) (limit : Nat) :
    (∀ payloads, (∀ payload ∈ payloads, Fits limit payload) → ∀ world,
      let written := writeFrames sockets limit socket payloads world
      written.1 = some (.ok ()) ∧
        ∀ stream, sent written.2 = sent world ++ octets stream →
          Reads limit read stream payloads .ended) ∧
    (∀ payload world, limit < payload.length →
      writeFrame sockets limit socket payload world =
        (some (.error (.frameTooLarge payload.length limit)), world)) ∧
    ∀ stream header rest, octets stream = header ++ rest → header.length = 4 →
      limit < header.toNatLE →
      ∃ left, readFrame limit read stream =
        (.failed (.frameTooLarge header.toNatLE limit), left) ∧ octets left = rest := by
  refine ⟨fun payloads hfits world => ?_, fun payload world hlong => ?_,
    fun stream header rest hstream hheader hlong => ?_⟩
  · obtain ⟨hreply, hsent⟩ := htakes.sent_writeFrames hfits world
    refine ⟨hreply, fun stream hstream => hbrings.reads ?_⟩
    have hframes := List.append_cancel_left (hsent.symm.trans hstream)
    rw [← hframes]
    simpa using reads_framed_append hfits reads_nil
  · exact writeFrame_of_lt sockets socket hlong world
  · apply hbrings.exists_readFrame
    rw [hstream]
    exact readFrame_of_lt hheader hlong rest

/-- A socket that keeps what is written to it. -/
def pipe : Sockets Bytes Unit where
  lock world := (some (), world)
  dial _ world := (some (.ok ()), world)
  write _ octets world := (some (.ok ()), world ++ octets)
  read _ count world := readOctets count world
  shutDown _ world := (some (.ok ()), world)
  hangUp _ world := world

theorem takes_pipe : Takes pipe () id := ⟨fun _ _ => rfl, fun _ _ => rfl⟩

theorem frames_read_back_pipe :
    (∀ payload ∈ [[1, 2, 3], [], [4]], Fits 3 payload) ∧
      Reads 3 readPieces [[3, 0], [0, 0, 1], [2, 3, 0, 0, 0, 0, 1], [], [0, 0, 0, 4]]
        [[1, 2, 3], [], [4]] .ended ∧
      writeFrame pipe 3 () [1, 2, 3, 4] [9] = (some (.error (.frameTooLarge 4 3)), [9]) ∧
      ∃ left, readFrame 3 readPieces [[4, 0, 0], [0, 1, 2], [3]] =
        (.failed (.frameTooLarge 4 3), left) ∧ left.flatten = [1, 2, 3] := by
  obtain ⟨hframes, hpayload, hheader⟩ := frames_read_back takes_pipe brings_readPieces 3
  have hfits : ∀ payload ∈ [[1, 2, 3], [], [4]], Fits 3 payload := by decide
  refine ⟨hfits, ?_, hpayload [1, 2, 3, 4] [9] (by decide), ?_⟩
  · exact (hframes _ hfits []).2 _ rfl
  · exact hheader _ [4, 0, 0, 0] [1, 2, 3] rfl rfl (by decide)

end LedgerClient.Tcp
