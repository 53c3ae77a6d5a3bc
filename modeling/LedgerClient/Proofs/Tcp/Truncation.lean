import LedgerClient.Proofs.Subscription.Persistence
import LedgerClient.Proofs.Tcp.Frames

/-!
# Streams that are cut off

A peer may close its connection anywhere. The frames that came through are read, and what is left
of the next one decides what is made of the end. Where its header came through, the end is an
error, and a subscription connects again. A part of a header is taken for an end between two
frames: a subscription then ends well, with messages missing.
-/

namespace LedgerClient

namespace Tcp

/-- What was received of frames that are cut off: whole frames, and a part of the next one. -/
structure IsCut (payloads : List Bytes) (received : Bytes) (whole : List Bytes) (part : Bytes) :
    Prop where
  octets : received = whole.flatMap framed ++ part
  begins : whole <+: payloads
  left : part = [] ∨ ∃ payload, whole ++ [payload] <+: payloads ∧
    part <+: framed payload ∧ part.length < (framed payload).length

/-- Frames can be cut off anywhere. -/
theorem exists_isCut {payloads : List Bytes} {received : Bytes}
    (hreceived : received <+: payloads.flatMap framed) :
    ∃ whole part, IsCut payloads received whole part := by
  induction payloads generalizing received with
  | nil => exact ⟨[], [], List.prefix_nil.mp hreceived, List.prefix_rfl, .inl rfl⟩
  | cons payload rest ih =>
      rw [List.flatMap_cons] at hreceived
      by_cases hshort : received.length < (framed payload).length
      · have hpart : received <+: framed payload :=
          List.prefix_of_prefix_length_le hreceived (List.prefix_append _ _) (Nat.le_of_lt hshort)
        refine ⟨[], received, rfl, List.nil_prefix, .inr ⟨payload, ?_, hpart, hshort⟩⟩
        exact List.prefix_append [payload] rest
      · obtain ⟨later, rfl⟩ : framed payload <+: received :=
          List.prefix_of_prefix_length_le (List.prefix_append _ _) hreceived
            (Nat.le_of_not_lt hshort)
        obtain ⟨whole, part, hcut⟩ := ih ((List.prefix_append_right_inj _).mp hreceived)
        refine ⟨payload :: whole, part, ?_, ?_, ?_⟩
        · rw [hcut.octets, List.flatMap_cons, List.append_assoc]
        · exact List.cons_prefix_cons.mpr ⟨rfl, hcut.begins⟩
        · obtain hnone | ⟨next, hnext, hpart⟩ := hcut.left
          · exact .inl hnone
          · exact .inr ⟨next, List.cons_prefix_cons.mpr ⟨rfl, hnext⟩, hpart⟩

/-- What reading comes to with a part of a frame. -/
def endAt (part : Bytes) : Reading :=
  if part.length < 4 then .ended else .failed (.io "early eof")

theorem endAt_ne_payload (part payload : Bytes) : endAt part ≠ .payload payload := by
  unfold endAt
  split <;> simp

section Reading

variable {limit : Nat} {payloads : List Bytes} {received part : Bytes} {whole : List Bytes}

/-- A part of a header is no frame, and no error. -/
theorem readFrame_of_length_lt (hpart : part.length < 4) :
    readFrame limit readOctets part = (.ended, []) := by
  simp [readFrame, readOctets, Nat.not_le.mpr hpart]

/-- A part of a frame that has its header is an error. -/
theorem readFrame_of_begun {payload : Bytes} (hfits : Fits limit payload)
    (hpart : part <+: framed payload) (hshort : part.length < (framed payload).length)
    (hheader : 4 ≤ part.length) :
    readFrame limit readOctets part = (.failed (.io "early eof"), []) := by
  have hlength := Bytes.length_ofNatLE 4 payload.length
  obtain ⟨begun, rfl⟩ : Bytes.ofNatLE 4 payload.length <+: part :=
    List.prefix_of_prefix_length_le (List.prefix_append _ _) hpart (by rwa [hlength])
  have hsize : (Bytes.ofNatLE 4 payload.length).toNatLE = payload.length :=
    Bytes.toNatLE_ofNatLE 4 _ hfits.2
  have hbegun : begun.length < payload.length := by
    simpa using hshort
  have hend : readOctets payload.length begun = (.ended, []) := if_neg (Nat.not_le.mpr hbegun)
  simp only [readFrame, readOctets_header hlength, hsize, if_neg (Nat.not_lt.mpr hfits.1), hend]

/-- The frames that came through are read, and then what is left is what counts. -/
theorem IsCut.reads (hcut : IsCut payloads received whole part)
    (hfits : ∀ payload ∈ payloads, Fits limit payload) :
    Reads limit readOctets received whole (endAt part) := by
  rw [hcut.octets]
  apply reads_framed_append fun payload hpayload => hfits payload (hcut.begins.subset hpayload)
  have hend : readFrame limit readOctets part = (endAt part, []) := by
    by_cases hheader : part.length < 4
    · rw [readFrame_of_length_lt hheader, endAt, if_pos hheader]
    · obtain rfl | ⟨payload, hnext, hpart, hshort⟩ := hcut.left
      · exact absurd (Nat.zero_lt_succ 3) hheader
      · have hpayload : payload ∈ payloads := hnext.subset (by simp)
        rw [readFrame_of_begun (hfits payload hpayload) hpart hshort (Nat.le_of_not_lt hheader),
          endAt, if_neg hheader]
  exact .last hend (endAt_ne_payload part)

end Reading

end Tcp

open Tcp

variable {ω κ : Type}

/-- What an item of a stream is to a subscription. -/
def Arrival.ofItem : Option (Except TransportError TopicMessage) → Arrival
  | some (.ok taken) => .message taken
  | some (.error error) => .broke error
  | none => .completed

namespace Subscription

/-- A subscription that takes a number of items from a stream. -/
def follow (sockets : Sockets ω κ) :
    (count : Nat) → Subscription → TopicStream κ → ω → Subscription
  | 0, s, _, _ => s
  | count + 1, s, stream, world =>
      let (item, stream, world) := stream.next sockets world
      follow sockets count (s.resume (.ofItem item)) stream world

variable {sockets : Sockets ω κ} {socket : κ} {limit : Nat}

/-- Payloads of a stream, and the messages that they are. -/
def AreMessages (payloads : List Bytes) (messages : List TopicMessage) : Prop :=
  List.Forall₂ (fun payload message => TopicStream.message payload = .ok message) payloads messages

/-- What is read from a stream is what a subscription is told, and so is how it ends. -/
theorem follow_of_reads {world : ω} {payloads : List Bytes} {messages : List TopicMessage}
    {part : Bytes} (hreads : Reads limit (sockets.read socket) world payloads (endAt part))
    (hmessages : AreMessages payloads messages) (s : Subscription) :
    s.follow sockets (messages.length + 1) { limit, socket := some socket } world =
      ((messages.map .message).foldl resume s).resume
        (if part.length < 4 then .completed else .broke (.io "early eof")) := by
  generalize hlast : endAt part = last at hreads
  induction hreads generalizing s messages with
  | payload hread _ ih =>
      cases hmessages with
      | cons hmessage hrest =>
          rw [List.length_cons, follow]
          simp only [TopicStream.next, hread, hmessage]
          exact ih hrest _ hlast
  | last hread =>
      cases hmessages
      subst hlast
      unfold endAt at hread
      split at hread
      next hheader => simp [follow, TopicStream.next, hread, hheader, Arrival.ofItem]
      next hheader => simp [follow, TopicStream.next, hread, hheader, Arrival.ofItem]

/-- After a failure a subscription pauses or gives up. -/
theorem rests_or_gives_up (s : Subscription) (error : TransportError) :
    (∃ pause, (s.fail error).phase = .resting pause) ∨
      ∃ fault, (s.fail error).outcome? = some (.error (.subscription fault)) := by
  by_cases hspent : s.settings.maxAttempts.toNat ≤ s.failures + 1
  · have houtcome : (s.fail error).outcome? =
        some (.error (.subscription (.gaveUp s.query.topicId (s.failures + 1) error))) := by
      simp [fail, outcome?, hspent]
    exact .inr ⟨_, houtcome⟩
  · exact .inl ⟨_, if_neg hspent⟩

end Subscription

namespace Tcp

open Subscription

/-- Wherever frames are cut off, those that came through are read, and a subscription is told of
their messages. If the next header came through, it then fails, and pauses or gives up; if not, it
ends well, whether there is a part of a header or nothing. -/
theorem cut_frames_read {sockets : Sockets ω κ} {socket : κ} {octets : ω → Bytes}
    (hbrings : Brings (sockets.read socket) octets) {limit : Nat} {payloads : List Bytes}
    (hfits : ∀ payload ∈ payloads, Fits limit payload) :
    (∀ received, received <+: payloads.flatMap framed →
      ∃ whole part, IsCut payloads received whole part) ∧
    ∀ world whole part, IsCut payloads (octets world) whole part →
      Reads limit (sockets.read socket) world whole (endAt part) ∧
      ∀ (s : Subscription) messages, s.phase = .streaming → AreMessages whole messages →
        ¬ (s.limit ≠ 0 ∧ s.limit.toNat ≤ s.delivered + messages.length) →
        let next := s.follow sockets (messages.length + 1) { limit, socket := some socket } world
        next.delivered = s.delivered + messages.length ∧
          (part.length < 4 → next.outcome? = some (.ok ())) ∧
          (4 ≤ part.length → (∃ pause, next.phase = .resting pause) ∨
            ∃ fault, next.outcome? = some (.error (.subscription fault))) := by
  refine ⟨fun received => exists_isCut, fun world whole part hcut => ?_⟩
  have hreads := hbrings.reads (hcut.reads hfits)
  refine ⟨hreads, fun s messages hphase hmessages hroom => ?_⟩
  have hhandled := hasHandled_messages hphase hroom
  rw [follow_of_reads hreads hmessages s]
  by_cases hheader : part.length < 4
  · rw [if_pos hheader, resume_completed hhandled.phase]
    exact ⟨hhandled.delivered, fun _ => rfl, fun hle => absurd hheader (Nat.not_lt.mpr hle)⟩
  · rw [if_neg hheader, resume_broke hhandled.phase]
    exact ⟨hhandled.delivered, fun hlt => absurd hlt hheader, fun _ => rests_or_gives_up _ _⟩

/-- The first two messages of a topic, as payloads. -/
def firstPayloads : List Bytes :=
  [Wire.encode (Delivery.ofSecond 1), Wire.encode (Delivery.ofSecond 2)]

/-- A subscription that waits for the first message of a stream. -/
def streaming : Subscription :=
  { start ⟨.ofNum 9, none, none, 0⟩ .quick with phase := .streaming }

theorem cut_frames_read_behind_header :
    let received := (firstPayloads.flatMap framed).take 60
    let next := streaming.follow pipe 2 { limit := 1024, socket := some () } received
    (∀ payload ∈ firstPayloads, Fits 1024 payload) ∧
      IsCut firstPayloads received (firstPayloads.take 1) [52, 0, 0, 0] ∧
      Reads 1024 (pipe.read ()) received (firstPayloads.take 1) (.failed (.io "early eof")) ∧
      AreMessages (firstPayloads.take 1) [Delivery.ofSecond 1] ∧
      next.delivered = 1 ∧ ((∃ pause, next.phase = .resting pause) ∨
        ∃ fault, next.outcome? = some (.error (.subscription fault))) := by
  intro received next
  have hbrings : Brings (pipe.read ()) id := fun _ _ => rfl
  have hfits : ∀ payload ∈ firstPayloads, Fits 1024 payload := by decide
  have hcut : IsCut firstPayloads received (firstPayloads.take 1) [52, 0, 0, 0] := by
    refine ⟨rfl, ⟨_, rfl⟩, .inr ⟨_, List.prefix_rfl, ⟨_, rfl⟩, by decide⟩⟩
  have hmessages : AreMessages (firstPayloads.take 1) [Delivery.ofSecond 1] :=
    .cons rfl .nil
  obtain ⟨hreads, hfollowed⟩ := (cut_frames_read hbrings hfits).2 received _ _ hcut
  obtain ⟨hdelivered, _, hfails⟩ := hfollowed streaming _ rfl hmessages (by decide)
  exact ⟨hfits, hcut, hreads, hmessages, hdelivered, hfails (by decide)⟩

/-- A stream that ends in the middle of a header makes a subscription end well, though it has a
message less than were sent. -/
theorem cut_header_ends_well :
    let received := (firstPayloads.flatMap framed).take 58
    let next := streaming.follow pipe 2 { limit := 1024, socket := some () } received
    IsCut firstPayloads received (firstPayloads.take 1) [52, 0] ∧
      Reads 1024 (pipe.read ()) received (firstPayloads.take 1) .ended ∧
      next.outcome? = some (.ok ()) ∧ next.delivered < firstPayloads.length := by
  refine ⟨⟨rfl, ⟨_, rfl⟩, .inr ⟨_, List.prefix_rfl, ⟨_, rfl⟩, by decide⟩⟩, ?_, rfl, by decide⟩
  exact .payload rfl (.last rfl (by simp))

end Tcp

end LedgerClient
