import LedgerClient.Error

/-!
# Frames

A frame is the length of its payload in four octets, the least significant first,
and the payload. Both sides set a limit for payloads. A stream that ends while a
header is due has ended; one that ends inside a payload is broken.
-/

namespace LedgerClient.Tcp

/-- A payload as a frame, unless it is too long. -/
def frame (limit : Nat) (payload : Bytes) : Except TransportError Bytes :=
  if limit < payload.length then .error (.frameTooLarge payload.length limit)
  else if UInt32.size ≤ payload.length then
    .error (.frameTooLarge payload.length (UInt32.size - 1))
  else .ok (Bytes.ofNatLE 4 payload.length ++ payload)

/-- What comes of reading a number of octets. -/
inductive Portion where
  | octets (bytes : Bytes)
  /-- The stream ended before there were as many. -/
  | ended
  | failed (reason : String)
  /-- The reader stopped waiting. -/
  | abandoned

/-- What comes of reading a frame. -/
inductive Reading where
  | payload (bytes : Bytes)
  /-- There are no more frames. -/
  | ended
  | failed (error : TransportError)
  /-- The reader stopped waiting. -/
  | abandoned

/-- Reads a frame by reading numbers of octets. The length is checked before the payload is read. -/
def readFrame {σ : Type} (limit : Nat) (read : Nat → σ → Portion × σ) (stream : σ) : Reading × σ :=
  match read 4 stream with
  | (.ended, stream) => (.ended, stream)
  | (.failed reason, stream) => (.failed (.io reason), stream)
  | (.abandoned, stream) => (.abandoned, stream)
  | (.octets header, stream) =>
      let length := header.toNatLE
      if limit < length then (.failed (.frameTooLarge length limit), stream)
      else match read length stream with
        | (.octets payload, stream) => (.payload payload, stream)
        | (.ended, stream) => (.failed (.io "early eof"), stream)
        | (.failed reason, stream) => (.failed (.io reason), stream)
        | (.abandoned, stream) => (.abandoned, stream)

/-- Reads from octets that are all there will be. What is left of them is lost with a read that asks
for more. -/
def readOctets (count : Nat) (stream : Bytes) : Portion × Bytes :=
  if count ≤ stream.length then (.octets (stream.take count), stream.drop count) else (.ended, [])

/-- A frame that is there is read. -/
theorem readFrame_append {limit : Nat} {payload framed : Bytes}
    (hframed : frame limit payload = .ok framed) (rest : Bytes) :
    readFrame limit readOctets (framed ++ rest) = (.payload payload, rest) := by
  unfold frame at hframed
  split at hframed
  · simp at hframed
  next hlimit =>
    split at hframed
    · simp at hframed
    next hfits =>
      obtain rfl := Except.ok.inj hframed
      have hlength : Bytes.toNatLE (Bytes.ofNatLE 4 payload.length) = payload.length :=
        Bytes.toNatLE_ofNatLE 4 _ (Nat.lt_of_not_le hfits)
      simp [readFrame, readOctets, hlength, hlimit]

end LedgerClient.Tcp
