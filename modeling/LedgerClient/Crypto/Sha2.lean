import LedgerClient.Bytes

/-!
# SHA-2

The hash functions of the SHA-2 family that the ledger uses: SHA-256 inside ECDSA
signatures, SHA-512 inside Ed25519 and SHA-384 for bodies and transactions. Both
widths share their shape: a message is padded to whole blocks, each block is
expanded to a schedule of words, and every word of the schedule turns the eight
working words once.
-/

namespace LedgerClient.Crypto

/-- The eight working words. -/
structure Words (w : Type) where
  a : w
  b : w
  c : w
  d : w
  e : w
  f : w
  g : w
  h : w

/-- What differs between the two widths of the family. -/
structure Sha2 (w : Type) where
  /-- Octets in a word. -/
  wordBytes : Nat
  ofNat : Nat → w
  toNat : w → Nat
  add : w → w → w
  xor : w → w → w
  and : w → w → w
  not : w → w
  /-- The three functions of the message and of the working words that mix one word. -/
  bigSigma0 : w → w
  bigSigma1 : w → w
  smallSigma0 : w → w
  smallSigma1 : w → w
  /-- One constant a round. -/
  constants : Array w

namespace Sha2

variable {w : Type} (s : Sha2 w)

/-- The message, a one bit, zeros, and the length in bits: whole blocks of sixteen words. -/
def pad (message : Bytes) : Bytes :=
  let block := 16 * s.wordBytes
  let used := message.length + 1 + 2 * s.wordBytes
  let zeros := (block - used % block) % block
  message ++ 0x80 :: List.replicate zeros 0 ++
    Bytes.ofNatBE (2 * s.wordBytes) (8 * message.length)

/-- The words of a byte string, `count` of them. -/
def words (count : Nat) (bytes : Bytes) : Array w :=
  match count with
  | 0 => #[]
  | count + 1 =>
      #[s.ofNat (Bytes.toNatBE (bytes.take s.wordBytes))] ++ words count (bytes.drop s.wordBytes)

/-- The schedule grown to one word a round. -/
def schedule (block : Array w) : Array w :=
  (List.range (s.constants.size - 16)).foldl (fun sched i =>
    let back := fun n => sched.getD (i + 16 - n) (s.ofNat 0)
    sched.push (s.add (s.add (s.smallSigma1 (back 2)) (back 7))
      (s.add (s.smallSigma0 (back 15)) (back 16)))) block

/-- One round. -/
def round (v : Words w) (constant word : w) : Words w :=
  let choose := s.xor (s.and v.e v.f) (s.and (s.not v.e) v.g)
  let majority := s.xor (s.xor (s.and v.a v.b) (s.and v.a v.c)) (s.and v.b v.c)
  let t1 := s.add (s.add (s.add v.h (s.bigSigma1 v.e)) (s.add choose constant)) word
  let t2 := s.add (s.bigSigma0 v.a) majority
  ⟨s.add t1 t2, v.a, v.b, v.c, s.add v.d t1, v.e, v.f, v.g⟩

/-- The working words after one block. -/
def compress (v : Words w) (block : Array w) : Words w :=
  let sched := s.schedule block
  let r := (List.range s.constants.size).foldl
    (fun v t => s.round v (s.constants.getD t (s.ofNat 0)) (sched.getD t (s.ofNat 0))) v
  ⟨s.add v.a r.a, s.add v.b r.b, s.add v.c r.c, s.add v.d r.d,
   s.add v.e r.e, s.add v.f r.f, s.add v.g r.g, s.add v.h r.h⟩

/-- Runs `count` blocks of a padded message. -/
def run : (count : Nat) → Words w → Bytes → Words w
  | 0, v, _ => v
  | count + 1, v, bytes =>
      run count (s.compress v (s.words 16 bytes)) (bytes.drop (16 * s.wordBytes))

/-- The first `length` octets of the final working words. -/
def digest (start : Words w) (length : Nat) (message : Bytes) : Bytes :=
  let padded := s.pad message
  let v := s.run (padded.length / (16 * s.wordBytes)) start padded
  ([v.a, v.b, v.c, v.d, v.e, v.f, v.g, v.h].flatMap fun word =>
    Bytes.ofNatBE s.wordBytes (s.toNat word)).take length

end Sha2

/-- Rotates 32 bits to the right. -/
def rotate32 (x : UInt32) (n : UInt32) : UInt32 := (x >>> n) ||| (x <<< (32 - n))

/-- Rotates 64 bits to the right. -/
def rotate64 (x : UInt64) (n : UInt64) : UInt64 := (x >>> n) ||| (x <<< (64 - n))

/-- The family on words of 32 bits. -/
def narrow : Sha2 UInt32 where
  wordBytes := 4
  ofNat := UInt32.ofNat
  toNat := UInt32.toNat
  add := (· + ·)
  xor := (· ^^^ ·)
  and := (· &&& ·)
  not := (~~~ ·)
  bigSigma0 x := rotate32 x 2 ^^^ rotate32 x 13 ^^^ rotate32 x 22
  bigSigma1 x := rotate32 x 6 ^^^ rotate32 x 11 ^^^ rotate32 x 25
  smallSigma0 x := rotate32 x 7 ^^^ rotate32 x 18 ^^^ (x >>> 3)
  smallSigma1 x := rotate32 x 17 ^^^ rotate32 x 19 ^^^ (x >>> 10)
  constants := #[
  0x428a2f98, 0x71374491, 0xb5c0fbcf, 0xe9b5dba5, 0x3956c25b, 0x59f111f1, 0x923f82a4, 0xab1c5ed5,
  0xd807aa98, 0x12835b01, 0x243185be, 0x550c7dc3, 0x72be5d74, 0x80deb1fe, 0x9bdc06a7, 0xc19bf174,
  0xe49b69c1, 0xefbe4786, 0x0fc19dc6, 0x240ca1cc, 0x2de92c6f, 0x4a7484aa, 0x5cb0a9dc, 0x76f988da,
  0x983e5152, 0xa831c66d, 0xb00327c8, 0xbf597fc7, 0xc6e00bf3, 0xd5a79147, 0x06ca6351, 0x14292967,
  0x27b70a85, 0x2e1b2138, 0x4d2c6dfc, 0x53380d13, 0x650a7354, 0x766a0abb, 0x81c2c92e, 0x92722c85,
  0xa2bfe8a1, 0xa81a664b, 0xc24b8b70, 0xc76c51a3, 0xd192e819, 0xd6990624, 0xf40e3585, 0x106aa070,
  0x19a4c116, 0x1e376c08, 0x2748774c, 0x34b0bcb5, 0x391c0cb3, 0x4ed8aa4a, 0x5b9cca4f, 0x682e6ff3,
  0x748f82ee, 0x78a5636f, 0x84c87814, 0x8cc70208, 0x90befffa, 0xa4506ceb, 0xbef9a3f7, 0xc67178f2]

/-- The family on words of 64 bits. -/
def wide : Sha2 UInt64 where
  wordBytes := 8
  ofNat := UInt64.ofNat
  toNat := UInt64.toNat
  add := (· + ·)
  xor := (· ^^^ ·)
  and := (· &&& ·)
  not := (~~~ ·)
  bigSigma0 x := rotate64 x 28 ^^^ rotate64 x 34 ^^^ rotate64 x 39
  bigSigma1 x := rotate64 x 14 ^^^ rotate64 x 18 ^^^ rotate64 x 41
  smallSigma0 x := rotate64 x 1 ^^^ rotate64 x 8 ^^^ (x >>> 7)
  smallSigma1 x := rotate64 x 19 ^^^ rotate64 x 61 ^^^ (x >>> 6)
  constants := #[
  0x428a2f98d728ae22, 0x7137449123ef65cd, 0xb5c0fbcfec4d3b2f, 0xe9b5dba58189dbbc,
  0x3956c25bf348b538, 0x59f111f1b605d019, 0x923f82a4af194f9b, 0xab1c5ed5da6d8118,
  0xd807aa98a3030242, 0x12835b0145706fbe, 0x243185be4ee4b28c, 0x550c7dc3d5ffb4e2,
  0x72be5d74f27b896f, 0x80deb1fe3b1696b1, 0x9bdc06a725c71235, 0xc19bf174cf692694,
  0xe49b69c19ef14ad2, 0xefbe4786384f25e3, 0x0fc19dc68b8cd5b5, 0x240ca1cc77ac9c65,
  0x2de92c6f592b0275, 0x4a7484aa6ea6e483, 0x5cb0a9dcbd41fbd4, 0x76f988da831153b5,
  0x983e5152ee66dfab, 0xa831c66d2db43210, 0xb00327c898fb213f, 0xbf597fc7beef0ee4,
  0xc6e00bf33da88fc2, 0xd5a79147930aa725, 0x06ca6351e003826f, 0x142929670a0e6e70,
  0x27b70a8546d22ffc, 0x2e1b21385c26c926, 0x4d2c6dfc5ac42aed, 0x53380d139d95b3df,
  0x650a73548baf63de, 0x766a0abb3c77b2a8, 0x81c2c92e47edaee6, 0x92722c851482353b,
  0xa2bfe8a14cf10364, 0xa81a664bbc423001, 0xc24b8b70d0f89791, 0xc76c51a30654be30,
  0xd192e819d6ef5218, 0xd69906245565a910, 0xf40e35855771202a, 0x106aa07032bbd1b8,
  0x19a4c116b8d2d0c8, 0x1e376c085141ab53, 0x2748774cdf8eeb99, 0x34b0bcb5e19b48a8,
  0x391c0cb3c5c95a63, 0x4ed8aa4ae3418acb, 0x5b9cca4f7763e373, 0x682e6ff3d6b2b8a3,
  0x748f82ee5defb2fc, 0x78a5636f43172f60, 0x84c87814a1f0ab72, 0x8cc702081a6439ec,
  0x90befffa23631e28, 0xa4506cebde82bde9, 0xbef9a3f7b2c67915, 0xc67178f2e372532b,
  0xca273eceea26619c, 0xd186b8c721c0c207, 0xeada7dd6cde0eb1e, 0xf57d4f7fee6ed178,
  0x06f067aa72176fba, 0x0a637dc5a2c898a6, 0x113f9804bef90dae, 0x1b710b35131c471b,
  0x28db77f523047d84, 0x32caab7b40c72493, 0x3c9ebe0a15c9bebc, 0x431d67c49c100d4c,
  0x4cc5d4becb3e42b6, 0x597f299cfc657e2a, 0x5fcb6fab3ad6faec, 0x6c44198c4a475817]

/-- SHA-256, 32 octets. -/
def sha256 (message : Bytes) : Bytes :=
  narrow.digest ⟨
    0x6a09e667, 0xbb67ae85, 0x3c6ef372, 0xa54ff53a,
    0x510e527f, 0x9b05688c, 0x1f83d9ab, 0x5be0cd19⟩ 32 message

/-- SHA-512, 64 octets. -/
def sha512 (message : Bytes) : Bytes :=
  wide.digest ⟨
    0x6a09e667f3bcc908, 0xbb67ae8584caa73b, 0x3c6ef372fe94f82b, 0xa54ff53a5f1d36f1,
    0x510e527fade682d1, 0x9b05688c2b3e6c1f, 0x1f83d9abfb41bd6b, 0x5be0cd19137e2179⟩ 64 message

/-- SHA-384, 48 octets. -/
def sha384 (message : Bytes) : Bytes :=
  wide.digest ⟨
    0xcbbb9d5dc1059ed8, 0x629a292a367cd507, 0x9159015a3070dd17, 0x152fecd8f70e5939,
    0x67332667ffc00b31, 0x8eb44a8768581511, 0xdb0c2e0d64f98fa7, 0x47b5481dbefa4fa4⟩ 48 message

/-- HMAC with SHA-256, for keys of at most one block. -/
def hmac256 (key message : Bytes) : Bytes :=
  let block := key ++ List.replicate (64 - key.length) 0
  sha256 (block.map (· ^^^ 0x5c) ++ sha256 (block.map (· ^^^ 0x36) ++ message))

end LedgerClient.Crypto
