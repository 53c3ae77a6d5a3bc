/-!
# Byte strings

Everything that is signed, hashed or carried by a channel is a list of octets.
Lists keep the statements about encodings first-order: an encoding followed by
other bytes is literally an append.
-/

namespace LedgerClient

/-- A string of octets. -/
abbrev Bytes := List UInt8

/-- Big-endian reading of a byte string. -/
def Bytes.toNatBE (bytes : Bytes) : Nat :=
  bytes.foldl (fun value byte => value * 256 + byte.toNat) 0

/-- Little-endian reading of a byte string. -/
def Bytes.toNatLE : Bytes → Nat
  | [] => 0
  | byte :: rest => byte.toNat + 256 * Bytes.toNatLE rest

/-- The low `count` octets of a number, least significant first. -/
def Bytes.ofNatLE : (count : Nat) → Nat → Bytes
  | 0, _ => []
  | count + 1, value => UInt8.ofNat (value % 256) :: Bytes.ofNatLE count (value / 256)

/-- The low `count` octets of a number, most significant first. -/
def Bytes.ofNatBE (count value : Nat) : Bytes :=
  (Bytes.ofNatLE count value).reverse

@[simp] theorem Bytes.length_ofNatLE (count value : Nat) :
    (Bytes.ofNatLE count value).length = count := by
  induction count generalizing value with
  | zero => rfl
  | succ count ih => simp [Bytes.ofNatLE, ih]

/-- Writing a number that fits and reading it back gives the number. -/
theorem Bytes.toNatLE_ofNatLE (count value : Nat) (hfits : value < Nat.pow 256 count) :
    Bytes.toNatLE (Bytes.ofNatLE count value) = value := by
  induction count generalizing value with
  | zero =>
      have hzero : value = 0 := Nat.lt_one_iff.1 hfits
      simp [Bytes.ofNatLE, Bytes.toNatLE, hzero]
  | succ count ih =>
      have hhigh : value / 256 < Nat.pow 256 count := by
        have hstep : Nat.pow 256 (count + 1) = Nat.pow 256 count * 256 := rfl
        omega
      simp only [Bytes.ofNatLE, Bytes.toNatLE, ih _ hhigh, UInt8.toNat_ofNat']
      omega

theorem Bytes.toNatLE_lt (bytes : Bytes) : Bytes.toNatLE bytes < Nat.pow 256 bytes.length := by
  induction bytes with
  | nil => exact Nat.zero_lt_one
  | cons byte rest ih =>
      have hbyte := byte.toNat_lt
      have hstep : Nat.pow 256 (rest.length + 1) = Nat.pow 256 rest.length * 256 := rfl
      simp only [Bytes.toNatLE, List.length_cons]
      omega

/-- Octets are those of the number they are read as. -/
theorem Bytes.ofNatLE_toNatLE (bytes : Bytes) :
    Bytes.ofNatLE bytes.length (Bytes.toNatLE bytes) = bytes := by
  induction bytes with
  | nil => rfl
  | cons byte rest ih =>
      have hbyte := byte.toNat_lt
      have hlow : (byte.toNat + 256 * Bytes.toNatLE rest) % 256 = byte.toNat := by omega
      have hhigh : (byte.toNat + 256 * Bytes.toNatLE rest) / 256 = Bytes.toNatLE rest := by omega
      simp only [Bytes.toNatLE, List.length_cons, Bytes.ofNatLE, hlow, hhigh, ih,
        UInt8.ofNat_toNat]

end LedgerClient
