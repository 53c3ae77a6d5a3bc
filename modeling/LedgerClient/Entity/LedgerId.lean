import LedgerClient.Bytes.Hex
import LedgerClient.Text.Blank
import LedgerClient.Text.Split

/-!
# Ledger identities

A ledger is told from others by a short byte string. Checksums of entity
identifiers are bound to it.
-/

namespace LedgerClient

/-- The identity of a ledger. -/
structure LedgerId where
  bytes : Bytes
  deriving DecidableEq

namespace LedgerId

def mainnet : LedgerId := ⟨[0]⟩
def testnet : LedgerId := ⟨[1]⟩
def previewnet : LedgerId := ⟨[2]⟩
def localNode : LedgerId := ⟨[3]⟩

/-- Reads hexadecimal digits, with blanks around them and `0x` markers in front. -/
def ofHex (text : String) : Except Hex.Fault LedgerId :=
  (Hex.decode (String.ofList (Text.dropHexMarkers (Text.trim text.toList)))).map LedgerId.mk

/-- The bytes in hexadecimal. -/
def text (id : LedgerId) : String := Hex.encode id.bytes

end LedgerId

end LedgerClient
