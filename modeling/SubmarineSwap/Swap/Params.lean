import SubmarineSwap.Swap.Preimage
import SubmarineSwap.Secp256k1.Key
import SubmarineSwap.Script
import SubmarineSwap.Address

namespace SubmarineSwap

open Secp256k1

def compressedKeySize : Nat := 33

/-- Lock heights at or above this bound are times, not block heights. -/
def lockTimeThreshold : Nat := 500000000

def parsePublicKey (bs : Bytes) : Except Error PublicKey :=
  if bs.length ≠ compressedKeySize then
    .error (.invalidParameters s!"public key must be {compressedKeySize} bytes, got {bs.length}")
  else
    match PublicKey.parse? bs with
    | some pk => .ok pk
    | none => .error (.invalidParameters "malformed public key")

structure SwapParams where
  hash : PaymentHash
  clientKey : PublicKey
  serviceKey : PublicKey
  lockHeight : Nat
  deriving DecidableEq, Repr

namespace SwapParams

/-- Terms whose lock lies after the current height and is a block height. -/
def make (hash : PaymentHash) (clientKey serviceKey : PublicKey) (lockHeight currentHeight : Nat) :
    Except Error SwapParams :=
  if lockHeight ≤ currentHeight then
    .error (.invalidParameters s!"lock height {lockHeight} is not after current height {currentHeight}")
  else if lockHeight ≥ lockTimeThreshold then
    .error (.invalidParameters s!"lock height {lockHeight} is not a valid block height")
  else .ok ⟨hash, clientKey, serviceKey, lockHeight⟩

/-- Terms read from raw bytes: the hash, then the client key, then the service key, then the
heights. -/
def ofSlices (hash clientKey serviceKey : Bytes) (lockHeight currentHeight : Nat) :
    Except Error SwapParams := do
  let h ← parsePaymentHash hash
  let c ← (parsePublicKey clientKey).mapError fun e =>
    .invalidParameters ("invalid client public key: " ++ e.message)
  let s ← (parsePublicKey serviceKey).mapError fun e =>
    .invalidParameters ("invalid service public key: " ++ e.message)
  make h c s lockHeight currentHeight

def scriptItems (p : SwapParams) : List ScriptItem :=
  [.op 0xa9, .push (Hash.ripemd160 p.hash.bytes), .op 0x87, .op 0x63, .push p.serviceKey.serialize,
    .op 0x67, pushInt p.lockHeight, .op 0xb1, .op 0x75, .push p.clientKey.serialize, .op 0x68,
    .op 0xac]

def witnessScript (p : SwapParams) : Bytes := encodeScript p.scriptItems

def address (p : SwapParams) (n : Network) : Address := Address.p2wsh n p.witnessScript

end SwapParams

end SubmarineSwap
