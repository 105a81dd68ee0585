import SubmarineSwap.Hash.Sha256
import SubmarineSwap.Error

namespace SubmarineSwap

def preimageSize : Nat := 32

/-- A SHA-256 payment hash. -/
@[ext] structure PaymentHash where
  bytes : Bytes
  length_eq : bytes.length = preimageSize
  deriving DecidableEq, Repr

structure Preimage where
  bytes : Bytes
  length_eq : bytes.length = preimageSize
  deriving DecidableEq

namespace Preimage

def ofBytes (bs : Bytes) : Except Error Preimage :=
  if h : bs.length = preimageSize then .ok ⟨bs, h⟩
  else .error (.invalidParameters s!"preimage must be {preimageSize} bytes, got {bs.length}")

def zero : Preimage := ⟨List.replicate preimageSize 0, by simp [preimageSize]⟩

def hash (p : Preimage) : Bytes := Hash.sha256 p.bytes

def paymentHash (p : Preimage) : PaymentHash := ⟨p.hash, Hash.sha256_length _⟩

/-- The debugging text shows the hash and hides the secret. -/
def debugText (p : Preimage) : String := "Preimage(hash=" ++ Bytes.toHex p.hash ++ ")"

def hashesTo (p : Preimage) (paymentHash : Bytes) : Bool := p.hash == paymentHash

end Preimage

def parsePaymentHash (bs : Bytes) : Except Error PaymentHash :=
  if h : bs.length = preimageSize then .ok ⟨bs, h⟩
  else .error (.invalidParameters s!"payment hash must be 32 bytes, got {bs.length}")

end SubmarineSwap
