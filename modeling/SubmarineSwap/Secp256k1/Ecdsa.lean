import SubmarineSwap.Secp256k1.Key
import SubmarineSwap.Hash.Hmac

namespace SubmarineSwap.Secp256k1

open Bytes Hash

structure Signature where
  r : Nat
  s : Nat
  deriving DecidableEq, Repr

/-- State `(K, V)` of the deterministic nonce generator over HMAC-SHA256. -/
structure NonceGenerator where
  key : Bytes
  value : Bytes

namespace NonceGenerator

def seed (material : Bytes) : NonceGenerator :=
  let k0 := List.replicate 32 (0 : UInt8)
  let v0 := List.replicate 32 (1 : UInt8)
  let k1 := hmacSha256 k0 (v0 ++ 0 :: material)
  let v1 := hmacSha256 k1 v0
  let k2 := hmacSha256 k1 (v1 ++ 1 :: material)
  ⟨k2, hmacSha256 k2 v1⟩

def first (g : NonceGenerator) : Bytes × NonceGenerator :=
  let v := hmacSha256 g.key g.value
  (v, ⟨g.key, v⟩)

def next (g : NonceGenerator) : Bytes × NonceGenerator :=
  let k := hmacSha256 g.key (g.value ++ [0])
  let v := hmacSha256 k g.value
  first ⟨k, v⟩

def outputs (g : NonceGenerator) : Nat → List Bytes
  | 0 => []
  | count + 1 =>
    let (out, g') := g.first
    out :: (outputsAfter g' count)
where
  outputsAfter (g : NonceGenerator) : Nat → List Bytes
    | 0 => []
    | count + 1 =>
      let (out, g') := g.next
      out :: outputsAfter g' count

end NonceGenerator

def messageScalar (msg : Bytes) : Nat := toNatBE msg % groupOrder

/-- The signature for nonce `k`, if neither `r` nor `s` is zero; `s` is the lower of `s` and
`n - s`. -/
def signWithNonce (sk : SecretKey) (m k : Nat) : Option Signature :=
  match generator.smul k with
  | none => none
  | some R =>
    let r := R.x % groupOrder
    let s := invMod k groupOrder * ((m + r * sk.scalar) % groupOrder) % groupOrder
    if r = 0 ∨ s = 0 then none
    else some ⟨r, if s > groupOrder / 2 then groupOrder - s else s⟩

/-- How many nonce candidates are tried; each fails with negligible probability. -/
def nonceAttempts : Nat := 8

/-- Nonces tried after the generated candidates. Both fail only for a scalar that is zero modulo
the group order, so one of them signs for every secret key. -/
def fallbackNonces : List Nat := [1, 2]

/-- Deterministic signature of a 32-byte digest: the first nonce in `1 .. n - 1` that gives a
valid signature, among the generated candidates and then the fallback nonces. -/
def sign (sk : SecretKey) (msg : Bytes) : Option Signature :=
  let m := messageScalar msg
  let gen := NonceGenerator.seed (sk.toBytes ++ ofNatBE 32 m)
  ((gen.outputs nonceAttempts).map toNatBE ++ fallbackNonces).findSome? fun k =>
    if 0 < k ∧ k < groupOrder then signWithNonce sk m k else none

/-- Verification: `r` and `s` in range with `s` in lower form, and the abscissa of
`(m / s) · G + (r / s) · Q` equal to `r` modulo the group order. -/
def verify (pk : PublicKey) (msg : Bytes) (sig : Signature) : Bool :=
  if sig.r = 0 ∨ sig.r ≥ groupOrder ∨ sig.s = 0 ∨ sig.s > groupOrder / 2 then false
  else
    let w := invMod sig.s groupOrder
    let u1 := messageScalar msg * w % groupOrder
    let u2 := sig.r * w % groupOrder
    match linearCombination u1 u2 pk.point with
    | none => false
    | some R => R.x % groupOrder == sig.r

/-- A DER integer body: the minimal big-endian bytes, with a zero byte in front when the top bit
is set. -/
def derInteger (v : Nat) : Bytes :=
  let digits := (ofNatBE 32 v).dropWhile (· == 0)
  let digits := if digits.isEmpty then [0] else digits
  if digits.headD 0 ≥ 0x80 then 0 :: digits else digits

def Signature.der (sig : Signature) : Bytes :=
  let r := derInteger sig.r
  let s := derInteger sig.s
  let body := (2 :: r.length.toUInt8 :: r) ++ (2 :: s.length.toUInt8 :: s)
  0x30 :: body.length.toUInt8 :: body

end SubmarineSwap.Secp256k1
