import SubmarineSwap.Secp256k1.Curve

namespace SubmarineSwap.Secp256k1

open Bytes

/-- A public key: a point of the curve other than the point at infinity. -/
structure PublicKey where
  point : Point
  onCurve : point.onCurve = true
  deriving DecidableEq, Repr

namespace PublicKey

def ofPoint? (p : Point) : Option PublicKey :=
  if h : p.onCurve = true then some ⟨p, h⟩ else none

/-- Reads a compressed, uncompressed or hybrid key of a point of the curve. -/
def parse? (bs : Bytes) : Option PublicKey :=
  match bs with
  | prefixByte :: rest =>
    if bs.length = 33 ∧ (prefixByte = 2 ∨ prefixByte = 3) then
      let x := toNatBE rest
      if x < fieldPrime then (liftX x (prefixByte = 3)).bind ofPoint? else none
    else if bs.length = 65 ∧ (prefixByte = 4 ∨ prefixByte = 6 ∨ prefixByte = 7) then
      let p : Point := ⟨toNatBE (rest.take 32), toNatBE (rest.drop 32)⟩
      if prefixByte = 6 ∧ p.y % 2 = 1 then none
      else if prefixByte = 7 ∧ p.y % 2 = 0 then none
      else ofPoint? p
    else none
  | [] => none

def serialize (pk : PublicKey) : Bytes :=
  (if pk.point.y % 2 = 0 then 2 else 3) :: ofNatBE 32 pk.point.x

theorem serialize_length (pk : PublicKey) : pk.serialize.length = 33 := by
  simp [serialize, ofNatBE_length]

end PublicKey

/-- A secret key: a scalar in `1 .. groupOrder - 1`. -/
structure SecretKey where
  scalar : Nat
  scalar_pos : 0 < scalar
  scalar_lt : scalar < groupOrder
  deriving DecidableEq

namespace SecretKey

/-- Reads 32 big-endian bytes holding a scalar in `1 .. groupOrder - 1`. -/
def ofBytes? (bs : Bytes) : Option SecretKey :=
  let d := toNatBE bs
  if h : bs.length = 32 ∧ 0 < d ∧ d < groupOrder then some ⟨d, h.2.1, h.2.2⟩ else none

def toBytes (sk : SecretKey) : Bytes := ofNatBE 32 sk.scalar

/-- The public key `d · G`; a valid scalar never gives the point at infinity, which is mapped to
the generator only to keep the function total. -/
def publicKey (sk : SecretKey) : PublicKey :=
  ((generator.smul sk.scalar).bind PublicKey.ofPoint?).getD ⟨generator, generator_onCurve⟩

end SecretKey

end SubmarineSwap.Secp256k1
