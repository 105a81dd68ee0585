import SubmarineSwap.Bytes

namespace SubmarineSwap.Secp256k1

def fieldPrime : Nat := 0xfffffffffffffffffffffffffffffffffffffffffffffffffffffffefffffc2f

def groupOrder : Nat := 0xfffffffffffffffffffffffffffffffebaaedce6af48a03bbfd25e8cd0364141

def powMod (b e m : Nat) : Nat :=
  if e = 0 then 1 % m
  else
    let r := powMod (b * b % m) (e / 2) m
    if e % 2 = 1 then r * b % m else r
termination_by e
decreasing_by omega

/-- The inverse modulo a prime `m`, by Fermat's little theorem; zero has none and maps to zero. -/
def invMod (a m : Nat) : Nat := powMod a (m - 2) m

/-- A point of the curve other than the point at infinity. -/
structure Point where
  x : Nat
  y : Nat
  deriving DecidableEq, Repr

def generator : Point :=
  ⟨0x79be667ef9dcbbac55a06295ce870b07029bfcdb2dce28d959f2815b16f81798,
    0x483ada7726a3c4655da4fbfc0e1108a8fd17b448a68554199c47d08ffb10d4b8⟩

def curveRhs (x : Nat) : Nat := (x * x % fieldPrime * x + 7) % fieldPrime

def Point.onCurve (p : Point) : Bool :=
  p.x < fieldPrime && p.y < fieldPrime && p.y * p.y % fieldPrime == curveRhs p.x

theorem generator_onCurve : generator.onCurve = true := by decide

def liftX (x : Nat) (odd : Bool) : Option Point :=
  let rhs := curveRhs x
  let y := powMod rhs ((fieldPrime + 1) / 4) fieldPrime
  if y * y % fieldPrime != rhs then none
  else if (y % 2 == 1) == odd then some ⟨x, y⟩
  else some ⟨x, (fieldPrime - y) % fieldPrime⟩

/-- Jacobian coordinates `(X, Y, Z)` of the affine point `(X / Z², Y / Z³)`; `Z = 0` is the point
at infinity. -/
structure Jacobian where
  x : Nat
  y : Nat
  z : Nat

namespace Jacobian

def infinity : Jacobian := ⟨0, 1, 0⟩

def ofPoint (p : Point) : Jacobian := ⟨p.x, p.y, 1⟩

def sub (a b : Nat) : Nat := (a + fieldPrime - b) % fieldPrime

def double (p : Jacobian) : Jacobian :=
  if p.z = 0 ∨ p.y = 0 then infinity
  else
    let yy := p.y * p.y % fieldPrime
    let s := 4 * p.x % fieldPrime * yy % fieldPrime
    let m := 3 * (p.x * p.x % fieldPrime) % fieldPrime
    let x' := sub (m * m % fieldPrime) (2 * s % fieldPrime)
    let y' := sub (m * sub s x' % fieldPrime) (8 * (yy * yy % fieldPrime) % fieldPrime)
    ⟨x', y', 2 * p.y % fieldPrime * p.z % fieldPrime⟩

/-- Addition of two points; equal points are doubled. -/
def add (p q : Jacobian) : Jacobian :=
  if p.z = 0 then q
  else if q.z = 0 then p
  else
    let pz2 := p.z * p.z % fieldPrime
    let qz2 := q.z * q.z % fieldPrime
    let u1 := p.x * qz2 % fieldPrime
    let u2 := q.x * pz2 % fieldPrime
    let s1 := p.y * (qz2 * q.z % fieldPrime) % fieldPrime
    let s2 := q.y * (pz2 * p.z % fieldPrime) % fieldPrime
    if u1 = u2 then (if s1 = s2 then double p else infinity)
    else
      let h := sub u2 u1
      let r := sub s2 s1
      let hh := h * h % fieldPrime
      let hhh := hh * h % fieldPrime
      let v := u1 * hh % fieldPrime
      let x' := sub (sub (r * r % fieldPrime) hhh) (2 * v % fieldPrime)
      let y' := sub (r * sub v x' % fieldPrime) (s1 * hhh % fieldPrime)
      ⟨x', y', h * p.z % fieldPrime * q.z % fieldPrime⟩

def toPoint (p : Jacobian) : Option Point :=
  if p.z = 0 then none
  else
    let zi := invMod p.z fieldPrime
    let zi2 := zi * zi % fieldPrime
    some ⟨p.x * zi2 % fieldPrime, p.y * (zi2 * zi % fieldPrime) % fieldPrime⟩

def smul (k : Nat) (p : Jacobian) : Jacobian :=
  if k = 0 then infinity
  else
    let q := double (smul (k / 2) p)
    if k % 2 = 1 then add q p else q
termination_by k
decreasing_by omega

end Jacobian

def Point.smul (k : Nat) (p : Point) : Option Point :=
  (Jacobian.smul k (Jacobian.ofPoint p)).toPoint

def linearCombination (a b : Nat) (q : Point) : Option Point :=
  (Jacobian.add (Jacobian.smul a (Jacobian.ofPoint generator))
    (Jacobian.smul b (Jacobian.ofPoint q))).toPoint

end SubmarineSwap.Secp256k1
