import Mathlib
import SubmarineSwap.Proofs.Secp256k1.Prime
import SubmarineSwap.Proofs.Secp256k1.Key

namespace SubmarineSwap.Secp256k1

instance fact_fieldPrime_prime : Fact fieldPrime.Prime := ⟨fieldPrime_prime⟩

theorem fieldPrime_pos : 0 < fieldPrime := by decide

@[simp] theorem mod_fieldPrime_lt (a : Nat) : a % fieldPrime < fieldPrime :=
  Nat.mod_lt a fieldPrime_pos

theorem natCast_eq_natCast_iff_of_lt {m a b : Nat} (ha : a < m) (hb : b < m) :
    (a : ZMod m) = b ↔ a = b := by
  rw [ZMod.natCast_eq_natCast_iff', Nat.mod_eq_of_lt ha, Nat.mod_eq_of_lt hb]

theorem natCast_ne_zero_of_lt {m a : Nat} (nonzero : a ≠ 0) (small : a < m) :
    (a : ZMod m) ≠ 0 := by
  rw [← Nat.cast_zero, Ne, natCast_eq_natCast_iff_of_lt small (by omega)]
  exact nonzero

theorem natCast_mulMod (a b m : Nat) : ((a * b % m : Nat) : ZMod m) = (a : ZMod m) * b := by
  rw [ZMod.natCast_mod, Nat.cast_mul]

theorem natCast_powMod (b e m : Nat) : ((powMod b e m : Nat) : ZMod m) = (b : ZMod m) ^ e := by
  rw [powMod_eq, ZMod.natCast_mod, Nat.cast_pow]

/-- Fermat's inverse is the inverse of the field, for every prime modulus. -/
theorem natCast_invMod {m : Nat} [Fact m.Prime] {a : Nat} (nonzero : (a : ZMod m) ≠ 0) :
    ((invMod a m : Nat) : ZMod m) = (a : ZMod m)⁻¹ := by
  have two : 2 ≤ m := (Fact.out : m.Prime).two_le
  rw [invMod, natCast_powMod]
  refine eq_inv_of_mul_eq_one_left ?_
  rw [← pow_succ, show m - 2 + 1 = m - 1 by omega]
  exact ZMod.pow_card_sub_one_eq_one nonzero

theorem curveRhs_lt (x : Nat) : curveRhs x < fieldPrime := mod_fieldPrime_lt _

theorem natCast_curveRhs (x : Nat) :
    ((curveRhs x : Nat) : ZMod fieldPrime) = (x : ZMod fieldPrime) ^ 3 + 7 := by
  simp only [curveRhs, ZMod.natCast_mod, Nat.cast_add, Nat.cast_mul, Nat.cast_ofNat]
  ring

theorem Point.onCurve_iff (q : Point) :
    q.onCurve = true ↔ q.x < fieldPrime ∧ q.y < fieldPrime ∧
      (q.y : ZMod fieldPrime) ^ 2 = (q.x : ZMod fieldPrime) ^ 3 + 7 := by
  simp only [Point.onCurve, Bool.and_eq_true, decide_eq_true_eq, beq_iff_eq, and_assoc]
  refine and_congr_right fun _ => and_congr_right fun _ => ?_
  rw [← natCast_eq_natCast_iff_of_lt (mod_fieldPrime_lt _) (curveRhs_lt _), natCast_curveRhs,
    ZMod.natCast_mod, Nat.cast_mul, sq]

section Identities

variable {K : Type} [CommRing K]

theorem tangent_equation {x y z : K} (on : y ^ 2 = x ^ 3 + 7 * z ^ 6) :
    (3 * x ^ 2 * (4 * x * y ^ 2 - ((3 * x ^ 2) ^ 2 - 2 * (4 * x * y ^ 2))) - 8 * (y ^ 2) ^ 2) ^ 2 =
      ((3 * x ^ 2) ^ 2 - 2 * (4 * x * y ^ 2)) ^ 3 + 7 * (2 * y * z) ^ 6 := by
  linear_combination 64 * y ^ 6 * on

theorem chord_equation {u₁ s₁ s₂ h w : K}
    (on₁ : s₁ ^ 2 = u₁ ^ 3 + 7 * w ^ 6) (on₂ : s₂ ^ 2 = (u₁ + h) ^ 3 + 7 * w ^ 6) :
    ((s₂ - s₁) * (u₁ * h ^ 2 - ((s₂ - s₁) ^ 2 - h ^ 3 - 2 * (u₁ * h ^ 2))) - s₁ * h ^ 3) ^ 2 =
      ((s₂ - s₁) ^ 2 - h ^ 3 - 2 * (u₁ * h ^ 2)) ^ 3 + 7 * (h * w) ^ 6 := by
  linear_combination
    h ^ 3 * (h ^ 3 - 7 * w ^ 6 + 2 * s₁ * s₂ - s₁ ^ 2 - 3 * u₁ ^ 2 * h - u₁ ^ 3) * on₁ +
    h ^ 3 * (s₂ ^ 2 - h ^ 3 + 7 * w ^ 6 - 2 * s₁ * s₂ - 3 * u₁ * h ^ 2 + u₁ ^ 3) * on₂

end Identities

namespace Jacobian

@[simp] theorem sub_lt (a b : Nat) : sub a b < fieldPrime := mod_fieldPrime_lt _

theorem natCast_sub {a b : Nat} (small : b < fieldPrime) :
    ((sub a b : Nat) : ZMod fieldPrime) = a - b := by
  rw [sub, ZMod.natCast_mod, Nat.cast_sub (by omega), Nat.cast_add, ZMod.natCast_self]
  ring

/-- A point of the curve in Jacobian coordinates: a finite point satisfies `Y² = X³ + 7·Z⁶` in the
field, and `Z` is reduced, so it is zero exactly at infinity. -/
structure OnCurve (p : Jacobian) : Prop where
  equation : p.z ≠ 0 →
    (p.y : ZMod fieldPrime) ^ 2 = (p.x : ZMod fieldPrime) ^ 3 + 7 * (p.z : ZMod fieldPrime) ^ 6
  z_lt : p.z < fieldPrime

theorem infinity_onCurve : infinity.OnCurve := ⟨fun finite => absurd rfl finite, by decide⟩

theorem ofPoint_onCurve {q : Point} (on : q.onCurve = true) : (ofPoint q).OnCurve := by
  obtain ⟨-, -, equation⟩ := (Point.onCurve_iff q).mp on
  refine ⟨fun _ => ?_, fieldPrime_prime.one_lt⟩
  simpa [ofPoint] using equation

theorem double_onCurve {p : Jacobian} (on : p.OnCurve) : p.double.OnCurve := by
  unfold double
  split
  · exact infinity_onCurve
  · rename_i finite
    have equation := on.equation (by omega)
    refine ⟨fun _ => ?_, mod_fieldPrime_lt _⟩
    simp only [natCast_sub (mod_fieldPrime_lt _), natCast_sub (sub_lt _ _), ZMod.natCast_mod,
      Nat.cast_mul, Nat.cast_ofNat]
    linear_combination tangent_equation equation

theorem add_onCurve {p q : Jacobian} (onP : p.OnCurve) (onQ : q.OnCurve) : (p.add q).OnCurve := by
  unfold add
  split
  · exact onQ
  split
  · exact onP
  rename_i finiteP finiteQ
  have equationP := onP.equation finiteP
  have equationQ := onQ.equation finiteQ
  dsimp only
  -- equal abscissas: the same point is doubled, opposite points give infinity
  split
  · split
    · exact double_onCurve onP
    · exact infinity_onCurve
  refine ⟨fun _ => ?_, mod_fieldPrime_lt _⟩
  simp only [natCast_sub (mod_fieldPrime_lt _), natCast_sub (sub_lt _ _), ZMod.natCast_mod,
    Nat.cast_mul, Nat.cast_ofNat]
  set x₁ := (p.x : ZMod fieldPrime)
  set y₁ := (p.y : ZMod fieldPrime)
  set z₁ := (p.z : ZMod fieldPrime)
  set x₂ := (q.x : ZMod fieldPrime)
  set y₂ := (q.y : ZMod fieldPrime)
  set z₂ := (q.z : ZMod fieldPrime)
  -- both points scaled to the common denominator `z₁ z₂`
  have scaled₁ : (y₁ * (z₂ * z₂ * z₂)) ^ 2 = (x₁ * (z₂ * z₂)) ^ 3 + 7 * (z₁ * z₂) ^ 6 := by
    linear_combination z₂ ^ 6 * equationP
  have scaled₂ : (y₂ * (z₁ * z₁ * z₁)) ^ 2 =
      (x₁ * (z₂ * z₂) + (x₂ * (z₁ * z₁) - x₁ * (z₂ * z₂))) ^ 3 + 7 * (z₁ * z₂) ^ 6 := by
    linear_combination z₁ ^ 6 * equationQ
  linear_combination chord_equation scaled₁ scaled₂

theorem smul_onCurve {p : Jacobian} (on : p.OnCurve) (k : Nat) : (smul k p).OnCurve := by
  induction k using Nat.strong_induction_on with
  | _ k ih =>
    rw [smul]
    split
    · exact infinity_onCurve
    · have doubled := double_onCurve (ih (k / 2) (by omega))
      dsimp only
      split
      · exact add_onCurve doubled on
      · exact doubled

theorem toPoint_onCurve {p : Jacobian} {q : Point} (on : p.OnCurve) (affine : p.toPoint = some q) :
    q.onCurve = true := by
  unfold toPoint at affine
  split at affine
  · cases affine
  rename_i finite
  cases affine
  have equation := on.equation finite
  set z := (p.z : ZMod fieldPrime)
  have nonzero : z ≠ 0 := natCast_ne_zero_of_lt finite on.z_lt
  have inverse : z * (((invMod p.z fieldPrime : Nat)) : ZMod fieldPrime) = 1 := by
    rw [natCast_invMod nonzero]
    exact mul_inv_cancel₀ nonzero
  set zi := ((invMod p.z fieldPrime : Nat) : ZMod fieldPrime)
  refine (Point.onCurve_iff _).mpr ⟨mod_fieldPrime_lt _, mod_fieldPrime_lt _, ?_⟩
  simp only [ZMod.natCast_mod, Nat.cast_mul]
  -- `Y² zi⁶ = X³ zi⁶ + 7 (Z zi)⁶`, and `Z zi = 1`
  linear_combination zi ^ 6 * equation +
    7 * (1 + z * zi + (z * zi) ^ 2 + (z * zi) ^ 3 + (z * zi) ^ 4 + (z * zi) ^ 5) * inverse

end Jacobian

theorem sq_liftRoot {q : Point} (on : q.onCurve = true) :
    ((powMod (curveRhs q.x) ((fieldPrime + 1) / 4) fieldPrime : Nat) : ZMod fieldPrime) ^ 2 =
      (q.y : ZMod fieldPrime) ^ 2 := by
  obtain ⟨-, small, equation⟩ := (Point.onCurve_iff q).mp on
  have exponent : 2 * ((fieldPrime + 1) / 4 * 2) = (fieldPrime - 1) + 2 := by
    norm_num [fieldPrime]
  rw [natCast_powMod, natCast_curveRhs, ← equation, ← pow_mul, ← pow_mul, exponent, pow_add]
  by_cases zero : (q.y : ZMod fieldPrime) = 0
  · simp [zero]
  · rw [ZMod.pow_card_sub_one_eq_one zero, one_mul]

theorem liftX_of_onCurve {q : Point} (on : q.onCurve = true) :
    liftX q.x (q.y % 2 == 1) = some q := by
  obtain ⟨-, small, equation⟩ := (Point.onCurve_iff q).mp on
  have squares := sq_liftRoot on
  have rootSmall := powMod_lt (curveRhs q.x) ((fieldPrime + 1) / 4) fieldPrime_pos
  generalize lifted : powMod (curveRhs q.x) ((fieldPrime + 1) / 4) fieldPrime = root
    at squares rootSmall
  have checked : root * root % fieldPrime = curveRhs q.x := by
    rw [← natCast_eq_natCast_iff_of_lt (mod_fieldPrime_lt _) (curveRhs_lt _), ZMod.natCast_mod,
      Nat.cast_mul, ← sq, squares, natCast_curveRhs, equation]
  -- the root is the ordinate or its negation; a lift of the right parity gives the point back
  suffices found : ∃ odd, liftX q.x odd = some q from
    let ⟨_, found⟩ := found
    liftX_of_parity found
  rcases sq_eq_sq_iff_eq_or_eq_neg.mp squares with same | negated
  · refine ⟨root % 2 == 1, ?_⟩
    obtain rfl : root = q.y := (natCast_eq_natCast_iff_of_lt rootSmall small).mp same
    simp [liftX, lifted, checked]
  · refine ⟨!(root % 2 == 1), ?_⟩
    have back : (fieldPrime - root) % fieldPrime = q.y := by
      rw [← natCast_eq_natCast_iff_of_lt (mod_fieldPrime_lt _) small, ZMod.natCast_mod,
        Nat.cast_sub rootSmall.le, ZMod.natCast_self, negated, zero_sub, neg_neg]
    simp [liftX, lifted, checked, back]

/-- Every key is read back from its compressed encoding. -/
theorem PublicKey.parse?_serialize (pk : PublicKey) : PublicKey.parse? pk.serialize = some pk :=
  PublicKey.parse?_serialize_of_liftX ((Point.onCurve_iff _).mp pk.onCurve).1
    (liftX_of_onCurve pk.onCurve)

theorem PublicKey.serialize_injective : Function.Injective PublicKey.serialize := fun pk pk' same =>
  Option.some.inj ((PublicKey.parse?_serialize pk).symm.trans
    (same ▸ PublicKey.parse?_serialize pk'))

theorem PublicKey.parsePublicKey_serialize (pk : PublicKey) : parsePublicKey pk.serialize = .ok pk := by
  simp [parsePublicKey, PublicKey.serialize_length, compressedKeySize, PublicKey.parse?_serialize pk]

theorem Point.smul_onCurve {p q : Point} (on : p.onCurve = true) (k : Nat) (affine : p.smul k = some q) :
    q.onCurve = true :=
  Jacobian.toPoint_onCurve (Jacobian.smul_onCurve (Jacobian.ofPoint_onCurve on) k) affine

/-- The key of a scalar is its multiple of the generator, whenever that multiple is a point. -/
theorem SecretKey.publicKey_point {sk : SecretKey} {q : Point}
    (affine : generator.smul sk.scalar = some q) : sk.publicKey.point = q := by
  have on := Point.smul_onCurve generator_onCurve sk.scalar affine
  simp [SecretKey.publicKey, affine, PublicKey.ofPoint?, on]

end SubmarineSwap.Secp256k1
