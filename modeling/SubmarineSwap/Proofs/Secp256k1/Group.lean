import Mathlib
import SubmarineSwap.Proofs.Secp256k1.Points

namespace SubmarineSwap.Secp256k1

open scoped WeierstrassCurve.Jacobian
open WeierstrassCurve.Jacobian.Point (toAffine toAffine_add toAffine_smul toAffine_of_Z_eq_zero
  toAffine_of_Z_ne_zero)

/-- The curve `y² = x³ + 7` over the field of `fieldPrime` elements. -/
def curve : WeierstrassCurve.Jacobian (ZMod fieldPrime) := ⟨0, 0, 0, 0, 7⟩

@[simp] theorem curve_a₁ : curve.a₁ = 0 := rfl
@[simp] theorem curve_a₂ : curve.a₂ = 0 := rfl
@[simp] theorem curve_a₃ : curve.a₃ = 0 := rfl
@[simp] theorem curve_a₄ : curve.a₄ = 0 := rfl
@[simp] theorem curve_a₆ : curve.a₆ = 7 := rfl

theorem curve_Δ_ne_zero : curve.Δ ≠ 0 := by
  have value : curve.Δ = -((21168 : Nat) : ZMod fieldPrime) := by
    simp only [WeierstrassCurve.Δ, WeierstrassCurve.b₂, WeierstrassCurve.b₄, WeierstrassCurve.b₆,
      WeierstrassCurve.b₈, curve_a₁, curve_a₂, curve_a₃, curve_a₄, curve_a₆]
    push_cast
    ring
  rw [value, neg_ne_zero]
  exact natCast_ne_zero_of_lt (by decide) (by decide)

/-- The reduced coordinates of a point of the group; none for the point at infinity. -/
def Point.ofGroup : curve.toAffine.Point → Option Point
  | 0 => none
  | .some x y _ => some ⟨x.val, y.val⟩

namespace Jacobian

/-- The coordinates of a triple in the field. -/
def coords (p : Jacobian) : Fin 3 → ZMod fieldPrime := ![p.x, p.y, p.z]

/-- The point of the curve's group that a triple stands for; `Z = 0` is the point at infinity. -/
noncomputable def toGroup (p : Jacobian) : curve.toAffine.Point := toAffine curve (coords p)

@[simp] theorem coords_x (p : Jacobian) : coords p 0 = p.x := rfl
@[simp] theorem coords_y (p : Jacobian) : coords p 1 = p.y := rfl
@[simp] theorem coords_z (p : Jacobian) : coords p 2 = p.z := rfl

theorem toGroup_of_z_eq_zero {p : Jacobian} (atInfinity : p.z = 0) : p.toGroup = 0 :=
  toAffine_of_Z_eq_zero (by simp [atInfinity])

theorem coords_z_ne_zero {p : Jacobian} (on : p.OnCurve) (finite : p.z ≠ 0) : coords p 2 ≠ 0 :=
  natCast_ne_zero_of_lt finite on.z_lt

theorem nonsingular_coords {p : Jacobian} (on : p.OnCurve) (finite : p.z ≠ 0) :
    curve.Nonsingular (coords p) := by
  have zNonzero := coords_z_ne_zero on finite
  rw [WeierstrassCurve.Jacobian.nonsingular_of_Z_ne_zero zNonzero,
    ← WeierstrassCurve.Affine.equation_iff_nonsingular_of_Δ_ne_zero curve_Δ_ne_zero,
    ← WeierstrassCurve.Jacobian.equation_of_Z_ne_zero zNonzero,
    WeierstrassCurve.Jacobian.equation_iff]
  simp only [coords_x, coords_y, coords_z, curve_a₁, curve_a₂, curve_a₃, curve_a₄, curve_a₆]
  linear_combination on.equation finite

theorem toGroup_double (p : Jacobian) :
    p.double.toGroup = toAffine curve (curve.dblXYZ (coords p)) := by
  unfold double
  split
  · rename_i degenerate
    -- the doubled triple has `Z = 2YZ`, zero at infinity and at a point of order two
    rw [toGroup_of_z_eq_zero rfl, toAffine_of_Z_eq_zero]
    rw [WeierstrassCurve.Jacobian.dblXYZ_Z, WeierstrassCurve.Jacobian.dblZ,
      WeierstrassCurve.Jacobian.negY]
    rcases degenerate with zero | zero <;> simp [zero]
  · unfold toGroup
    congr 1
    funext i
    fin_cases i <;>
      simp [coords, WeierstrassCurve.Jacobian.dblXYZ, WeierstrassCurve.Jacobian.dblX,
        WeierstrassCurve.Jacobian.dblY, WeierstrassCurve.Jacobian.dblZ,
        WeierstrassCurve.Jacobian.negDblY, WeierstrassCurve.Jacobian.negY,
        WeierstrassCurve.Jacobian.dblU_eq, natCast_sub (mod_fieldPrime_lt _),
        natCast_sub (sub_lt _ _)] <;> ring

theorem toGroup_double_eq {p : Jacobian} (on : p.OnCurve) :
    p.double.toGroup = p.toGroup + p.toGroup := by
  rw [toGroup_double]
  by_cases atInfinity : p.z = 0
  · rw [toGroup_of_z_eq_zero atInfinity, add_zero, toAffine_of_Z_eq_zero]
    rw [WeierstrassCurve.Jacobian.dblXYZ_Z, WeierstrassCurve.Jacobian.dblZ, coords_z, atInfinity,
      Nat.cast_zero, zero_mul]
  · have nonsingular := nonsingular_coords on atInfinity
    rw [← WeierstrassCurve.Jacobian.add_self, toAffine_add nonsingular nonsingular]
    rfl

section Chord

variable {p q : Jacobian} (onP : p.OnCurve) (onQ : q.OnCurve) (finiteP : p.z ≠ 0)
  (finiteQ : q.z ≠ 0)

include onP onQ finiteP finiteQ in
theorem toGroup_add_of_finite :
    (p.add q).toGroup = toAffine curve (curve.add (coords p) (coords q)) := by
  have nonsingularP := nonsingular_coords onP finiteP
  have nonsingularQ := nonsingular_coords onQ finiteQ
  have zNonzeroP := coords_z_ne_zero onP finiteP
  have zNonzeroQ := coords_z_ne_zero onQ finiteQ
  rw [add, if_neg finiteP, if_neg finiteQ]
  dsimp only
  -- the comparisons of the model are those of the field, on reduced numbers
  have sameX : p.x * (q.z * q.z % fieldPrime) % fieldPrime =
      q.x * (p.z * p.z % fieldPrime) % fieldPrime ↔
      coords p 0 * coords q 2 ^ 2 = coords q 0 * coords p 2 ^ 2 := by
    rw [← natCast_eq_natCast_iff_of_lt (mod_fieldPrime_lt _) (mod_fieldPrime_lt _)]
    simp only [natCast_mulMod, coords_x, coords_z, sq]
  have sameY : p.y * (q.z * q.z % fieldPrime * q.z % fieldPrime) % fieldPrime =
      q.y * (p.z * p.z % fieldPrime * p.z % fieldPrime) % fieldPrime ↔
      coords p 1 * coords q 2 ^ 3 = coords q 1 * coords p 2 ^ 3 := by
    rw [← natCast_eq_natCast_iff_of_lt (mod_fieldPrime_lt _) (mod_fieldPrime_lt _)]
    simp only [natCast_mulMod, coords_y, coords_z, pow_succ, pow_zero, one_mul]
  split
  · rename_i equalX
    split
    · rename_i equalY
      rw [WeierstrassCurve.Jacobian.add_of_equiv (WeierstrassCurve.Jacobian.equiv_of_X_eq_of_Y_eq
        zNonzeroP zNonzeroQ (sameX.mp equalX) (sameY.mp equalY))]
      exact toGroup_double p
    · rename_i differentY
      -- opposite points: Mathlib's sum is a multiple of `(1, 1, 0)`, at infinity
      rw [toGroup_of_z_eq_zero rfl, WeierstrassCurve.Jacobian.add_of_Y_ne nonsingularP.1
        nonsingularQ.1 zNonzeroP zNonzeroQ (sameX.mp equalX) (fun e => differentY (sameY.mpr e)),
        toAffine_of_Z_eq_zero]
      simp [WeierstrassCurve.Jacobian.smul_fin3]
  · rename_i differentX
    have unit : IsUnit (-(coords p 2 * coords q 2)) :=
      (neg_ne_zero.mpr (mul_ne_zero zNonzeroP zNonzeroQ)).isUnit
    rw [WeierstrassCurve.Jacobian.add_of_not_equiv
      (fun e => differentX (sameX.mpr (WeierstrassCurve.Jacobian.X_eq_of_equiv e))),
      ← toAffine_smul _ unit]
    have chordX := curve.addX_eq' nonsingularP.1 nonsingularQ.1
    have chordY := curve.negAddY_eq' (coords p) (coords q)
    simp only [curve_a₁, curve_a₂, zero_mul, add_zero, sub_zero, coords_x, coords_y, coords_z,
      WeierstrassCurve.Jacobian.addZ] at chordX chordY
    unfold toGroup
    congr 1
    rw [WeierstrassCurve.Jacobian.smul_fin3, WeierstrassCurve.Jacobian.addXYZ_X,
      WeierstrassCurve.Jacobian.addXYZ_Y, WeierstrassCurve.Jacobian.addXYZ_Z,
      WeierstrassCurve.Jacobian.addY, WeierstrassCurve.Jacobian.negY_eq,
      WeierstrassCurve.Jacobian.addZ]
    funext i
    fin_cases i <;> simp [natCast_sub (mod_fieldPrime_lt _), natCast_sub (sub_lt _ _)]
    · linear_combination -chordX
    · linear_combination -chordY + ((q.y : ZMod fieldPrime) * (p.z : ZMod fieldPrime) ^ 3 -
        (p.y : ZMod fieldPrime) * (q.z : ZMod fieldPrime) ^ 3) * chordX
    · ring

end Chord

theorem toGroup_add {p q : Jacobian} (onP : p.OnCurve) (onQ : q.OnCurve) :
    (p.add q).toGroup = p.toGroup + q.toGroup := by
  by_cases atInfinityP : p.z = 0
  · rw [add, if_pos atInfinityP, toGroup_of_z_eq_zero atInfinityP, zero_add]
  by_cases atInfinityQ : q.z = 0
  · rw [add, if_neg atInfinityP, if_pos atInfinityQ, toGroup_of_z_eq_zero atInfinityQ, add_zero]
  rw [toGroup_add_of_finite onP onQ atInfinityP atInfinityQ,
    toAffine_add (nonsingular_coords onP atInfinityP) (nonsingular_coords onQ atInfinityQ)]
  rfl

theorem toGroup_smul {p : Jacobian} (on : p.OnCurve) (k : Nat) :
    (smul k p).toGroup = k • p.toGroup := by
  induction k using Nat.strong_induction_on with
  | _ k ih =>
    rw [smul]
    split
    · rename_i zero
      rw [toGroup_of_z_eq_zero rfl, zero, zero_nsmul]
    · -- double-and-add on the halved scalar: `k = 2 (k / 2) + k % 2`
      have halved := toGroup_double_eq (smul_onCurve on (k / 2))
      rw [ih (k / 2) (by omega)] at halved
      dsimp only
      split
      · rename_i odd
        rw [toGroup_add (double_onCurve (smul_onCurve on (k / 2))) on, halved, ← add_nsmul,
          ← succ_nsmul]
        congr 1
        omega
      · rename_i even
        rw [halved, ← add_nsmul]
        congr 1
        omega

theorem toPoint_eq_ofGroup {p : Jacobian} (on : p.OnCurve) :
    p.toPoint = Point.ofGroup p.toGroup := by
  unfold toPoint
  split
  · rename_i atInfinity
    rw [toGroup_of_z_eq_zero atInfinity]
    rfl
  · rename_i finite
    have nonzero := coords_z_ne_zero on finite
    have inverse : ((invMod p.z fieldPrime : Nat) : ZMod fieldPrime) = (p.z : ZMod fieldPrime)⁻¹ :=
      natCast_invMod nonzero
    rw [toGroup, toAffine_of_Z_ne_zero (nonsingular_coords on finite) nonzero]
    simp only [Point.ofGroup, Option.some.injEq, Point.mk.injEq]
    -- both coordinates are reduced, so they are the values of their field elements
    constructor
    · rw [← ZMod.val_natCast_of_lt (mod_fieldPrime_lt _), natCast_mulMod, natCast_mulMod,
        inverse]
      congr 1
      simp only [coords_x, coords_z, div_eq_mul_inv]
      ring
    · rw [← ZMod.val_natCast_of_lt (mod_fieldPrime_lt _), natCast_mulMod, natCast_mulMod,
        natCast_mulMod, inverse]
      congr 1
      simp only [coords_y, coords_z, div_eq_mul_inv]
      ring

end Jacobian

theorem Point.ofGroup_neg (P : curve.toAffine.Point) :
    (Point.ofGroup (-P)).map Point.x = (Point.ofGroup P).map Point.x := by
  cases P <;> rfl

theorem Point.ofGroup_eq_none_iff {P : curve.toAffine.Point} :
    Point.ofGroup P = none ↔ P = 0 := by
  cases P
  · exact iff_of_true rfl rfl
  · exact iff_of_false (Option.some_ne_none _) (WeierstrassCurve.Affine.Point.some_ne_zero _)

/-- A point read back from the group lies on the curve and stands for the element it came from. -/
theorem Point.ofGroup_eq_some {P : curve.toAffine.Point} {q : Point}
    (read : Point.ofGroup P = some q) : q.onCurve = true ∧ (Jacobian.ofPoint q).toGroup = P := by
  cases P with
  | zero => cases read
  | some x y nonsingular =>
    cases read
    have equation := (WeierstrassCurve.Affine.equation_iff' _ _).mp nonsingular.1
    simp only [curve_a₁, curve_a₂, curve_a₃, curve_a₄, curve_a₆, zero_mul, add_zero] at equation
    refine ⟨(Point.onCurve_iff _).mpr ⟨ZMod.val_lt x, ZMod.val_lt y, ?_⟩, ?_⟩
    · simp only [ZMod.natCast_val, ZMod.cast_id', id]
      linear_combination equation
    · have read : Jacobian.coords (Jacobian.ofPoint ⟨x.val, y.val⟩) = ![x, y, 1] := by
        simp [Jacobian.coords, Jacobian.ofPoint]
      rw [Jacobian.toGroup, read, WeierstrassCurve.Jacobian.Point.toAffine_some
        ((WeierstrassCurve.Jacobian.nonsingular_some _ _).mpr nonsingular)]

theorem Point.smul_eq_ofGroup {q : Point} (on : q.onCurve = true) (k : Nat) :
    q.smul k = Point.ofGroup (k • (Jacobian.ofPoint q).toGroup) := by
  have onJ := Jacobian.ofPoint_onCurve on
  rw [Point.smul, Jacobian.toPoint_eq_ofGroup (Jacobian.smul_onCurve onJ k),
    Jacobian.toGroup_smul onJ]

theorem linearCombination_eq_ofGroup {q : Point} (on : q.onCurve = true) (a b : Nat) :
    linearCombination a b q = Point.ofGroup (a • (Jacobian.ofPoint generator).toGroup +
      b • (Jacobian.ofPoint q).toGroup) := by
  have onG := Jacobian.ofPoint_onCurve generator_onCurve
  have onQ := Jacobian.ofPoint_onCurve on
  rw [linearCombination, Jacobian.toPoint_eq_ofGroup (Jacobian.add_onCurve
      (Jacobian.smul_onCurve onG a) (Jacobian.smul_onCurve onQ b)),
    Jacobian.toGroup_add (Jacobian.smul_onCurve onG a) (Jacobian.smul_onCurve onQ b),
    Jacobian.toGroup_smul onG, Jacobian.toGroup_smul onQ]

end SubmarineSwap.Secp256k1
