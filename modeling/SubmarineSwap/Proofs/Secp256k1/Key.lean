import Mathlib
import SubmarineSwap.Swap.Params
import SubmarineSwap.Proofs.Bytes

namespace SubmarineSwap

open Secp256k1

namespace Secp256k1

@[simp] theorem PublicKey.ofPoint?_eq_some_iff {p : Point} {pk : PublicKey} :
    PublicKey.ofPoint? p = some pk ↔ pk.point = p := by
  unfold PublicKey.ofPoint?
  split
  · rename_i on
    constructor
    · rintro ⟨⟩
      rfl
    · rintro rfl
      rfl
  · rename_i off
    simp only [reduceCtorEq, false_iff]
    rintro rfl
    exact off pk.onCurve

theorem PublicKey.ofPoint?_point (pk : PublicKey) : PublicKey.ofPoint? pk.point = some pk :=
  PublicKey.ofPoint?_eq_some_iff.mpr rfl

theorem powMod_lt (b e : Nat) {m : Nat} (pos : 0 < m) : powMod b e m < m := by
  induction e using Nat.strong_induction_on generalizing b with
  | _ e ih =>
    rw [powMod]
    split
    · exact Nat.mod_lt _ pos
    · split
      · exact Nat.mod_lt _ pos
      · exact ih _ (by omega) _

theorem liftX_eq_some {x : Nat} {odd : Bool} {point : Point} (lifted : liftX x odd = some point) :
    point = ⟨x, if (powMod (curveRhs x) ((fieldPrime + 1) / 4) fieldPrime % 2 == 1) == odd then
      powMod (curveRhs x) ((fieldPrime + 1) / 4) fieldPrime
    else (fieldPrime - powMod (curveRhs x) ((fieldPrime + 1) / 4) fieldPrime) % fieldPrime⟩ := by
  simp only [liftX] at lifted
  split at lifted
  · cases lifted
  · split at lifted <;> (cases lifted; simp_all)

theorem fieldPrime_odd : fieldPrime % 2 = 1 := by norm_num [fieldPrime]

theorem eq_neg_of_parity {y : Nat} (lt : y < fieldPrime)
    (parity : y % 2 = (fieldPrime - y) % fieldPrime % 2) : y = (fieldPrime - y) % fieldPrime := by
  by_cases zero : y = 0
  · simp [zero]
  · have odd := fieldPrime_odd
    have lessY : fieldPrime - y < fieldPrime := by omega
    rw [Nat.mod_eq_of_lt lessY] at parity ⊢
    omega

theorem liftX_of_parity {x : Nat} {odd : Bool} {point : Point} (lifted : liftX x odd = some point) :
    liftX x (point.y % 2 == 1) = some point := by
  unfold liftX at lifted ⊢
  set root := powMod (curveRhs x) ((fieldPrime + 1) / 4) fieldPrime
  have rootLt : root < fieldPrime := powMod_lt _ _ (by decide)
  simp only at lifted ⊢
  split at lifted
  · cases lifted
  rename_i checked
  simp only [checked, Bool.false_eq_true, if_false]
  split_ifs at lifted with kept
  · cases lifted
    simp
  · cases lifted
    split_ifs with sameParity
    · have parities : root % 2 = 1 ↔ (fieldPrime - root) % fieldPrime % 2 = 1 := by
        simpa using sameParity
      rw [← eq_neg_of_parity rootLt (by omega)]
    · rfl

theorem PublicKey.parse?_serialize_of_liftX {pk : PublicKey} {x : Nat} {odd : Bool}
    (below : x < fieldPrime) (lifted : liftX x odd = some pk.point) :
    PublicKey.parse? pk.serialize = some pk := by
  have abscissa : pk.point.x = x := by rw [liftX_eq_some lifted]
  have bound : fieldPrime < 256 ^ 32 := by norm_num [fieldPrime]
  have decoded : Bytes.toNatBE (Bytes.ofNatBE 32 pk.point.x) = x := by
    rw [Bytes.toNatBE_ofNatBE, abscissa, Nat.mod_eq_of_lt (by omega)]
  have length :
      ((if pk.point.y % 2 = 0 then (2 : UInt8) else 3) :: Bytes.ofNatBE 32 pk.point.x).length = 33 := by
    simp [Bytes.ofNatBE_length]
  have prefixParity : decide ((if pk.point.y % 2 = 0 then (2 : UInt8) else 3) = 3) =
      (pk.point.y % 2 == 1) := by
    rcases Nat.mod_two_eq_zero_or_one pk.point.y with parity | parity <;> simp [parity]
  simp only [PublicKey.serialize, PublicKey.parse?]
  rw [if_pos ⟨length, by split <;> simp⟩, decoded, if_pos below, prefixParity, liftX_of_parity lifted]
  exact PublicKey.ofPoint?_point pk

end Secp256k1

end SubmarineSwap
