import Mathlib
import SubmarineSwap.Bytes

namespace SubmarineSwap.Bytes

theorem ofNatLE_succ (k n : Nat) :
    ofNatLE (k + 1) n = (n % 256).toUInt8 :: ofNatLE k (n / 256) := by
  simp only [ofNatLE, List.range_succ_eq_map, List.map_cons, List.map_map, Nat.pow_eq, pow_zero,
    Nat.div_one, List.cons.injEq, true_and]
  apply List.map_congr_left
  intro i _
  simp [Function.comp, pow_succ', Nat.div_div_eq_div_mul]

theorem toNatLE_cons (b : UInt8) (bs : Bytes) : toNatLE (b :: bs) = b.toNat + 256 * toNatLE bs := rfl

theorem toNatLE_ofNatLE (k n : Nat) : toNatLE (ofNatLE k n) = n % 256 ^ k := by
  induction k generalizing n with
  | zero => simp [ofNatLE, toNatLE, Nat.mod_one]
  | succ k ih =>
    rw [ofNatLE_succ, toNatLE_cons, ih, pow_succ', Nat.mod_mul]
    simp [Nat.toUInt8]

theorem toNatBE_reverse (bs : Bytes) : toNatBE bs.reverse = toNatLE bs := by
  simp only [toNatBE, toNatLE, List.foldl_reverse]
  congr 1
  funext b acc
  omega

theorem toNatBE_ofNatBE (k n : Nat) : toNatBE (ofNatBE k n) = n % 256 ^ k := by
  rw [ofNatBE, toNatBE_reverse, toNatLE_ofNatLE]

theorem toUInt8_eq_zero_iff {m : Nat} (lt : m < 256) : m.toUInt8 = 0 ↔ m = 0 := by
  constructor
  · intro zero
    have := congrArg UInt8.toNat zero
    simpa [Nat.toUInt8, Nat.mod_eq_of_lt lt] using this
  · rintro rfl
    rfl

theorem trim_ofNatLE (k n : Nat) (below : n < 256 ^ k) :
    ((ofNatLE k n).reverse.dropWhile (· == 0)).reverse = (Nat.digits 256 n).map Nat.toUInt8 := by
  induction k generalizing n with
  | zero =>
    have zero : n = 0 := by simpa using below
    simp [zero, ofNatLE]
  | succ k ih =>
    have high : n / 256 < 256 ^ k := by
      rw [pow_succ] at below
      omega
    have trimmed : (ofNatLE k (n / 256)).reverse.dropWhile (· == 0) =
        ((Nat.digits 256 (n / 256)).map Nat.toUInt8).reverse := by
      rw [← ih _ high, List.reverse_reverse]
    rw [ofNatLE_succ, List.reverse_cons, List.dropWhile_append, trimmed]
    -- the low byte is trimmed away too exactly when it is the only one left and is zero
    by_cases small : n / 256 = 0
    · have low : n < 256 := by omega
      by_cases zero : n = 0
      · simp [zero]
      · have digit : UInt8.ofNat n ≠ 0 := fun isZero => zero ((toUInt8_eq_zero_iff low).mp isZero)
        simp [small, Nat.digits_of_lt 256 n zero low, Nat.mod_eq_of_lt low, digit]
    · have digits : Nat.digits 256 (n / 256) ≠ [] := Nat.digits_ne_nil_iff_ne_zero.mpr small
      rw [Nat.digits_def' (by decide) (show 0 < n by omega)]
      simp [digits]

theorem getLastD_digits_lt (n : Nat) : (Nat.digits 256 n).getLastD 0 < 256 := by
  rw [List.getLastD_eq_getLast?]
  cases last : (Nat.digits 256 n).getLast? with
  | none => decide
  | some d => exact Nat.digits_lt_base (by decide) (List.mem_of_getLast? last)

theorem getLastD_map_toUInt8 (ds : List Nat) :
    (ds.map Nat.toUInt8).getLastD 0 = (ds.getLastD 0).toUInt8 := by
  rw [List.getLastD_eq_getLast?, List.getLastD_eq_getLast?, List.getLast?_map]
  cases ds.getLast? <;> rfl

theorem toNatLE_append (bs bs' : Bytes) :
    toNatLE (bs ++ bs') = toNatLE bs + 256 ^ bs.length * toNatLE bs' := by
  induction bs with
  | nil => simp [toNatLE]
  | cons b bs ih =>
    simp only [List.cons_append, toNatLE_cons, ih, List.length_cons, pow_succ']
    ring

theorem toNatLE_map_toUInt8 {ds : List Nat} (digits : ∀ d ∈ ds, d < 256) :
    toNatLE (ds.map Nat.toUInt8) = Nat.ofDigits 256 ds := by
  induction ds with
  | nil => rfl
  | cons d ds ih =>
    have small : d < 256 := digits d (by simp)
    rw [List.map_cons, toNatLE_cons, ih fun e member => digits e (by simp [member]),
      Nat.ofDigits_cons]
    simp [Nat.toUInt8, Nat.mod_eq_of_lt small]

theorem toNatLE_digits (n : Nat) : toNatLE ((Nat.digits 256 n).map Nat.toUInt8) = n := by
  rw [toNatLE_map_toUInt8 fun d member => Nat.digits_lt_base (by decide) member,
    Nat.ofDigits_digits]

theorem last_digit_le (n : Nat) :
    256 ^ ((Nat.digits 256 n).length - 1) * (Nat.digits 256 n).getLastD 0 ≤ n := by
  by_cases zero : n = 0
  · simp [zero]
  · have nonempty : Nat.digits 256 n ≠ [] := Nat.digits_ne_nil_iff_ne_zero.mpr zero
    have split := List.dropLast_append_getLast nonempty
    have value : n = Nat.ofDigits 256 ((Nat.digits 256 n).dropLast ++
        [(Nat.digits 256 n).getLast nonempty]) := by
      rw [split, Nat.ofDigits_digits]
    rw [List.getLastD_eq_getLast?, List.getLast?_eq_some_getLast nonempty, Option.getD_some]
    conv_rhs => rw [value]
    rw [Nat.ofDigits_append, Nat.ofDigits_singleton, List.length_dropLast]
    exact Nat.le_add_left _ _

theorem hexValue?_hexDigit : ∀ d : Fin 16, hexValue? (hexDigit d) = some d.val := by
  decide

theorem hexDigit_utf8Size : ∀ d : Fin 16, (hexDigit d).utf8Size = 1 := by
  decide

theorem ofHex?_toHex (bs : Bytes) : ofHex? (toHex bs) = some bs := by
  rw [ofHex?, toHex, String.toList_ofList]
  induction bs with
  | nil => rfl
  | cons b bs ih =>
    have bound := UInt8.toNat_lt b
    have high := hexValue?_hexDigit ⟨b.toNat / 16, by omega⟩
    have low := hexValue?_hexDigit ⟨b.toNat % 16, by omega⟩
    have byte : (b.toNat / 16 * 16 + b.toNat % 16).toUInt8 = b := by
      rw [Nat.div_add_mod']
      exact UInt8.ofNat_toNat
    simp only [List.flatMap_cons, List.cons_append, List.nil_append, ofHexChars?] at ih ⊢
    simp only [high, low, ih, byte, Option.bind_eq_bind, Option.bind_some, Option.pure_def]

theorem toHex_utf8ByteSize (bs : Bytes) : (toHex bs).utf8ByteSize = 2 * bs.length := by
  rw [toHex, String.utf8ByteSize_ofList]
  induction bs with
  | nil => rfl
  | cons b bs ih =>
    have bound := UInt8.toNat_lt b
    have high := hexDigit_utf8Size ⟨b.toNat / 16, by omega⟩
    have low := hexDigit_utf8Size ⟨b.toNat % 16, by omega⟩
    simp only [List.flatMap_cons, List.cons_append, List.nil_append, String.utf8Len_cons,
      List.length_cons] at ih ⊢
    dsimp only at high low
    omega

end SubmarineSwap.Bytes
