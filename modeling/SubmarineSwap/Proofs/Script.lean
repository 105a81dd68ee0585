import Mathlib
import SubmarineSwap.Swap.Params
import SubmarineSwap.Proofs.Bytes
import SubmarineSwap.Proofs.Secp256k1.Points

namespace SubmarineSwap

open Secp256k1 Bytes

theorem scriptNumber_eq {n : Nat} (below : n < 2 ^ 64) :
    scriptNumber n = (Nat.digits 256 n).map Nat.toUInt8 ++
      if 0x80 ≤ (Nat.digits 256 n).getLastD 0 then [0] else [] := by
  have trimmed := trim_ofNatLE 8 n (by simpa using below)
  have top := getLastD_digits_lt n
  simp only [scriptNumber, trimmed, getLastD_map_toUInt8, ge_iff_le]
  generalize (Nat.digits 256 n).getLastD 0 = last at top ⊢
  have signBit : 0x80 ≤ last.toUInt8 ↔ 0x80 ≤ last := by
    rw [UInt8.le_iff_toNat_le]
    simp [Nat.toUInt8, Nat.mod_eq_of_lt top]
  by_cases set : 0x80 ≤ last <;> simp [set, signBit]

def scriptNumValue (bs : Bytes) : Int :=
  match bs.getLast? with
  | none => 0
  | some last =>
    let magnitude : Int := toNatLE (bs.dropLast ++ [last % 0x80])
    if last < 0x80 then magnitude else -magnitude

theorem scriptNumValue_append_zero (bs : Bytes) : scriptNumValue (bs ++ [0]) = toNatLE bs := by
  simp [scriptNumValue, toNatLE]

theorem scriptNumValue_of_lt {bs : Bytes} (positive : ∀ last ∈ bs.getLast?, last < 0x80) :
    scriptNumValue bs = toNatLE bs := by
  unfold scriptNumValue
  cases found : bs.getLast? with
  | none => simp [List.getLast?_eq_none_iff.mp found, toNatLE]
  | some last =>
    have small := positive last found
    have keep : last % 0x80 = last := by
      apply UInt8.toNat_inj.mp
      rw [UInt8.toNat_mod]
      exact Nat.mod_eq_of_lt (UInt8.lt_iff_toNat_lt.mp small)
    simp only [small, ↓reduceIte, keep, List.dropLast_append_getLast? last found]

theorem scriptNumValue_scriptNumber {n : Nat} (below : n < 2 ^ 64) :
    scriptNumValue (scriptNumber n) = n := by
  rw [scriptNumber_eq below]
  by_cases set : 0x80 ≤ (Nat.digits 256 n).getLastD 0
  · rw [if_pos set, scriptNumValue_append_zero, toNatLE_digits]
  · rw [if_neg set, List.append_nil, scriptNumValue_of_lt, toNatLE_digits]
    intro last found
    rw [List.getLast?_map, Option.mem_def, Option.map_eq_some_iff] at found
    obtain ⟨digit, isLast, rfl⟩ := found
    rw [List.getLastD_eq_getLast?, isLast, Option.getD_some] at set
    rw [UInt8.lt_iff_toNat_lt]
    simp [Nat.toUInt8]
    omega

theorem scriptNumber_length_le {n : Nat} (below : n < 2 ^ 31) : (scriptNumber n).length ≤ 4 := by
  rw [scriptNumber_eq (by omega)]
  have digits : (Nat.digits 256 n).length ≤ 4 :=
    (Nat.digits_length_le_iff (by decide) n).mpr (by omega)
  -- a sign byte is added only after a top digit of at least 0x80, so after at most three digits
  by_cases set : 0x80 ≤ (Nat.digits 256 n).getLastD 0
  · have weighed := last_digit_le n
    have short : (Nat.digits 256 n).length ≤ 3 := by
      by_contra long
      have four : (Nat.digits 256 n).length = 4 := by omega
      rw [four] at weighed
      omega
    rw [if_pos set, List.length_append, List.length_map, List.length_singleton]
    omega
  · rw [if_neg set, List.append_nil, List.length_map]
    exact digits

theorem pushInt_encode_of_le {n : Nat} (pos : 0 < n) (small : n ≤ 16) :
    (pushInt n).encode = [(0x50 + n).toUInt8] := by
  simp [pushInt, ScriptItem.encode, Nat.pos_iff_ne_zero.mp pos, small]

theorem pushInt_encode_of_gt {n : Nat} (large : 16 < n) (below : n < 2 ^ 31) :
    (pushInt n).encode = (scriptNumber n).length.toUInt8 :: scriptNumber n := by
  have short := scriptNumber_length_le below
  have notSmall : ¬ n ≤ 16 := by omega
  simp [pushInt, ScriptItem.encode, notSmall, show n ≠ 0 by omega, show (scriptNumber n).length < 76 by omega]

/-- The number a pushed-number item leaves on the stack, read from its bytes: `OP_0`, one of
`OP_1` to `OP_16`, or a direct push of a script number. -/
def readPushedNumber : Bytes → Option Int
  | [op] => if op = 0 then some 0 else if 0x51 ≤ op ∧ op ≤ 0x60 then some (op.toNat - 0x50 : Nat) else none
  | size :: data =>
    if size.toNat = data.length ∧ data.length < 0x4c then some (scriptNumValue data) else none
  | [] => none

theorem readPushedNumber_pushInt {n : Nat} (below : n < 2 ^ 31) :
    readPushedNumber (pushInt n).encode = some (n : Int) := by
  by_cases zero : n = 0
  · simp [zero, pushInt, ScriptItem.encode, readPushedNumber]
  by_cases small : n ≤ 16
  · rw [pushInt_encode_of_le (by omega) small]
    have opcode : ((0x50 + n).toUInt8).toNat = 0x50 + n := by
      simp [Nat.toUInt8]
      omega
    have nonzero : (0x50 + n).toUInt8 ≠ 0 := fun isZero => by
      have := congrArg UInt8.toNat isZero
      rw [opcode] at this
      simp at this
    simp only [readPushedNumber, nonzero, ↓reduceIte, UInt8.le_iff_toNat_le, opcode]
    simp
    omega
  · rw [pushInt_encode_of_gt (by omega) below]
    have short := scriptNumber_length_le below
    have value := scriptNumValue_scriptNumber (show n < 2 ^ 64 by omega)
    obtain ⟨d, ds, pushed⟩ : ∃ d ds, scriptNumber n = d :: ds := by
      cases sn : scriptNumber n with
      | nil =>
        rw [sn] at value
        simp [scriptNumValue] at value
        omega
      | cons d ds => exact ⟨d, ds, rfl⟩
    rw [pushed] at short value ⊢
    have fits : (d :: ds).length < 0x4c := by omega
    have lengthByte : (d :: ds).length.toUInt8.toNat = (d :: ds).length := by
      simp only [Nat.toUInt8]
      exact Nat.mod_eq_of_lt (by omega)
    simp only [readPushedNumber, value, lengthByte, fits, and_self, ↓reduceIte]

theorem pushInt_encode_injective {n m : Nat} (hn : n < 2 ^ 31) (hm : m < 2 ^ 31)
    (same : (pushInt n).encode = (pushInt m).encode) : n = m := by
  have readBack := readPushedNumber_pushInt hn
  rw [same, readPushedNumber_pushInt hm, Option.some.injEq] at readBack
  exact_mod_cast readBack.symm

theorem ScriptItem.encode_push_of_lt {data : Bytes} (short : data.length < 0x4c) :
    (ScriptItem.push data).encode = data.length.toUInt8 :: data := by
  simp [ScriptItem.encode, short]

namespace SwapParams

theorem witnessScript_eq (p : SwapParams) :
    p.witnessScript = [0xa9, 0x14] ++ Hash.ripemd160 p.hash.bytes ++ [0x87, 0x63, 0x21] ++
      p.serviceKey.serialize ++ [0x67] ++ (pushInt p.lockHeight).encode ++ [0xb1, 0x75, 0x21] ++
      p.clientKey.serialize ++ [0x68, 0xac] := by
  simp only [witnessScript, encodeScript, scriptItems, List.flatMap_cons, List.flatMap_nil,
    ScriptItem.encode_push_of_lt (show (Hash.ripemd160 p.hash.bytes).length < 0x4c by
      simp [Hash.ripemd160_length]),
    ScriptItem.encode_push_of_lt (show p.serviceKey.serialize.length < 0x4c by
      simp [PublicKey.serialize_length]),
    ScriptItem.encode_push_of_lt (show p.clientKey.serialize.length < 0x4c by
      simp [PublicKey.serialize_length]),
    Hash.ripemd160_length, PublicKey.serialize_length]
  simp [ScriptItem.encode]

/-- Terms as the constructors accept them: a lock height of at least 1 that is a block height. -/
structure Valid (p : SwapParams) : Prop where
  lockHeight_pos : 0 < p.lockHeight
  lockHeight_lt : p.lockHeight < lockTimeThreshold

theorem lockTimeThreshold_lt : lockTimeThreshold < 2 ^ 31 := by decide

theorem Valid.lockHeight_small {p : SwapParams} (valid : p.Valid) : p.lockHeight < 2 ^ 31 :=
  valid.lockHeight_lt.trans lockTimeThreshold_lt

theorem Valid.swapKeys {p : SwapParams} (valid : p.Valid) :
    ({ p with serviceKey := p.clientKey, clientKey := p.serviceKey } : SwapParams).Valid :=
  ⟨valid.lockHeight_pos, valid.lockHeight_lt⟩

theorem eq_of_witnessScript_eq {p q : SwapParams} (hp : p.Valid) (hq : q.Valid)
    (same : p.witnessScript = q.witnessScript) :
    Hash.ripemd160 p.hash.bytes = Hash.ripemd160 q.hash.bytes ∧ p.serviceKey = q.serviceKey ∧
      p.lockHeight = q.lockHeight ∧ p.clientKey = q.clientKey := by
  rw [witnessScript_eq, witnessScript_eq] at same
  simp only [List.append_assoc, List.cons_append, List.nil_append, List.cons.injEq, true_and] at same
  -- the hash and the keys are pushed with fixed sizes, so the lock push is what lies between
  obtain ⟨hashes, same⟩ := List.append_inj same (by simp [Hash.ripemd160_length])
  simp only [List.cons.injEq, true_and] at same
  obtain ⟨services, same⟩ := List.append_inj same (by simp [PublicKey.serialize_length])
  simp only [List.cons.injEq, true_and] at same
  obtain ⟨locks, same⟩ := List.append_inj' same (by simp [PublicKey.serialize_length])
  simp only [List.cons.injEq, true_and] at same
  have clients := List.append_cancel_right same
  exact ⟨hashes, PublicKey.serialize_injective services,
    pushInt_encode_injective hp.lockHeight_small hq.lockHeight_small locks,
    PublicKey.serialize_injective clients⟩

theorem sha256_eq_of_address_eq {p q : SwapParams} {network : Network}
    (same : p.address network = q.address network) :
    Hash.sha256 p.witnessScript = Hash.sha256 q.witnessScript := by
  simpa [address, Address.p2wsh] using same

end SwapParams

/-- The swap script's exact layout, and the terms read back from it: different terms give
different scripts. -/
theorem swap_script_encoding_injective :
    (∀ p : SwapParams, p.witnessScript = [0xa9, 0x14] ++ Hash.ripemd160 p.hash.bytes ++
      [0x87, 0x63, 0x21] ++ p.serviceKey.serialize ++ [0x67] ++ (pushInt p.lockHeight).encode ++
      [0xb1, 0x75, 0x21] ++ p.clientKey.serialize ++ [0x68, 0xac]) ∧
    (∀ n, 0 < n → n ≤ 16 → (pushInt n).encode = [(0x50 + n).toUInt8]) ∧
    (∀ n, 16 < n → n < lockTimeThreshold →
      (pushInt n).encode = (scriptNumber n).length.toUInt8 :: scriptNumber n ∧
      scriptNumber n = (Nat.digits 256 n).map Nat.toUInt8 ++
        (if 0x80 ≤ (Nat.digits 256 n).getLastD 0 then [0] else []) ∧
      (scriptNumber n).length ≤ 4 ∧ scriptNumValue (scriptNumber n) = n) ∧
    (∀ n, n < lockTimeThreshold → readPushedNumber (pushInt n).encode = some (n : Int)) ∧
    (∀ p q : SwapParams, p.Valid → q.Valid → p.witnessScript = q.witnessScript →
      Hash.ripemd160 p.hash.bytes = Hash.ripemd160 q.hash.bytes ∧ p.serviceKey = q.serviceKey ∧
        p.lockHeight = q.lockHeight ∧ p.clientKey = q.clientKey) ∧
    (∀ (p q : SwapParams) (network : Network), p.Valid → q.Valid →
      (p.serviceKey ≠ q.serviceKey ∨ p.clientKey ≠ q.clientKey ∨ p.lockHeight ≠ q.lockHeight) →
      p.witnessScript ≠ q.witnessScript ∧
        (p.address network = q.address network →
          Hash.sha256 p.witnessScript = Hash.sha256 q.witnessScript)) ∧
    (∀ p : SwapParams, p.Valid → p.serviceKey ≠ p.clientKey →
      p.witnessScript ≠
        ({ p with serviceKey := p.clientKey, clientKey := p.serviceKey } : SwapParams).witnessScript) := by
  refine ⟨SwapParams.witnessScript_eq, fun n pos small => pushInt_encode_of_le pos small,
    ?long, ?readBack, fun p q hp hq => SwapParams.eq_of_witnessScript_eq hp hq, ?differ, ?swapped⟩
  case long =>
    intro n large below
    have small := below.trans SwapParams.lockTimeThreshold_lt
    exact ⟨pushInt_encode_of_gt large small, scriptNumber_eq (by omega),
      scriptNumber_length_le small, scriptNumValue_scriptNumber (by omega)⟩
  case readBack =>
    intro n below
    exact readPushedNumber_pushInt (below.trans SwapParams.lockTimeThreshold_lt)
  case differ =>
    intro p q network hp hq differs
    have distinct : p.witnessScript ≠ q.witnessScript := by
      intro same
      obtain ⟨-, services, locks, clients⟩ := SwapParams.eq_of_witnessScript_eq hp hq same
      rcases differs with differs | differs | differs <;> contradiction
    exact ⟨distinct, SwapParams.sha256_eq_of_address_eq⟩
  case swapped =>
    intro p hp distinctKeys same
    obtain ⟨-, services, -, -⟩ := SwapParams.eq_of_witnessScript_eq hp hp.swapKeys same
    exact distinctKeys services

end SubmarineSwap
