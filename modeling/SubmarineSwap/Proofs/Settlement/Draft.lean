import Mathlib
import SubmarineSwap.Settlement

namespace SubmarineSwap

open Secp256k1

section Records

theorem SwapParams.make_eq_ok {hash : PaymentHash} {clientKey serviceKey : PublicKey}
    {lockHeight currentHeight : Nat} {params : SwapParams} :
    SwapParams.make hash clientKey serviceKey lockHeight currentHeight = .ok params ↔
      currentHeight < lockHeight ∧ lockHeight < lockTimeThreshold ∧
        params = ⟨hash, clientKey, serviceKey, lockHeight⟩ := by
  unfold SwapParams.make
  by_cases late : lockHeight ≤ currentHeight
  · simp [late]
  · by_cases time : lockHeight ≥ lockTimeThreshold
    · simp [late, time]
    · have valid : currentHeight < lockHeight ∧ lockHeight < lockTimeThreshold := by omega
      simp [late, time, valid, eq_comm]

theorem SwapRecord.make_eq_ok {params : SwapParams} {creationHeight : Nat} {role : SwapRole}
    {network : Network} {r : SwapRecord} :
    SwapRecord.make params creationHeight role network = .ok r ↔
      creationHeight < params.lockHeight ∧ r = ⟨params, creationHeight, role, network⟩ := by
  unfold SwapRecord.make
  by_cases late : params.lockHeight ≤ creationHeight
  · simp [late]
  · simp [late, eq_comm]
    omega

/-- A record as the constructors build it: terms accepted at some current height, and a record
of them accepted at its creation height. -/
def SwapRecord.Made (r : SwapRecord) : Prop :=
  ∃ currentHeight, SwapParams.make r.params.hash r.params.clientKey r.params.serviceKey r.lockHeight
      currentHeight = .ok r.params ∧
    SwapRecord.make r.params r.creationHeight r.role r.network = .ok r

theorem SwapRecord.Made.lockHeight_lt {r : SwapRecord} (made : r.Made) :
    r.lockHeight < lockTimeThreshold := by
  obtain ⟨_, params, -⟩ := made
  exact (SwapParams.make_eq_ok.mp params).2.1

end Records

variable {r : SwapRecord} {path : SpendPath} {destination : Address} {rate : Nat}
  {utxos : List Utxo} {e : Error}

section Gates

theorem verifyPreimage_eq_ok {p : Preimage} : verifyPreimage r p = .ok () ↔ p.hash = r.hash := by
  by_cases matching : p.hash = r.hash <;> simp [verifyPreimage, matching]

theorem verifyPreimage_of_ne {p : Preimage} (mismatch : p.hash ≠ r.hash) :
    ∃ e, verifyPreimage r p = .error e ∧ e.kind = .invalidPreimage := by
  simp [verifyPreimage, mismatch, Error.kind]

theorem verifyLockExpired_eq_ok {height : Nat} :
    verifyLockExpired r height = .ok () ↔ r.lockHeight ≤ height := by
  by_cases early : height < r.lockHeight
  · simp [verifyLockExpired, early]
  · simp [verifyLockExpired, early, Nat.not_lt.mp early]

theorem verifyLockExpired_of_lt {height : Nat} (early : height < r.lockHeight) :
    ∃ e, verifyLockExpired r height = .error e ∧ e.kind = .lockNotExpired := by
  simp [verifyLockExpired, early, Error.kind]

end Gates

section LockTime

@[simp] theorem settlementLockTime_redeem (p : Preimage) : settlementLockTime r (.redeem p) = .ok 0 :=
  rfl

theorem settlementLockTime_refund_of_lt (below : r.lockHeight < lockTimeThreshold) :
    settlementLockTime r .refund = .ok r.lockHeight := by
  simp [settlementLockTime, below]

theorem settlementLockTime_error_kind (fails : settlementLockTime r path = .error e) :
    e.kind = .transaction := by
  cases path with
  | redeem p => simp at fails
  | refund =>
    by_cases below : r.lockHeight < lockTimeThreshold
    · simp [settlementLockTime_refund_of_lt below] at fails
    · simp only [settlementLockTime, below, ↓reduceIte, Except.error.injEq] at fails
      simp [← fails, Error.kind]

theorem SwapRecord.Made.settlementLockTime_ok (made : r.Made) (path : SpendPath) :
    ∃ lockTime, settlementLockTime r path = .ok lockTime := by
  cases path with
  | redeem p => exact ⟨0, rfl⟩
  | refund => exact ⟨r.lockHeight, settlementLockTime_refund_of_lt made.lockHeight_lt⟩

variable {lockTime : Nat}

theorem unsignedSettlement_of_lockTime (locks : settlementLockTime r path = .ok lockTime)
    (script : Bytes) (outpoints : List OutPoint) (value : Nat) :
    unsignedSettlement r path script outpoints value =
      .ok ⟨2, outpoints.map fun o => { previousOutput := o, sequence := settlementSequence },
        [⟨value, script⟩], lockTime⟩ := by
  simp [unsignedSettlement, locks, bind, Except.bind, pure, Except.pure]

theorem unsignedSettlement_error_kind {script : Bytes} {outpoints : List OutPoint} {value : Nat}
    (fails : unsignedSettlement r path script outpoints value = .error e) :
    e.kind = .transaction := by
  cases locks : settlementLockTime r path with
  | error e' =>
    simp only [unsignedSettlement, locks, bind, Except.bind, Except.error.injEq] at fails
    exact fails ▸ settlementLockTime_error_kind locks
  | ok lockTime => simp [unsignedSettlement_of_lockTime locks] at fails

theorem unsignedSettlement_eq_ok {script : Bytes} {outpoints : List OutPoint} {value : Nat}
    {tx : Transaction} (made : unsignedSettlement r path script outpoints value = .ok tx) :
    settlementLockTime r path = .ok tx.lockTime ∧
      tx = ⟨2, outpoints.map fun o => { previousOutput := o, sequence := settlementSequence },
        [⟨value, script⟩], tx.lockTime⟩ := by
  cases locks : settlementLockTime r path with
  | error e' => simp [unsignedSettlement, locks, bind, Except.bind] at made
  | ok lockTime =>
    rw [unsignedSettlement_of_lockTime locks, Except.ok.injEq] at made
    subst made
    exact ⟨rfl, rfl⟩

theorem estimateWeight_of_lockTime (locks : settlementLockTime r path = .ok lockTime)
    (script : Bytes) (n : Nat) : ∃ weight, estimateWeight r path script n = .ok weight := by
  simp [estimateWeight, unsignedSettlement_of_lockTime locks, bind, Except.bind, pure, Except.pure]

theorem estimateWeight_error_kind {script : Bytes} {n : Nat}
    (fails : estimateWeight r path script n = .error e) : e.kind = .transaction := by
  simp only [estimateWeight, bind, Except.bind] at fails
  split at fails
  · rename_i err unsigned
    simp only [Except.error.injEq] at fails
    exact fails ▸ unsignedSettlement_error_kind unsigned
  · simp [pure, Except.pure] at fails

end LockTime

section Funds

theorem foldlM_checkedAdd (acc : Nat) (fits : acc ≤ maxU64) (amounts : List Nat) :
    amounts.foldlM (fun acc a => if acc + a ≤ maxU64 then some (acc + a) else none) acc =
      if acc + amounts.sum ≤ maxU64 then some (acc + amounts.sum) else none := by
  induction amounts generalizing acc with
  | nil => simp [fits]
  | cons a rest ih =>
    by_cases step : acc + a ≤ maxU64
    · simp only [List.foldlM_cons, step, ↓reduceIte, Option.bind_eq_bind, Option.bind_some,
        List.sum_cons]
      rw [ih (acc + a) step]
      by_cases fitsAll : acc + (a + rest.sum) ≤ maxU64 <;> simp [fitsAll, Nat.add_assoc]
    · have overflow : ¬ acc + (a + rest.sum) ≤ maxU64 := by omega
      simp [List.foldlM_cons, step, overflow]

theorem checkedSum_eq (amounts : List Nat) :
    checkedSum amounts = if amounts.sum ≤ maxU64 then some amounts.sum else none := by
  simpa [checkedSum] using foldlM_checkedAdd 0 (Nat.zero_le _) amounts

theorem totalAmount_eq (utxos : List Utxo) :
    totalAmount utxos = if (utxos.map (·.amount)).sum ≤ maxU64 then .ok (utxos.map (·.amount)).sum
      else .error (.raise .transaction "total UTXO amount overflows") := by
  by_cases fits : (utxos.map (·.amount)).sum ≤ maxU64 <;> simp [totalAmount, checkedSum_eq, fits]

theorem feeForWeight_eq (rate weight : Nat) :
    feeForWeight rate weight = if rate * weight + 999 ≤ maxU64 then .ok (rate * weight ⌈/⌉ 1000)
      else .error (.invalidParameters "fee computation overflows") := by
  by_cases fits : rate * weight + 999 ≤ maxU64 <;>
    simp [feeForWeight, fits, Nat.ceilDiv_eq_add_pred_div]

end Funds

section Draft

theorem draftSettlement_of_weight (nonempty : utxos ≠ []) {weight : Nat}
    (weighs : estimateWeight r path destination.scriptPubKey utxos.length = .ok weight) :
    draftSettlement r path destination rate utxos =
      if maxU64 < (utxos.map (·.amount)).sum then
        .error (.raise .transaction "total UTXO amount overflows")
      else if maxU64 < rate * weight + 999 then .error (.invalidParameters "fee computation overflows")
      else if (utxos.map (·.amount)).sum <
          rate * weight ⌈/⌉ 1000 + OutputScript.minimalNonDust destination.scriptPubKey then
        .error (insufficientDeposit (utxos.map (·.amount)).sum (rate * weight ⌈/⌉ 1000)
          (OutputScript.minimalNonDust destination.scriptPubKey))
      else (unsignedSettlement r path destination.scriptPubKey (utxos.map (·.outpoint))
          ((utxos.map (·.amount)).sum - rate * weight ⌈/⌉ 1000)).map (⟨·, rate * weight ⌈/⌉ 1000⟩) := by
  have notEmpty : utxos.isEmpty = false := by simpa using nonempty
  simp only [draftSettlement, notEmpty, totalAmount_eq, feeForWeight_eq, Bool.false_eq_true,
    ↓reduceIte]
  by_cases totalFits : (utxos.map (·.amount)).sum ≤ maxU64
  · have totalFits' := Nat.not_lt.mpr totalFits
    by_cases feeFits : rate * weight + 999 ≤ maxU64
    · have feeFits' := Nat.not_lt.mpr feeFits
      by_cases short : (utxos.map (·.amount)).sum <
          rate * weight ⌈/⌉ 1000 + OutputScript.minimalNonDust destination.scriptPubKey
      · simp [totalFits, totalFits', feeFits, feeFits', short, weighs, bind, Except.bind, throw,
          throwThe, MonadExceptOf.throw]
      · cases unsigned : unsignedSettlement r path destination.scriptPubKey (utxos.map (·.outpoint))
            ((utxos.map (·.amount)).sum - rate * weight ⌈/⌉ 1000) <;>
          simp [totalFits, totalFits', feeFits, feeFits', short, weighs, unsigned, bind, Except.bind,
            Except.map, pure, Except.pure]
    · simp [totalFits, totalFits', feeFits, weighs, bind, Except.bind]
  · simp [totalFits, bind, Except.bind]

theorem draftSettlement_eq_ok_unsigned {draft : SettlementDraft}
    (made : draftSettlement r path destination rate utxos = .ok draft) :
    ∃ value, unsignedSettlement r path destination.scriptPubKey (utxos.map (·.outpoint)) value =
      .ok draft.tx := by
  simp only [draftSettlement, bind, Except.bind, throw, throwThe, MonadExceptOf.throw, pure,
    Except.pure] at made
  repeat' split at made
  all_goals try cases made
  rename_i unsigned
  exact ⟨_, unsigned⟩

theorem draftSettlement_eq_ok (nonempty : utxos ≠ []) {weight lockTime : Nat}
    (weighs : estimateWeight r path destination.scriptPubKey utxos.length = .ok weight)
    (locks : settlementLockTime r path = .ok lockTime) {draft : SettlementDraft} :
    draftSettlement r path destination rate utxos = .ok draft ↔
      (utxos.map (·.amount)).sum ≤ maxU64 ∧ rate * weight + 999 ≤ maxU64 ∧
      rate * weight ⌈/⌉ 1000 + OutputScript.minimalNonDust destination.scriptPubKey ≤
        (utxos.map (·.amount)).sum ∧
      draft = ⟨⟨2, (utxos.map (·.outpoint)).map fun o =>
          { previousOutput := o, sequence := settlementSequence },
        [⟨(utxos.map (·.amount)).sum - rate * weight ⌈/⌉ 1000, destination.scriptPubKey⟩], lockTime⟩,
        rate * weight ⌈/⌉ 1000⟩ := by
  rw [draftSettlement_of_weight nonempty weighs, unsignedSettlement_of_lockTime locks]
  by_cases totalFits : (utxos.map (·.amount)).sum ≤ maxU64
  · have totalFits' := Nat.not_lt.mpr totalFits
    by_cases feeFits : rate * weight + 999 ≤ maxU64
    · have feeFits' := Nat.not_lt.mpr feeFits
      by_cases short : (utxos.map (·.amount)).sum <
          rate * weight ⌈/⌉ 1000 + OutputScript.minimalNonDust destination.scriptPubKey
      · simp [totalFits', feeFits', short, Nat.not_le.mpr short]
      · simp only [totalFits', feeFits', short, ↓reduceIte, Except.map, Except.ok.injEq]
        simp [totalFits, feeFits, Nat.not_lt.mp short, eq_comm]
    · simp [totalFits', feeFits, Nat.not_le.mp feeFits]
  · simp [totalFits, Nat.not_le.mp totalFits]

end Draft

end SubmarineSwap
