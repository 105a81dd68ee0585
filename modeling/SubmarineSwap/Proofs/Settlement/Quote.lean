import Mathlib
import SubmarineSwap.Proofs.Settlement.Weight

namespace SubmarineSwap

open Secp256k1

section Quote

variable {r : SwapRecord} {destination : Address} {rate : Nat} {utxos : List Utxo}
  {draft : SettlementDraft}

theorem estimateWeight_redeem_congr (p p' : Preimage) {script script' : Bytes}
    (same : script.length = script'.length) (n : Nat) :
    estimateWeight r (.redeem p) script n = estimateWeight r (.redeem p') script' n := by
  rw [estimateWeight_eq_of_lockTime (settlementLockTime_redeem p),
    estimateWeight_eq_of_lockTime (settlementLockTime_redeem p'), settlementBaseSize,
    settlementBaseSize, same, SpendPath.selector_length, SpendPath.selector_length]

theorem draftSettlement_eq_ok_fee {path : SpendPath}
    (made : draftSettlement r path destination rate utxos = .ok draft) :
    ∃ weight, estimateWeight r path destination.scriptPubKey utxos.length = .ok weight ∧
      feeForWeight rate weight = .ok draft.fee := by
  obtain ⟨nonempty, weight, lockTime, weighs, locks⟩ := draftSettlement_eq_ok_weight made
  obtain ⟨-, feeFits, -, rfl⟩ := (draftSettlement_eq_ok nonempty weighs locks).mp made
  exact ⟨weight, weighs, by simp [feeForWeight_eq, feeFits]⟩

theorem redeemFee_of_draftSettlement {p : Preimage} {script : Bytes}
    (same : script.length = destination.scriptPubKey.length)
    (made : draftSettlement r (.redeem p) destination rate utxos = .ok draft) :
    redeemFee r script rate utxos = .ok draft.fee := by
  obtain ⟨weight, weighs, paid⟩ := draftSettlement_eq_ok_fee made
  have notEmpty : utxos.isEmpty = false := by simpa using draftSettlement_ne_nil made
  have quoted : estimateWeight r (.redeem .zero) script utxos.length = .ok weight := by
    rw [estimateWeight_redeem_congr .zero p same, weighs]
  simp [redeemFee, notEmpty, quoted, paid, bind, Except.bind]

theorem redeemFee_of_buildRedeem {σ : Type} {p : Preimage} {signer : SignerIn (StateM σ)}
    {s s' : σ} {st : Settlement} {script : Bytes}
    (same : script.length = destination.scriptPubKey.length)
    (built : runFrom (buildRedeem r p destination rate utxos signer) s = (.ok st, s')) :
    redeemFee r script rate utxos = .ok st.fee := by
  rcases gate : verifyPreimage r p with e | ⟨⟩
  · rw [runFrom_buildRedeem_of_mismatch gate] at built
    cases built
  · rw [runFrom_buildRedeem_of_match gate] at built
    obtain ⟨draft, ws, made, -, rfl⟩ := runFrom_buildSettlement_eq_ok.mp built
    exact redeemFee_of_draftSettlement same made

theorem settlement_of_draft {path : SpendPath}
    (made : draftSettlement r path destination rate utxos = .ok draft) {ws : List (List Bytes)}
    (nws : ws.length = utxos.length) :
    (draft.tx.withWitnesses ws).inputs.map (·.previousOutput) = utxos.map (·.outpoint) ∧
      ((draft.tx.withWitnesses ws).outputs.map (·.value)).sum + draft.fee =
        (utxos.map (·.amount)).sum := by
  obtain ⟨nonempty, weight, lockTime, weighs, locks⟩ := draftSettlement_eq_ok_weight made
  obtain ⟨-, -, enough, rfl⟩ := (draftSettlement_eq_ok nonempty weighs locks).mp made
  constructor
  · rw [Transaction.map_inputs_withWitnesses TxIn.previousOutput (fun _ _ => rfl) _ _
      (by simp [nws])]
    simp
  · simp only [Transaction.withWitnesses_outputs, List.map_cons, List.map_nil, List.sum_cons,
      List.sum_nil]
    omega

end Quote

section Pure

variable {α β : Type}

def runId (x : ExceptT Error Id α) : Except Error α := x.run

theorem runId_bind (x : ExceptT Error Id α) (f : α → ExceptT Error Id β) :
    runId (x >>= f) = match runId x with
      | .ok a => runId (f a)
      | .error e => .error e := by
  simp only [runId, ExceptT.run_bind]
  cases x.run <;> rfl

theorem runId_bind_eq_ok {x : ExceptT Error Id α} {f : α → ExceptT Error Id β} {b : β} :
    runId (x >>= f) = .ok b ↔ ∃ a, runId x = .ok a ∧ runId (f a) = .ok b := by
  rw [runId_bind]
  cases runId x <;> simp

@[simp] theorem runId_liftExcept (x : Except Error α) :
    runId (monadLift x : ExceptT Error Id α) = x := rfl

@[simp] theorem runId_pure (a : α) : runId (pure a : ExceptT Error Id α) = .ok a := rfl

variable {r : SwapRecord} {path : SpendPath} {tx : Transaction} {signer : SignerIn Id}

theorem length_of_runId_signInputs {utxos : List Utxo} {first : Nat} {ws : List (List Bytes)}
    (signed : runId (signInputs r path tx signer utxos first) = .ok ws) :
    ws.length = utxos.length := by
  induction utxos generalizing first ws with
  | nil =>
    rw [signInputs_nil, runId_pure, Except.ok.injEq] at signed
    simp [← signed]
  | cons u us ih =>
    rw [signInputs_cons] at signed
    obtain ⟨w, -, rest⟩ := runId_bind_eq_ok.mp signed
    obtain ⟨ws', restSigned, done⟩ := runId_bind_eq_ok.mp rest
    rw [runId_pure, Except.ok.injEq] at done
    simp [← done, ih restSigned]

variable {destination : Address} {rate : Nat} {utxos : List Utxo} {st : Settlement}

theorem runId_buildSettlement_eq_ok :
    runId (buildSettlement r path destination rate utxos signer) = .ok st ↔
      ∃ draft ws, draftSettlement r path destination rate utxos = .ok draft ∧
        runId (signInputs r path draft.tx signer utxos 0) = .ok ws ∧
        st = ⟨draft.tx.withWitnesses ws, path.kind, draft.fee, utxos⟩ := by
  simp only [buildSettlement, runId_bind_eq_ok, runId_liftExcept, runId_pure, Except.ok.injEq]
  constructor
  · rintro ⟨draft, made, ws, signed, rfl⟩
    exact ⟨draft, ws, made, signed, rfl⟩
  · rintro ⟨draft, ws, made, signed, rfl⟩
    exact ⟨draft, made, ws, signed, rfl⟩

theorem runId_buildRedeem_eq_ok {p : Preimage}
    (built : runId (buildRedeem r p destination rate utxos signer) = .ok st) :
    ∃ draft, draftSettlement r (.redeem p) destination rate utxos = .ok draft ∧ st.fee = draft.fee ∧
      st.tx.inputs.map (·.previousOutput) = utxos.map (·.outpoint) ∧
      (st.tx.outputs.map (·.value)).sum + st.fee = (utxos.map (·.amount)).sum := by
  simp only [buildRedeem, runId_bind_eq_ok, runId_liftExcept] at built
  obtain ⟨⟨⟩, -, settled⟩ := built
  obtain ⟨draft, ws, made, signed, rfl⟩ := runId_buildSettlement_eq_ok.mp settled
  exact ⟨draft, made, rfl, settlement_of_draft made (length_of_runId_signInputs signed)⟩

theorem SettlementBuilder.runId_buildRedeem_eq_ok (chain : SettlementBuilder Id) {p : Preimage}
    (built : runId (chain.buildRedeem r p destination rate signer) = .ok st) :
    ∃ found, runId (chain.scanSwap r) = .ok found ∧
      runId (SubmarineSwap.buildRedeem r p destination rate found signer) = .ok st := by
  simp only [SettlementBuilder.buildRedeem, runId_bind_eq_ok, runId_liftExcept] at built
  obtain ⟨⟨⟩, -, found, scanned, rest⟩ := built
  exact ⟨found, scanned, rest⟩

end Pure

end SubmarineSwap
