import Mathlib
import SubmarineSwap.Proofs.Settlement.Draft
import SubmarineSwap.Proofs.Settlement.Signing

namespace SubmarineSwap

open Secp256k1

section Draft

variable {r : SwapRecord} {path : SpendPath} {destination : Address} {rate : Nat}
  {utxos : List Utxo} {draft : SettlementDraft}

theorem draftSettlement_ne_nil (made : draftSettlement r path destination rate utxos = .ok draft) :
    utxos ≠ [] := by
  rintro rfl
  simp [draftSettlement, throw, throwThe, MonadExceptOf.throw, bind, Except.bind] at made

theorem settlementLockTime_of_estimateWeight {script : Bytes} {n weight : Nat}
    (weighs : estimateWeight r path script n = .ok weight) :
    ∃ lockTime, settlementLockTime r path = .ok lockTime := by
  cases locks : settlementLockTime r path with
  | ok lockTime => exact ⟨lockTime, rfl⟩
  | error e => simp [estimateWeight, unsignedSettlement, locks, bind, Except.bind] at weighs

theorem estimateWeight_of_draftSettlement
    (made : draftSettlement r path destination rate utxos = .ok draft) :
    ∃ weight, estimateWeight r path destination.scriptPubKey utxos.length = .ok weight := by
  cases weighs : estimateWeight r path destination.scriptPubKey utxos.length with
  | ok weight => exact ⟨weight, rfl⟩
  | error e =>
    have notEmpty : utxos.isEmpty = false := by simpa using draftSettlement_ne_nil made
    simp only [draftSettlement, notEmpty, weighs, bind, Except.bind, Bool.false_eq_true,
      ↓reduceIte] at made
    split at made <;> cases made

theorem draftSettlement_eq_ok_weight (made : draftSettlement r path destination rate utxos = .ok draft) :
    utxos ≠ [] ∧ ∃ weight lockTime,
      estimateWeight r path destination.scriptPubKey utxos.length = .ok weight ∧
      settlementLockTime r path = .ok lockTime := by
  obtain ⟨weight, weighs⟩ := estimateWeight_of_draftSettlement made
  obtain ⟨lockTime, locks⟩ := settlementLockTime_of_estimateWeight weighs
  exact ⟨draftSettlement_ne_nil made, weight, lockTime, weighs, locks⟩

end Draft

namespace Transaction

theorem witnesses_withWitnesses (tx : Transaction) {ws : List (List Bytes)}
    (same : tx.inputs.length = ws.length) : (tx.withWitnesses ws).inputs.map (·.witness) = ws := by
  simp only [withWitnesses, List.map_map]
  have second : (TxIn.witness ∘ fun (p : TxIn × List Bytes) => { p.1 with witness := p.2 }) =
      Prod.snd := rfl
  rw [second, List.map_snd_zip (by omega)]

end Transaction

section Witnesses

variable {σ : Type} {r : SwapRecord} {path : SpendPath} {tx : Transaction}
  {signer : SignerIn (StateM σ)}

theorem signInputs_eq_ok_witnesses {utxos : List Utxo} {first : Nat} {ws : List (List Bytes)}
    {s s' : σ} (signed : runFrom (signInputs r path tx signer utxos first) s = (.ok ws, s')) :
    ∃ sigs : List Signature, ws = sigs.map fun sig => [sig.der ++ [1], path.selector, r.witnessScript] := by
  induction utxos generalizing first s ws with
  | nil =>
    simp only [signInputs_nil, runFrom_pure, Prod.mk.injEq, Except.ok.injEq] at signed
    exact ⟨[], by simp [← signed.1]⟩
  | cons u us ih =>
    rw [signInputs_cons] at signed
    obtain ⟨w, s₁, step, rest⟩ := runFrom_bind_eq_ok.mp signed
    obtain ⟨sig, -, -, rfl⟩ := runFrom_signInput_eq_ok.mp step
    obtain ⟨ws', s₂, restSigned, done⟩ := runFrom_bind_eq_ok.mp rest
    simp only [runFrom_pure, Prod.mk.injEq, Except.ok.injEq] at done
    obtain ⟨rfl, rfl⟩ := done
    obtain ⟨sigs, rfl⟩ := ih restSigned
    exact ⟨sig :: sigs, rfl⟩

variable {destination : Address} {rate : Nat} {utxos : List Utxo} {s s' : σ} {st : Settlement}

theorem buildSettlement_eq_ok_witnesses
    (built : runFrom (buildSettlement r path destination rate utxos signer) s = (.ok st, s')) :
    utxos ≠ [] ∧ ∃ sigs : List Signature, sigs.length = utxos.length ∧
      st.tx.inputs.map (·.witness) =
        sigs.map fun sig => [sig.der ++ [1], path.selector, r.witnessScript] := by
  obtain ⟨draft, ws, made, signed, rfl⟩ := runFrom_buildSettlement_eq_ok.mp built
  obtain ⟨nonempty, weight, lockTime, weighs, locks⟩ := draftSettlement_eq_ok_weight made
  obtain ⟨-, -, -, rfl⟩ := (draftSettlement_eq_ok nonempty weighs locks).mp made
  obtain ⟨sigs, rfl⟩ := signInputs_eq_ok_witnesses signed
  have nsigs : sigs.length = utxos.length := by simpa using length_of_signInputs_ok signed
  refine ⟨nonempty, sigs, nsigs, Transaction.witnesses_withWitnesses _ ?_⟩
  simp [nsigs]

end Witnesses

end SubmarineSwap
