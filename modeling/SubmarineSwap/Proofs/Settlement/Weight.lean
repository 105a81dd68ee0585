import Mathlib
import SubmarineSwap.Proofs.Settlement.Built
import SubmarineSwap.Proofs.Settlement.Outcomes
import SubmarineSwap.Proofs.Script

namespace SubmarineSwap

open Bytes Secp256k1

section Sizes

theorem withLength_length (bs : Bytes) :
    (withLength bs).length = (compactSize bs.length).length + bs.length := by
  simp [withLength]

theorem compactSize_length_of_lt {n : Nat} (small : n < 253) : (compactSize n).length = 1 := by
  simp [compactSize_length, small]

theorem withLength_length_of_lt {bs : Bytes} (small : bs.length < 253) :
    (withLength bs).length = 1 + bs.length := by
  rw [withLength_length, compactSize_length_of_lt small]

theorem scriptNumber_length_le_nine (n : Nat) : (scriptNumber n).length ≤ 9 := by
  have trimmed : ((ofNatLE 8 n).reverse.dropWhile (· == 0)).reverse.length ≤ 8 := by
    rw [List.length_reverse]
    calc _ ≤ (ofNatLE 8 n).reverse.length := List.length_dropWhile_le _ _
      _ = 8 := by simp [ofNatLE_length]
  unfold scriptNumber
  dsimp only
  split
  · rw [List.length_append, List.length_singleton]
    omega
  · exact trimmed.trans (by decide)

theorem pushInt_encode_length_le (n : Nat) : (pushInt n).encode.length ≤ 10 := by
  have short := scriptNumber_length_le_nine n
  unfold pushInt
  split
  · simp [ScriptItem.encode]
  · split
    · simp [ScriptItem.encode]
    · rw [ScriptItem.encode_push_of_lt (by omega), List.length_cons]
      omega

theorem SwapParams.witnessScript_length (p : SwapParams) :
    p.witnessScript.length = 97 + (pushInt p.lockHeight).encode.length := by
  rw [SwapParams.witnessScript_eq]
  simp only [List.length_append, Hash.ripemd160_length, PublicKey.serialize_length]
  simp
  omega

theorem SwapRecord.witnessScript_length_lt (r : SwapRecord) : r.witnessScript.length < 253 := by
  have pushed := pushInt_encode_length_le r.lockHeight
  rw [SwapRecord.witnessScript, SwapParams.witnessScript_length]
  exact Nat.lt_of_le_of_lt (Nat.add_le_add_left pushed 97) (by decide)

theorem derInteger_length_le (v : Nat) : (derInteger v).length ≤ 33 := by
  have trimmed : ((ofNatBE 32 v).dropWhile (· == 0)).length ≤ 32 :=
    calc _ ≤ (ofNatBE 32 v).length := List.length_dropWhile_le _ _
      _ = 32 := ofNatBE_length 32 v
  unfold derInteger
  dsimp only
  split_ifs <;> simp_all <;> omega

theorem Secp256k1.Signature.der_length_le (sig : Signature) : (sig.der ++ [1]).length ≤ 73 := by
  have r := derInteger_length_le sig.r
  have s := derInteger_length_le sig.s
  simp only [Signature.der, List.length_append, List.length_cons, List.length_nil]
  omega

@[simp] theorem SpendPath.placeholderSelector_length (path : SpendPath) :
    path.placeholderSelector.length = path.selector.length := by
  cases path with
  | redeem p => simp [SpendPath.placeholderSelector, SpendPath.selector, p.length_eq]
  | refund => rfl

theorem SpendPath.selector_length (path : SpendPath) :
    path.selector.length = match path with | .redeem _ => 32 | .refund => 0 := by
  cases path with
  | redeem p => simp [SpendPath.selector, p.length_eq, preimageSize]
  | refund => rfl

end Sizes

namespace Transaction

theorem encodeInput_length (i : TxIn) :
    (encodeInput i).length = 40 + (withLength i.scriptSig).length := by
  simp only [encodeInput, encodeOutPoint, List.length_append, u32, ofNatLE_length,
    i.previousOutput.txid.length_eq]
  omega

theorem encodeOutput_length (o : TxOut) :
    (encodeOutput o).length = 8 + (withLength o.scriptPubKey).length := by
  simp [encodeOutput, u64, ofNatLE_length]

theorem encodeWitness_length (w : List Bytes) :
    (encodeWitness w).length = (compactSize w.length).length + (w.map fun x => (withLength x).length).sum := by
  simp [encodeWitness, List.length_flatMap]

theorem encodeBase_length (tx : Transaction) :
    tx.encodeBase.length = 4 + (compactSize tx.inputs.length).length +
      (tx.inputs.map fun i => (encodeInput i).length).sum + (compactSize tx.outputs.length).length +
      (tx.outputs.map fun o => (encodeOutput o).length).sum + 4 := by
  simp only [encodeBase, encodeInputs, encodeOutputs, List.length_append, u32, ofNatLE_length,
    List.length_flatMap]
  omega

theorem weight_of_usesSegwit {tx : Transaction} (segwit : tx.usesSegwit) :
    tx.weight = 4 * tx.encodeBase.length + 2 +
      (tx.inputs.map fun i => (encodeWitness i.witness).length).sum := by
  have full : tx.encode.length = tx.encodeBase.length + 2 +
      (tx.inputs.map fun i => (encodeWitness i.witness).length).sum := by
    simp only [encode, segwit, ↓reduceIte, encodeBase, List.length_append, List.length_flatMap]
    simp
    omega
  rw [weight, full]
  omega

theorem usesSegwit_of_witnesses {tx : Transaction} (witnessed : ∀ i ∈ tx.inputs, i.witness ≠ []) :
    tx.usesSegwit := by
  cases inputs : tx.inputs with
  | nil => simp [usesSegwit, inputs]
  | cons i rest =>
    have first := witnessed i (by simp [inputs])
    simp [usesSegwit, inputs, first]

theorem encodeBase_withWitnesses (tx : Transaction) (ws : List (List Bytes))
    (enough : tx.inputs.length ≤ ws.length) : (tx.withWitnesses ws).encodeBase = tx.encodeBase := by
  have inputs := map_inputs_withWitnesses encodeInput (fun _ _ => rfl) tx ws enough
  have count : (tx.withWitnesses ws).inputs.length = tx.inputs.length := by
    simpa using congrArg List.length inputs
  simp only [encodeBase, encodeInputs, encodeOutputs, List.flatMap_def, inputs, count,
    withWitnesses_version, withWitnesses_outputs, withWitnesses_lockTime]

theorem encodeBase_setWitness (tx : Transaction) (w : List Bytes) :
    ({ tx with inputs := tx.inputs.map fun i => { i with witness := w } } : Transaction).encodeBase =
      tx.encodeBase := by
  simp only [encodeBase, encodeInputs, List.length_map, List.flatMap_map]
  rfl

end Transaction

def settlementBaseSize (n : Nat) (script : Bytes) : Nat :=
  4 + (compactSize n).length + 41 * n + 1 + 8 + (compactSize script.length).length + script.length + 4

theorem encodeBase_length_unsigned (outpoints : List OutPoint) (value lockTime : Nat)
    (script : Bytes) :
    (⟨2, outpoints.map fun o => { previousOutput := o, sequence := settlementSequence },
      [⟨value, script⟩], lockTime⟩ : Transaction).encodeBase.length =
      settlementBaseSize outpoints.length script := by
  have inputs : (outpoints.map fun o => (Transaction.encodeInput
      { previousOutput := o, sequence := settlementSequence }).length) =
      outpoints.map fun _ => 41 := by
    apply List.map_congr_left
    intro o _
    simp [Transaction.encodeInput_length, withLength_length, compactSize_length]
  rw [Transaction.encodeBase_length]
  simp only [List.map_map, Function.comp_def, inputs, List.map_const', List.sum_replicate,
    smul_eq_mul, List.length_map, List.length_singleton, compactSize_length_of_lt (show 1 < 253 by decide),
    List.map_cons, List.map_nil, List.sum_cons, List.sum_nil, Transaction.encodeOutput_length,
    withLength_length, settlementBaseSize]
  omega

section Estimate

variable {r : SwapRecord} {path : SpendPath} {lockTime : Nat}

theorem estimateWeight_eq_of_lockTime (locks : settlementLockTime r path = .ok lockTime)
    (script : Bytes) (n : Nat) :
    estimateWeight r path script n = .ok (4 * settlementBaseSize n script + 2 +
      n * (77 + path.selector.length + r.witnessScript.length)) := by
  let outpoints := (List.range n).map fun i => (⟨Txid.zero, i⟩ : OutPoint)
  let unsigned : Transaction :=
    ⟨2, outpoints.map fun o => { previousOutput := o, sequence := settlementSequence }, [⟨0, script⟩],
      lockTime⟩
  let witness := [List.replicate maxSignatureSize 0, path.placeholderSelector, r.witnessScript]
  let placeholder : Transaction :=
    { unsigned with inputs := unsigned.inputs.map fun i => { i with witness := witness } }
  have estimate : estimateWeight r path script n = .ok placeholder.weight := by
    simp [estimateWeight, unsignedSettlement_of_lockTime locks, bind, Except.bind, pure, Except.pure,
      placeholder, unsigned, outpoints, witness]
  have segwit : placeholder.usesSegwit :=
    Transaction.usesSegwit_of_witnesses (by simp [placeholder, witness])
  have base : placeholder.encodeBase.length = settlementBaseSize n script := by
    rw [Transaction.encodeBase_setWitness, encodeBase_length_unsigned]
    simp [outpoints]
  -- every input carries the same witness: a 73-byte signature, the selector and the script
  have each : (Transaction.encodeWitness witness).length =
      77 + path.selector.length + r.witnessScript.length := by
    have signature : (withLength (List.replicate maxSignatureSize (0 : UInt8))).length = 74 := by
      rw [withLength_length_of_lt (by simp [maxSignatureSize])]
      simp [maxSignatureSize]
    have selectorSmall : path.placeholderSelector.length < 253 := by
      rw [SpendPath.placeholderSelector_length, SpendPath.selector_length]
      split <;> decide
    simp only [Transaction.encodeWitness_length, witness, List.length_cons, List.length_nil,
      List.map_cons, List.map_nil, List.sum_cons, List.sum_nil, signature,
      withLength_length_of_lt selectorSmall, withLength_length_of_lt r.witnessScript_length_lt,
      compactSize_length_of_lt (show 3 < 253 by decide), SpendPath.placeholderSelector_length]
    omega
  rw [estimate, Transaction.weight_of_usesSegwit segwit, base]
  simp [placeholder, unsigned, outpoints, Function.comp_def, each, List.map_const',
    List.sum_replicate]

end Estimate

section Signed

variable {σ : Type} {r : SwapRecord} {path : SpendPath} {destination : Address} {rate : Nat}
  {utxos : List Utxo} {signer : SignerIn (StateM σ)} {s s' : σ} {st : Settlement}

theorem encodeWitness_signed_length (sig : Signature) (path : SpendPath) (r : SwapRecord) :
    (Transaction.encodeWitness [sig.der ++ [1], path.selector, r.witnessScript]).length +
      (73 - (sig.der ++ [1]).length) = 77 + path.selector.length + r.witnessScript.length := by
  have signature := sig.der_length_le
  have selectorSmall : path.selector.length < 253 := by
    rw [SpendPath.selector_length]
    split <;> decide
  simp only [Transaction.encodeWitness_length, List.length_cons, List.length_nil, List.map_cons,
    List.map_nil, List.sum_cons, List.sum_nil, withLength_length_of_lt (by omega : (sig.der ++ [1]).length < 253),
    withLength_length_of_lt selectorSmall, withLength_length_of_lt r.witnessScript_length_lt,
    compactSize_length_of_lt (show 3 < 253 by decide)]
  omega

theorem buildSettlement_weight (built : runFrom (buildSettlement r path destination rate utxos signer) s = (.ok st, s')) :
    ∃ weight, ∃ sigs : List Signature,
      estimateWeight r path destination.scriptPubKey utxos.length = .ok weight ∧
      st.fee = rate * weight ⌈/⌉ 1000 ∧
      st.tx.inputs.map (·.witness) =
        sigs.map (fun sig => [sig.der ++ [1], path.selector, r.witnessScript]) ∧
      st.tx.weight + (sigs.map fun sig => 73 - (sig.der ++ [1]).length).sum = weight := by
  obtain ⟨draft, ws, made, signed, rfl⟩ := runFrom_buildSettlement_eq_ok.mp built
  obtain ⟨nonempty, weight, lockTime, weighs, locks⟩ := draftSettlement_eq_ok_weight made
  obtain ⟨-, -, -, rfl⟩ := (draftSettlement_eq_ok nonempty weighs locks).mp made
  obtain ⟨sigs, rfl⟩ := signInputs_eq_ok_witnesses signed
  have nsigs : sigs.length = utxos.length := by simpa using length_of_signInputs_ok signed
  have estimate := estimateWeight_eq_of_lockTime locks destination.scriptPubKey utxos.length
  rw [weighs, Except.ok.injEq] at estimate
  subst estimate
  set unsigned : Transaction := ⟨2, (utxos.map (·.outpoint)).map fun o =>
    { previousOutput := o, sequence := settlementSequence }, [⟨(utxos.map (·.amount)).sum -
      rate * (4 * settlementBaseSize utxos.length destination.scriptPubKey + 2 +
        utxos.length * (77 + path.selector.length + r.witnessScript.length)) ⌈/⌉ 1000,
      destination.scriptPubKey⟩], lockTime⟩ with unsignedEq
  have ninputs : unsigned.inputs.length = (sigs.map fun sig =>
      [sig.der ++ [1], path.selector, r.witnessScript]).length := by
    simp [unsignedEq, nsigs]
  have witnesses := Transaction.witnesses_withWitnesses unsigned ninputs
  refine ⟨_, sigs, weighs, rfl, witnesses, ?_⟩
  have segwit : (unsigned.withWitnesses (sigs.map fun sig =>
      [sig.der ++ [1], path.selector, r.witnessScript])).usesSegwit := by
    apply Transaction.usesSegwit_of_witnesses
    intro input member
    have listed : input.witness ∈ _ := witnesses ▸ List.mem_map_of_mem member
    obtain ⟨sig, -, same⟩ := List.mem_map.mp listed
    simp [← same]
  have base : (unsigned.withWitnesses (sigs.map fun sig =>
      [sig.der ++ [1], path.selector, r.witnessScript])).encodeBase.length =
      settlementBaseSize utxos.length destination.scriptPubKey := by
    rw [Transaction.encodeBase_withWitnesses _ _ ninputs.le, unsignedEq,
      encodeBase_length_unsigned, List.length_map]
  -- each signed input and what its signature falls short of make up one placeholder input
  have sums : (sigs.map fun sig => (Transaction.encodeWitness
      [sig.der ++ [1], path.selector, r.witnessScript]).length).sum +
      (sigs.map fun sig => 73 - (sig.der ++ [1]).length).sum =
      utxos.length * (77 + path.selector.length + r.witnessScript.length) := by
    rw [← List.sum_map_add]
    simp only [encodeWitness_signed_length, List.map_const', List.sum_replicate, nsigs, smul_eq_mul]
  have perInput : ∀ l : List TxIn, (l.map fun i => (Transaction.encodeWitness i.witness).length) =
      (l.map (·.witness)).map fun w => (Transaction.encodeWitness w).length := fun l => by simp
  have weighed := Transaction.weight_of_usesSegwit segwit
  rw [perInput, witnesses, List.map_map, base] at weighed
  simp only [Function.comp_def] at weighed
  simp only [weighed]
  omega

end Signed

/-- How the settlements of a record weigh against their estimate. -/
structure WeighsAsEstimated (r : SwapRecord) : Prop where
  script_length : r.witnessScript.length = 97 + (pushInt r.lockHeight).encode.length
  estimate : ∀ (path : SpendPath) (script : Bytes) (n : Nat), estimateWeight r path script n =
    .ok (4 * (4 + (compactSize n).length + 41 * n + 1 + 8 + (compactSize script.length).length +
      script.length + 4) + 2 +
      n * (77 + (match path with | .redeem _ => 32 | .refund => 0) + r.witnessScript.length))
  redeem_exceeds_refund : ∀ (p : Preimage) (script : Bytes) (n : Nat),
    estimateWeight r (.redeem p) script n = (estimateWeight r .refund script n).map (· + 32 * n)
  destination_length_only : ∀ (path : SpendPath) (script script' : Bytes) (n : Nat),
    script.length = script'.length → estimateWeight r path script n = estimateWeight r path script' n
  signed : ∀ {σ : Type} (path : SpendPath) (destination : Address) (rate : Nat) (utxos : List Utxo)
    (signer : SignerIn (StateM σ)) (s : σ) (st : Settlement) (s' : σ),
    runFrom (buildSettlement r path destination rate utxos signer) s = (.ok st, s') →
    ∃ weight, ∃ sigs : List Signature,
      estimateWeight r path destination.scriptPubKey utxos.length = .ok weight ∧
      st.fee = rate * weight ⌈/⌉ 1000 ∧
      st.tx.inputs.map (·.witness) =
        sigs.map (fun sig => [sig.der ++ [1], path.selector, r.witnessScript]) ∧
      (∀ sig ∈ sigs, (sig.der ++ [1]).length ≤ 73) ∧
      st.tx.weight = weight - (sigs.map fun sig => 73 - (sig.der ++ [1]).length).sum ∧
      st.tx.weight ≤ weight ∧ rate * st.tx.weight ≤ 1000 * st.fee

/-- The weight estimate of a record built by the constructors is exact and bounds the weight of
every settlement signed for it. -/
theorem settlement_weight_estimate (r : SwapRecord) (made : r.Made) : WeighsAsEstimated r where
  script_length := SwapParams.witnessScript_length r.params
  estimate path script n := by
    obtain ⟨lockTime, locks⟩ := made.settlementLockTime_ok path
    rw [estimateWeight_eq_of_lockTime locks, SpendPath.selector_length, settlementBaseSize]
  redeem_exceeds_refund p script n := by
    rw [estimateWeight_eq_of_lockTime (settlementLockTime_redeem p),
      estimateWeight_eq_of_lockTime (settlementLockTime_refund_of_lt made.lockHeight_lt),
      SpendPath.selector_length, SpendPath.selector_length]
    simp only [Except.map, Except.ok.injEq]
    ring
  destination_length_only path script script' n same := by
    obtain ⟨lockTime, locks⟩ := made.settlementLockTime_ok path
    rw [estimateWeight_eq_of_lockTime locks, estimateWeight_eq_of_lockTime locks, settlementBaseSize,
      settlementBaseSize, same]
  signed path destination rate utxos signer s st s' built := by
    obtain ⟨weight, sigs, weighs, paid, witnesses, falls⟩ := buildSettlement_weight built
    have lighter : st.tx.weight ≤ weight := by omega
    -- the fee is the rate's fee for the estimate, rounded up, so it covers the lighter weight
    have covered : rate * weight ≤ 1000 * st.fee := by
      rw [paid, ← smul_eq_mul 1000]
      exact le_smul_ceilDiv (by decide)
    refine ⟨weight, sigs, weighs, paid, witnesses, fun sig _ => sig.der_length_le, by omega, lighter,
      (Nat.mul_le_mul_left rate lighter).trans covered⟩

/-- The sample swap is built by the constructors, so its settlements weigh as estimated. -/
theorem sample_weighs_as_estimated : sampleRecord.Made ∧ WeighsAsEstimated sampleRecord :=
  ⟨⟨799000, rfl, rfl⟩, settlement_weight_estimate sampleRecord ⟨799000, rfl, rfl⟩⟩

end SubmarineSwap
