import Mathlib
import SubmarineSwap.Proofs.Settlement.Draft
import SubmarineSwap.Proofs.Settlement.Signing

namespace SubmarineSwap

open Secp256k1

section Value

variable {σ : Type}

/-- How a settlement whose placeholder weighs `weight` ends at `rate`. -/
structure SettlesValue (build : ExceptT Error (StateM σ) Settlement) (signsValidly : Prop)
    (destination : Address) (rate weight : Nat) (utxos : List Utxo) : Prop where
  total_overflows : maxU64 < (utxos.map (·.amount)).sum →
    ∀ s, ∃ e, e.kind = .transaction ∧ runFrom build s = (.error e, s)
  fee_overflows : (utxos.map (·.amount)).sum ≤ maxU64 → maxU64 < rate * weight + 999 →
    ∀ s, ∃ e, e.kind = .invalidParameters ∧ runFrom build s = (.error e, s)
  leaves_dust : (utxos.map (·.amount)).sum ≤ maxU64 → rate * weight + 999 ≤ maxU64 →
    (utxos.map (·.amount)).sum <
      rate * weight ⌈/⌉ 1000 + OutputScript.minimalNonDust destination.scriptPubKey →
    ∀ s, ∃ e, e.kind = .insufficientFunds ∧ runFrom build s = (.error e, s)
  succeeds : signsValidly → (utxos.map (·.amount)).sum ≤ maxU64 → rate * weight + 999 ≤ maxU64 →
    rate * weight ⌈/⌉ 1000 + OutputScript.minimalNonDust destination.scriptPubKey ≤
      (utxos.map (·.amount)).sum →
    ∀ s, ∃ st s', runFrom build s = (.ok st, s')
  settles : ∀ s st s', runFrom build s = (.ok st, s') →
    (utxos.map (·.amount)).sum ≤ maxU64 ∧ rate * weight + 999 ≤ maxU64 ∧
    rate * weight ⌈/⌉ 1000 + OutputScript.minimalNonDust destination.scriptPubKey ≤
      (utxos.map (·.amount)).sum ∧
    st.tx.inputs.map (·.previousOutput) = utxos.map (·.outpoint) ∧
    st.tx.outputs =
      [⟨(utxos.map (·.amount)).sum - rate * weight ⌈/⌉ 1000, destination.scriptPubKey⟩] ∧
    st.fee = rate * weight ⌈/⌉ 1000 ∧
    st.outputAmount + st.fee = (utxos.map (·.amount)).sum

theorem SettlesValue.of_runFrom_eq {build build' : ExceptT Error (StateM σ) Settlement}
    {signsValidly : Prop} {destination : Address} {rate weight : Nat} {utxos : List Utxo}
    (same : ∀ s, runFrom build s = runFrom build' s)
    (settles : SettlesValue build' signsValidly destination rate weight utxos) :
    SettlesValue build signsValidly destination rate weight utxos where
  total_overflows overflow s := by simpa [same] using settles.total_overflows overflow s
  fee_overflows totalFits overflow s := by simpa [same] using settles.fee_overflows totalFits overflow s
  leaves_dust totalFits feeFits short s := by
    simpa [same] using settles.leaves_dust totalFits feeFits short s
  succeeds valid totalFits feeFits enough s := by
    simpa [same] using settles.succeeds valid totalFits feeFits enough s
  settles s st s' built := settles.settles s st s' (by rwa [← same])

@[simp] theorem Settlement.outputAmount_single (tx : Transaction) (kind : SettlementKind)
    (fee : Nat) (inputs : List Utxo) (value : Nat) (script : Bytes)
    (single : tx.outputs = [⟨value, script⟩]) :
    Settlement.outputAmount ⟨tx, kind, fee, inputs⟩ = value := by
  simp [Settlement.outputAmount, single]

variable {r : SwapRecord} {path : SpendPath} {destination : Address} {rate weight lockTime : Nat}
  {utxos : List Utxo} {signer : SignerIn (StateM σ)}

theorem buildSettlement_settlesValue (nonempty : utxos ≠ [])
    (locks : settlementLockTime r path = .ok lockTime)
    (weighs : estimateWeight r path destination.scriptPubKey utxos.length = .ok weight) :
    SettlesValue (buildSettlement r path destination rate utxos signer)
      (SignsValidly signer (path.signerKey r)) destination rate weight utxos where
  total_overflows overflow s := ⟨.raise .transaction "total UTXO amount overflows", rfl,
    runFrom_buildSettlement_of_draft_error
    (by simp [draftSettlement_of_weight nonempty weighs, overflow])⟩
  fee_overflows totalFits overflow s := ⟨.invalidParameters "fee computation overflows", rfl,
    runFrom_buildSettlement_of_draft_error
    (by simp [draftSettlement_of_weight nonempty weighs, Nat.not_lt.mpr totalFits, overflow])⟩
  leaves_dust totalFits feeFits short s := ⟨insufficientDeposit (utxos.map (·.amount)).sum
      (rate * weight ⌈/⌉ 1000) (OutputScript.minimalNonDust destination.scriptPubKey), rfl,
    runFrom_buildSettlement_of_draft_error
    (by simp [draftSettlement_of_weight nonempty weighs, Nat.not_lt.mpr totalFits,
      Nat.not_lt.mpr feeFits, short])⟩
  succeeds valid totalFits feeFits enough s := by
    obtain ⟨ws, s', signed⟩ := signInputs_succeed valid utxos 0 s
    exact ⟨_, s', runFrom_buildSettlement_eq_ok.mpr
      ⟨_, ws, (draftSettlement_eq_ok nonempty weighs locks).mpr ⟨totalFits, feeFits, enough, rfl⟩,
        signed, rfl⟩⟩
  settles s st s' built := by
    obtain ⟨draft, ws, made, signed, rfl⟩ := runFrom_buildSettlement_eq_ok.mp built
    obtain ⟨totalFits, feeFits, enough, drafted⟩ :=
      (draftSettlement_eq_ok nonempty weighs locks).mp made
    have nws := length_of_signInputs_ok signed
    have spends := Transaction.map_inputs_withWitnesses TxIn.previousOutput (fun _ _ => rfl)
      draft.tx ws (by simp [drafted, nws])
    subst drafted
    refine ⟨totalFits, feeFits, enough, spends.trans (by simp), rfl, rfl, ?_⟩
    rw [Settlement.outputAmount_single _ _ _ _ _ _ rfl]
    dsimp only
    omega

theorem SwapRecord.Made.settlesValue (made : r.Made) (nonempty : utxos ≠ []) (path : SpendPath) :
    ∃ weight, estimateWeight r path destination.scriptPubKey utxos.length = .ok weight ∧
      SettlesValue (buildSettlement r path destination rate utxos signer)
        (SignsValidly signer (path.signerKey r)) destination rate weight utxos := by
  obtain ⟨lockTime, locks⟩ := made.settlementLockTime_ok path
  obtain ⟨weight, weighs⟩ := estimateWeight_of_lockTime locks destination.scriptPubKey utxos.length
  exact ⟨weight, weighs, buildSettlement_settlesValue nonempty locks weighs⟩

/-- Redeems and refunds of a made record conserve value, and are refused only for the funds
check, with no effect. -/
theorem settlement_conserves_value (r : SwapRecord) (made : r.Made) (destination : Address)
    (rate : Nat) (utxos : List Utxo) (nonempty : utxos ≠ []) (signer : SignerIn (StateM σ)) :
    (∀ p : Preimage, p.hash = r.hash → ∃ weight,
      estimateWeight r (.redeem p) destination.scriptPubKey utxos.length = .ok weight ∧
      SettlesValue (buildRedeem r p destination rate utxos signer)
        (SignsValidly signer r.params.serviceKey) destination rate weight utxos) ∧
    (∀ height, r.lockHeight ≤ height → ∃ weight,
      estimateWeight r .refund destination.scriptPubKey utxos.length = .ok weight ∧
      SettlesValue (buildRefund r destination rate height utxos signer)
        (SignsValidly signer r.params.clientKey) destination rate weight utxos) := by
  constructor
  · intro p matching
    obtain ⟨weight, weighs, settles⟩ := made.settlesValue nonempty (.redeem p)
    exact ⟨weight, weighs, settles.of_runFrom_eq fun s =>
      runFrom_buildRedeem_of_match (verifyPreimage_eq_ok.mpr matching)⟩
  · intro height expired
    obtain ⟨weight, weighs, settles⟩ := made.settlesValue nonempty .refund
    exact ⟨weight, weighs, settles.of_runFrom_eq fun s =>
      runFrom_buildRefund_of_expired (verifyLockExpired_eq_ok.mpr expired)⟩

def sampleServiceSecret : SecretKey := ⟨2, by decide, by decide⟩

def sampleRecord : SwapRecord :=
  ⟨⟨Preimage.zero.paymentHash, ⟨generator, generator_onCurve⟩, sampleServiceSecret.publicKey,
      800000⟩, 799000, .service "k", .regtest⟩

def sampleDestination : Address := .segwit .regtest 0 (List.replicate 20 0)

def sampleDeposit : Utxo := ⟨⟨⟨List.replicate 32 1, List.length_replicate⟩, 0⟩, 100000, 799001⟩

def sampleSignature : Signature :=
  ⟨7359251672519965391732836784384845551848605615556742092225284398947522706846,
    30683715478881301911803992828272104638888896895292683646120126468666037779009⟩

def sampleSigner : SignerIn (StateM Unit) := fun _ => pure (.ok sampleSignature)

theorem sample_redeem_conserves_value :
    sampleRecord.Made ∧ [sampleDeposit] ≠ [] ∧
      ∃ weight, estimateWeight sampleRecord (.redeem .zero) sampleDestination.scriptPubKey 1 =
          .ok weight ∧
        SettlesValue (buildRedeem sampleRecord .zero sampleDestination 253 [sampleDeposit] sampleSigner)
          (SignsValidly sampleSigner sampleRecord.params.serviceKey) sampleDestination 253 weight
          [sampleDeposit] :=
  ⟨⟨799000, rfl, rfl⟩, List.cons_ne_nil _ _,
    (settlement_conserves_value sampleRecord ⟨799000, rfl, rfl⟩ sampleDestination 253 [sampleDeposit]
      (List.cons_ne_nil _ _) sampleSigner).1 .zero rfl⟩

theorem sampleRedeem_weight :
    estimateWeight sampleRecord (.redeem .zero) sampleDestination.scriptPubKey 1 = .ok 540 := by
  set_option maxRecDepth 200000 in decide +kernel

/-- The sample redeem settles value at every rate and for every signer, at the weight 540. -/
theorem sampleRedeem_settlesValue (signer : SignerIn (StateM σ)) (rate : Nat) :
    SettlesValue (buildSettlement sampleRecord (.redeem .zero) sampleDestination rate [sampleDeposit]
      signer) (SignsValidly signer sampleRecord.params.serviceKey) sampleDestination rate 540
      [sampleDeposit] :=
  buildSettlement_settlesValue (List.cons_ne_nil _ _) (settlementLockTime_redeem .zero)
    sampleRedeem_weight

/-- The signer of the sample's service key. -/
def sampleServiceSigner : SignerIn (StateM Unit) := fun msg => pure (keySigner sampleServiceSecret msg)

/-- Signed with the service's own key, the sample redeem is built. -/
theorem sample_redeem_signed_by_service_key :
    ∃ st, runFrom (buildRedeem sampleRecord .zero sampleDestination 253 [sampleDeposit]
      sampleServiceSigner) () = (.ok st, ()) := by
  have matching : verifyPreimage sampleRecord .zero = .ok () := verifyPreimage_eq_ok.mpr rfl
  -- the funds check passes at 253 sat/kwu, and the key's signer signs validly
  obtain ⟨st, s', built⟩ := (sampleRedeem_settlesValue sampleServiceSigner 253).succeeds
    (keySigner_signsValidly sampleServiceSecret) (by decide) (by decide) (by decide) ()
  refine ⟨st, ?_⟩
  rw [runFrom_buildRedeem_of_match matching, built]

end Value

section Gates

variable {σ : Type} {r : SwapRecord} {path : SpendPath} {destination : Address} {rate : Nat}
  {utxos : List Utxo} {signer : SignerIn (StateM σ)} {s s' : σ} {e : Error}

variable (chain : SettlementBuilder (StateM σ))

end Gates

section Signatures

variable {σ : Type}

/-- A settlement signed for `key` with `selector`, one signer call per input on its sighash. -/
structure SignedAsCommitted (r : SwapRecord) (key : PublicKey) (selector : Bytes)
    (utxos : List Utxo) (st : Settlement) (calls : CallLog) : Prop where
  version : st.tx.version = 2
  spends : st.tx.inputs.map (·.previousOutput) = utxos.map (·.outpoint)
  sequences : ∀ input ∈ st.tx.inputs, input.sequence = settlementSequence
  one_call_per_input : calls.length = utxos.length
  signed : ∀ i (h : i < utxos.length), ∃ msg sig, calls[i]? = some (msg, .ok sig) ∧
    st.tx.segwitSighash i r.witnessScript utxos[i].amount = some msg ∧
    verify key msg sig ∧
    (st.tx.inputs[i]?).map (·.witness) = some [sig.der ++ [1], selector, r.witnessScript]

variable {r : SwapRecord} {path : SpendPath} {destination : Address} {rate : Nat}
  {utxos : List Utxo} {signer : SignerIn (StateM σ)} {s s' : σ} {st : Settlement} {calls : CallLog}

theorem buildSettlement_signedAsCommitted
    (built : runFrom (buildSettlement r path destination rate utxos (recordCalls signer)) (s, []) =
      (.ok st, (s', calls))) :
    SignedAsCommitted r (path.signerKey r) path.selector utxos st calls ∧
      settlementLockTime r path = .ok st.tx.lockTime := by
  obtain ⟨draft, ws, made, signed, rfl⟩ := runFrom_buildSettlement_eq_ok.mp built
  obtain ⟨value, unsigned⟩ := draftSettlement_eq_ok_unsigned made
  obtain ⟨locks, shape⟩ := unsignedSettlement_eq_ok unsigned
  obtain ⟨calls', logged, ncalls, nws, each⟩ := signInputs_recorded signed
  have ninputs : draft.tx.inputs.length = utxos.length := by rw [shape]; simp
  have enough : draft.tx.inputs.length ≤ ws.length := by omega
  have sequences := Transaction.map_inputs_withWitnesses TxIn.sequence (fun _ _ => rfl) _ _ enough
  refine ⟨⟨by rw [shape]; rfl, ?spends, ?sequences, by simp [logged, ncalls], ?signed⟩, locks⟩
  case spends =>
    rw [Transaction.map_inputs_withWitnesses TxIn.previousOutput (fun _ _ => rfl) _ _ enough, shape]
    simp
  case sequences =>
    intro input member
    have listed : input.sequence ∈ draft.tx.inputs.map TxIn.sequence := by
      rw [← sequences]
      exact List.mem_map_of_mem member
    rw [shape] at listed
    simp only [List.map_map, List.mem_map, Function.comp_apply] at listed
    obtain ⟨_, -, same⟩ := listed
    exact same.symm
  case signed =>
    intro i h
    obtain ⟨sig, called, verifies, witnessed⟩ := each i h
    rw [Nat.zero_add] at called verifies
    refine ⟨_, sig, by simpa [logged] using called, ?_, verifies, ?_⟩
    · -- the signer saw the draft's sighash, which attaching the witnesses leaves as it was
      rw [Transaction.segwitSighash_withWitnesses _ _ enough]
      exact segwitSighash_eq_inputMessage (by omega)
    · rw [Transaction.witness_withWitnesses (by omega), witnessed]

/-- A successful redeem or refund is signed as committed. -/
theorem settlement_signed_as_committed (r : SwapRecord) (destination : Address) (rate : Nat)
    (utxos : List Utxo) (signer : SignerIn (StateM σ)) (s s' : σ) (st : Settlement)
    (calls : CallLog) :
    (∀ p : Preimage, runFrom (buildRedeem r p destination rate utxos (recordCalls signer)) (s, []) =
        (.ok st, (s', calls)) →
      SignedAsCommitted r r.params.serviceKey p.bytes utxos st calls ∧ st.tx.lockTime = 0) ∧
    (∀ height, runFrom (buildRefund r destination rate height utxos (recordCalls signer)) (s, []) =
        (.ok st, (s', calls)) →
      SignedAsCommitted r r.params.clientKey [] utxos st calls ∧ st.tx.lockTime = r.lockHeight ∧
        r.lockHeight < lockTimeThreshold) ∧
    (r.Made → settlementLockTime r .refund = .ok r.lockHeight) := by
  refine ⟨?redeem, ?refund, fun made => settlementLockTime_refund_of_lt made.lockHeight_lt⟩
  case redeem =>
    intro p built
    rcases gate : verifyPreimage r p with e | ⟨⟩
    · rw [runFrom_buildRedeem_of_mismatch gate] at built
      cases built
    · rw [runFrom_buildRedeem_of_match gate] at built
      obtain ⟨signedAs, locks⟩ := buildSettlement_signedAsCommitted built
      exact ⟨signedAs, by simpa [eq_comm] using locks⟩
  case refund =>
    intro height built
    rcases gate : verifyLockExpired r height with e | ⟨⟩
    · rw [runFrom_buildRefund_of_early gate] at built
      cases built
    · rw [runFrom_buildRefund_of_expired gate] at built
      obtain ⟨signedAs, locks⟩ := buildSettlement_signedAsCommitted built
      by_cases below : r.lockHeight < lockTimeThreshold
      · rw [settlementLockTime_refund_of_lt below, Except.ok.injEq] at locks
        exact ⟨signedAs, locks.symm, below⟩
      · simp [settlementLockTime, below] at locks

/-- The redeem of the sample deposit succeeds, so the statement above is not about an empty case. -/
theorem sample_redeem_signed_as_committed :
    ∃ st calls, runFrom (buildRedeem sampleRecord .zero sampleDestination 253 [sampleDeposit]
        (recordCalls sampleSigner)) ((), []) = (.ok st, ((), calls)) ∧
      SignedAsCommitted sampleRecord sampleRecord.params.serviceKey Preimage.zero.bytes
        [sampleDeposit] st calls ∧ st.tx.lockTime = 0 := by
  have succeeds : (runFrom (buildRedeem sampleRecord .zero sampleDestination 253 [sampleDeposit]
      (recordCalls sampleSigner)) ((), [])).1.toBool = true := by
    set_option maxRecDepth 200000 in decide +kernel
  rcases built : runFrom (buildRedeem sampleRecord .zero sampleDestination 253 [sampleDeposit]
      (recordCalls sampleSigner)) ((), []) with ⟨_ | st, ⟨⟨⟩, calls⟩⟩
  · rw [built] at succeeds
    cases succeeds
  · exact ⟨st, calls, rfl, (settlement_signed_as_committed sampleRecord sampleDestination 253
      [sampleDeposit] sampleSigner () () st calls).1 .zero built⟩

end Signatures

end SubmarineSwap
