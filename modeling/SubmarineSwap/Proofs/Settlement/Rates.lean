import Mathlib
import SubmarineSwap.Proofs.Settlement.Built
import SubmarineSwap.Proofs.Settlement.Outcomes

namespace SubmarineSwap

section Rates

variable {σ : Type}

/-- How the outcomes of `build` compare across fee rates, for a signer that signs validly. -/
structure FeeMonotone (build : Nat → ExceptT Error (StateM σ) Settlement) (signsValidly : Prop)
    (overflows : Nat → Prop) : Prop where
  lower_settles : signsValidly → ∀ rate rate' s st' s', rate ≤ rate' →
    runFrom (build rate') s = (.ok st', s') →
    ∃ st s₁, runFrom (build rate) s = (.ok st, s₁) ∧ st.fee ≤ st'.fee ∧
      st'.outputAmount ≤ st.outputAmount
  higher_refused : signsValidly → ∀ rate rate' s e s', rate ≤ rate' →
    runFrom (build rate) s = (.error e, s') → e.kind = .insufficientFunds →
    ∃ e', (e'.kind = .insufficientFunds ∨ e'.kind = .invalidParameters ∧ overflows rate') ∧
      runFrom (build rate') s = (.error e', s)

namespace FeeMonotone

variable {build build' : Nat → ExceptT Error (StateM σ) Settlement} {signsValidly : Prop}
  {overflows : Nat → Prop}

theorem of_runFrom_eq (same : ∀ rate s, runFrom (build rate) s = runFrom (build' rate) s)
    (monotone : FeeMonotone build' signsValidly overflows) :
    FeeMonotone build signsValidly overflows where
  lower_settles valid rate rate' s st' s' le built := by
    rw [same] at built
    simpa only [same] using monotone.lower_settles valid rate rate' s st' s' le built
  higher_refused valid rate rate' s e s' le refused short := by
    rw [same] at refused
    simpa only [same] using monotone.higher_refused valid rate rate' s e s' le refused short

theorem of_refused (refused : ∀ rate s, ∃ e, e.kind ≠ .insufficientFunds ∧
    runFrom (build rate) s = (.error e, s)) : FeeMonotone build signsValidly overflows where
  lower_settles _ rate rate' s st' s' _ built := by
    obtain ⟨e, -, fails⟩ := refused rate' s
    rw [fails] at built
    cases built
  higher_refused _ rate rate' s e s' _ fails short := by
    obtain ⟨e₀, other, fails₀⟩ := refused rate s
    rw [fails₀, Prod.mk.injEq, Except.error.injEq] at fails
    exact absurd (fails.1 ▸ short) other

theorem mono {overflows' : Nat → Prop} (weaker : ∀ rate, overflows rate → overflows' rate)
    (monotone : FeeMonotone build signsValidly overflows) :
    FeeMonotone build signsValidly overflows' where
  lower_settles := monotone.lower_settles
  higher_refused valid rate rate' s e s' le refused short := by
    obtain ⟨e', kind, fails⟩ := monotone.higher_refused valid rate rate' s e s' le refused short
    exact ⟨e', kind.imp_right fun ⟨params, overflow⟩ => ⟨params, weaker rate' overflow⟩, fails⟩

end FeeMonotone

theorem fee_le_of_rate_le {rate rate' : Nat} (le : rate ≤ rate') (weight : Nat) :
    rate * weight ⌈/⌉ 1000 ≤ rate' * weight ⌈/⌉ 1000 :=
  (gc_mul_ceilDiv (by norm_num : (0 : Nat) < 1000)).monotone_l (Nat.mul_le_mul_right weight le)

variable {build : Nat → ExceptT Error (StateM σ) Settlement} {signsValidly : Prop}
  {destination : Address} {weight : Nat} {utxos : List Utxo}

theorem SettlesValue.feeMonotone
    (settles : ∀ rate, SettlesValue (build rate) signsValidly destination rate weight utxos) :
    FeeMonotone build signsValidly fun rate => maxU64 < rate * weight + 999 where
  lower_settles valid rate rate' s st' s' le built := by
    obtain ⟨totalFits, feeFits', enough', -, -, paid', conserved'⟩ :=
      (settles rate').settles s st' s' built
    have cheaper := fee_le_of_rate_le le weight
    -- the lower rate passes every check the higher one passed
    have feeFits : rate * weight + 999 ≤ maxU64 :=
      le_trans (Nat.add_le_add_right (Nat.mul_le_mul_right weight le) 999) feeFits'
    have enough : rate * weight ⌈/⌉ 1000 + OutputScript.minimalNonDust destination.scriptPubKey ≤
        (utxos.map (·.amount)).sum := le_trans (Nat.add_le_add_right cheaper _) enough'
    obtain ⟨st, s₁, settled⟩ := (settles rate).succeeds valid totalFits feeFits enough s
    obtain ⟨-, -, -, -, -, paid, conserved⟩ := (settles rate).settles s st s₁ settled
    refine ⟨st, s₁, settled, by rw [paid, paid']; exact cheaper, ?_⟩
    omega
  higher_refused valid rate rate' s e s' le refused short := by
    have same : ∀ e₀ s₀, runFrom (build rate) s = (.error e₀, s₀) → e₀ = e := by
      intro e₀ s₀ fails
      rw [fails, Prod.mk.injEq, Except.error.injEq] at refused
      exact refused.1
    -- the lower rate was refused by the funds check, not by an overflow or the signer
    by_cases totalFits : (utxos.map (·.amount)).sum ≤ maxU64
    · by_cases feeFits : rate * weight + 999 ≤ maxU64
      · by_cases enough : rate * weight ⌈/⌉ 1000 + OutputScript.minimalNonDust destination.scriptPubKey ≤
            (utxos.map (·.amount)).sum
        · obtain ⟨st, s₁, settled⟩ := (settles rate).succeeds valid totalFits feeFits enough s
          rw [settled] at refused
          cases refused
        · by_cases feeFits' : rate' * weight + 999 ≤ maxU64
          · have short' : (utxos.map (·.amount)).sum <
                rate' * weight ⌈/⌉ 1000 + OutputScript.minimalNonDust destination.scriptPubKey :=
              lt_of_lt_of_le (Nat.lt_of_not_le enough)
                (Nat.add_le_add_right (fee_le_of_rate_le le weight) _)
            obtain ⟨e', kind, fails⟩ := (settles rate').leaves_dust totalFits feeFits' short' s
            exact ⟨e', .inl kind, fails⟩
          · obtain ⟨e', kind, fails⟩ :=
              (settles rate').fee_overflows totalFits (Nat.lt_of_not_le feeFits') s
            exact ⟨e', .inr ⟨kind, Nat.lt_of_not_le feeFits'⟩, fails⟩
      · obtain ⟨e₀, kind, fails⟩ := (settles rate).fee_overflows totalFits (Nat.lt_of_not_le feeFits) s
        rw [← same e₀ _ fails, kind] at short
        cases short
    · obtain ⟨e₀, kind, fails⟩ := (settles rate).total_overflows (Nat.lt_of_not_le totalFits) s
      rw [← same e₀ _ fails, kind] at short
      cases short

/-- The fee computation at `rate` overflows 64 bits for the weight of the placeholder settlement. -/
def RateOverflows (r : SwapRecord) (path : SpendPath) (destination : Address) (utxos : List Utxo)
    (rate : Nat) : Prop :=
  ∃ weight, estimateWeight r path destination.scriptPubKey utxos.length = .ok weight ∧
    maxU64 < rate * weight + 999

variable {r : SwapRecord} {path : SpendPath} {signer : SignerIn (StateM σ)}

theorem draftSettlement_of_estimateWeight_error (nonempty : utxos ≠ []) {rate : Nat} {e : Error}
    (fails : estimateWeight r path destination.scriptPubKey utxos.length = .error e) :
    ∃ e', draftSettlement r path destination rate utxos = .error e' ∧ e'.kind = .transaction := by
  have notEmpty : utxos.isEmpty = false := by simpa using nonempty
  by_cases totalFits : (utxos.map (·.amount)).sum ≤ maxU64
  · refine ⟨e, ?_, estimateWeight_error_kind fails⟩
    simp [draftSettlement, notEmpty, totalAmount_eq, totalFits, fails, bind, Except.bind]
  · refine ⟨.raise .transaction "total UTXO amount overflows", ?_, rfl⟩
    simp [draftSettlement, notEmpty, totalAmount_eq, totalFits, bind, Except.bind]

theorem buildSettlement_feeMonotone :
    FeeMonotone (fun rate => buildSettlement r path destination rate utxos signer)
      (SignsValidly signer (path.signerKey r)) (RateOverflows r path destination utxos) := by
  rcases eq_or_ne utxos [] with rfl | nonempty
  · -- nothing to spend: the same refusal at every rate
    have empty : ∀ rate s, runFrom (buildSettlement r path destination rate [] signer) s =
        (.error (noUnspentOutputs r), s) := fun rate s =>
      runFrom_buildSettlement_of_draft_error (by simp [draftSettlement, throw, throwThe,
        MonadExceptOf.throw, bind, Except.bind])
    refine ⟨fun _ rate rate' s st' s' _ built => ?_, fun _ rate rate' s e s' _ _ _ => ?_⟩
    · rw [empty] at built
      cases built
    · exact ⟨_, .inl rfl, empty rate' s⟩
  · cases weighs : estimateWeight r path destination.scriptPubKey utxos.length with
    | error e =>
      refine FeeMonotone.of_refused fun rate s => ?_
      obtain ⟨e', refused, kind⟩ : ∃ e', draftSettlement r path destination rate utxos = .error e' ∧
          e'.kind = .transaction := draftSettlement_of_estimateWeight_error nonempty weighs
      exact ⟨e', by rw [kind]; decide, runFrom_buildSettlement_of_draft_error refused⟩
    | ok weight =>
      obtain ⟨lockTime, locks⟩ := settlementLockTime_of_estimateWeight weighs
      exact (SettlesValue.feeMonotone fun rate =>
        buildSettlement_settlesValue nonempty locks weighs).mono fun rate overflow => ⟨weight, weighs, overflow⟩

theorem buildRedeem_mismatch_refused (destination : Address) (utxos : List Utxo)
    (signer : SignerIn (StateM σ)) {p : Preimage} (mismatch : p.hash ≠ r.hash) :
    ∃ e, e.kind = .invalidPreimage ∧
      ∀ rate s, runFrom (buildRedeem r p destination rate utxos signer) s = (.error e, s) := by
  obtain ⟨e, refused, kind⟩ := verifyPreimage_of_ne mismatch
  exact ⟨e, kind, fun _ _ => runFrom_buildRedeem_of_mismatch refused⟩

theorem buildRefund_early_refused (destination : Address) (utxos : List Utxo)
    (signer : SignerIn (StateM σ)) {height : Nat} (early : height < r.lockHeight) :
    ∃ e, e.kind = .lockNotExpired ∧
      ∀ rate s, runFrom (buildRefund r destination rate height utxos signer) s = (.error e, s) := by
  obtain ⟨e, refused, kind⟩ := verifyLockExpired_of_lt early
  exact ⟨e, kind, fun _ _ => runFrom_buildRefund_of_early refused⟩

/-- Fee monotonicity of redeems and refunds, and their gates refused alike at every rate. -/
theorem settlement_fee_monotone (r : SwapRecord) (destination : Address) (utxos : List Utxo)
    (signer : SignerIn (StateM σ)) :
    (∀ p : Preimage, FeeMonotone (fun rate => buildRedeem r p destination rate utxos signer)
      (SignsValidly signer r.params.serviceKey) (RateOverflows r (.redeem p) destination utxos)) ∧
    (∀ height, FeeMonotone (fun rate => buildRefund r destination rate height utxos signer)
      (SignsValidly signer r.params.clientKey) (RateOverflows r .refund destination utxos)) ∧
    (∀ p : Preimage, p.hash ≠ r.hash → ∃ e, e.kind = .invalidPreimage ∧
      ∀ rate s, runFrom (buildRedeem r p destination rate utxos signer) s = (.error e, s)) ∧
    (∀ height, height < r.lockHeight → ∃ e, e.kind = .lockNotExpired ∧
      ∀ rate s, runFrom (buildRefund r destination rate height utxos signer) s = (.error e, s)) := by
  refine ⟨fun p => ?redeem, fun height => ?refund,
    fun p => buildRedeem_mismatch_refused destination utxos signer,
    fun height => buildRefund_early_refused destination utxos signer⟩
  case redeem =>
    by_cases matching : p.hash = r.hash
    · exact buildSettlement_feeMonotone.of_runFrom_eq fun rate s =>
        runFrom_buildRedeem_of_match (verifyPreimage_eq_ok.mpr matching)
    · obtain ⟨e, kind, refused⟩ := buildRedeem_mismatch_refused destination utxos signer matching
      exact FeeMonotone.of_refused fun rate s => ⟨e, by rw [kind]; decide, refused rate s⟩
  case refund =>
    by_cases expired : r.lockHeight ≤ height
    · exact buildSettlement_feeMonotone.of_runFrom_eq fun rate s =>
        runFrom_buildRefund_of_expired (verifyLockExpired_eq_ok.mpr expired)
    · obtain ⟨e, kind, refused⟩ :=
        buildRefund_early_refused destination utxos signer (Nat.lt_of_not_le expired)
      exact FeeMonotone.of_refused fun rate s => ⟨e, by rw [kind]; decide, refused rate s⟩

theorem fee_overflow_refused_for_every_signer :
    ∀ (σ : Type) (signer : SignerIn (StateM σ)) (s : σ),
      (∃ e, e.kind = .insufficientFunds ∧
        runFrom (buildRedeem sampleRecord .zero sampleDestination 1000000 [sampleDeposit] signer) s =
          (.error e, s)) ∧
      ∃ e, e.kind = .invalidParameters ∧
        runFrom (buildRedeem sampleRecord .zero sampleDestination maxU64 [sampleDeposit] signer) s =
          (.error e, s) := by
  intro σ signer s
  have matching : verifyPreimage sampleRecord .zero = .ok () := verifyPreimage_eq_ok.mpr rfl
  have dust : OutputScript.minimalNonDust sampleDestination.scriptPubKey = 294 := by decide
  have total : ([sampleDeposit].map (·.amount)).sum = 100000 := rfl
  rw [runFrom_buildRedeem_of_match matching, runFrom_buildRedeem_of_match matching]
  refine ⟨(sampleRedeem_settlesValue signer 1000000).leaves_dust (by rw [total]; decide) (by decide)
      ?_ s, (sampleRedeem_settlesValue signer maxU64).fee_overflows (by rw [total]; decide) (by decide) s⟩
  rw [total, dust]
  decide

theorem fee_overflow_refused_as_invalid_parameters :
    (∃ e, e.kind = .insufficientFunds ∧
      runFrom (buildRedeem sampleRecord .zero sampleDestination 1000000 [sampleDeposit] sampleSigner)
        () = (.error e, ())) ∧
    ∃ e, e.kind = .invalidParameters ∧
      runFrom (buildRedeem sampleRecord .zero sampleDestination maxU64 [sampleDeposit] sampleSigner)
        () = (.error e, ()) :=
  fee_overflow_refused_for_every_signer Unit sampleSigner ()

end Rates

end SubmarineSwap
