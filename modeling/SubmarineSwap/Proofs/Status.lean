import Mathlib
import SubmarineSwap.Status
import SubmarineSwap.Proofs.Settlement.Built

namespace SubmarineSwap

open Secp256k1

section Inputs

variable {r : SwapRecord} {input : TxIn} {tx : Transaction}

theorem classifyInput_refund {sig : Bytes} (witnessed : input.witness = [sig, [], r.witnessScript]) :
    classifyInput r input = some .refund := by
  simp [classifyInput, witnessed]

theorem classifyInput_redeem {sig : Bytes} {p : Preimage} (matching : p.hash = r.hash)
    (witnessed : input.witness = [sig, p.bytes, r.witnessScript]) :
    classifyInput r input = some .redeem := by
  have nonempty : p.bytes ≠ [] := List.ne_nil_of_length_pos (by simp [p.length_eq, preimageSize])
  simp [classifyInput, witnessed, nonempty, p.length_eq, ← matching, Preimage.hash]

theorem classifyInput_eq_none (unrelated : ∀ sig sel, input.witness ≠ [sig, sel, r.witnessScript]) :
    classifyInput r input = none := by
  unfold classifyInput
  split
  · rename_i sig sel script witnessed
    have other : script ≠ r.witnessScript := fun same => unrelated sig sel (same ▸ witnessed)
    simp [other]
  · rfl

theorem classifySpend_of_forall {k : SettlementKind} (nonempty : tx.inputs ≠ [])
    (each : ∀ input ∈ tx.inputs, classifyInput r input = some k) : classifySpend r tx = some k := by
  obtain ⟨first, rest, inputs⟩ := List.exists_cons_of_ne_nil nonempty
  have firstSpends := each first (by simp [inputs])
  rw [classifySpend, inputs, List.findSome?_cons, firstSpends]

theorem classifySpend_eq_none
    (unrelated : ∀ input ∈ tx.inputs, ∀ sig sel, input.witness ≠ [sig, sel, r.witnessScript]) :
    classifySpend r tx = none :=
  List.findSome?_eq_none_iff.mpr fun input member => classifyInput_eq_none (unrelated input member)

end Inputs

section Settlements

variable {σ : Type} {r : SwapRecord} {path : SpendPath} {destination : Address} {rate : Nat}
  {utxos : List Utxo} {signer : SignerIn (StateM σ)} {s s' : σ} {st : Settlement}

theorem buildSettlement_inputs_witness
    (built : runFrom (buildSettlement r path destination rate utxos signer) s = (.ok st, s')) :
    st.tx.inputs ≠ [] ∧
      ∀ input ∈ st.tx.inputs, ∃ sig, input.witness = [sig, path.selector, r.witnessScript] := by
  obtain ⟨nonempty, sigs, nsigs, witnesses⟩ := buildSettlement_eq_ok_witnesses built
  constructor
  · intro noInputs
    have counted := congrArg List.length witnesses
    simp only [noInputs, List.map_nil, List.length_nil, List.length_map, nsigs] at counted
    exact nonempty (List.length_eq_zero_iff.mp counted.symm)
  · intro input member
    have listed : input.witness ∈ st.tx.inputs.map (·.witness) := List.mem_map_of_mem member
    rw [witnesses, List.mem_map] at listed
    obtain ⟨sig, -, same⟩ := listed
    exact ⟨_, same.symm⟩

theorem classifySpend_buildSettlement
    (built : runFrom (buildSettlement r path destination rate utxos signer) s = (.ok st, s'))
    (opens : ∀ p, path = .redeem p → p.hash = r.hash) :
    classifySpend r st.tx = some path.kind := by
  obtain ⟨nonempty, witnessed⟩ := buildSettlement_inputs_witness built
  apply classifySpend_of_forall nonempty
  intro input member
  obtain ⟨sig, shape⟩ := witnessed input member
  cases path with
  | redeem p => exact classifyInput_redeem (opens p rfl) shape
  | refund => exact classifyInput_refund shape

theorem classifySpend_buildSettlement_other {r' : SwapRecord}
    (built : runFrom (buildSettlement r path destination rate utxos signer) s = (.ok st, s'))
    (other : r'.witnessScript ≠ r.witnessScript) : classifySpend r' st.tx = none := by
  apply classifySpend_eq_none
  intro input member sig sel shape
  obtain ⟨_, witnessed⟩ := (buildSettlement_inputs_witness built).2 input member
  rw [witnessed, List.cons.injEq, List.cons.injEq, List.cons.injEq] at shape
  exact other shape.2.2.1.symm

end Settlements

/-- The classifier reads every settlement as the path it was built for. -/
theorem settlement_classified_as_built {σ : Type} (r : SwapRecord) (destination : Address)
    (rate : Nat) (utxos : List Utxo) (signer : SignerIn (StateM σ)) (s s' : σ) (st : Settlement) :
    (∀ p : Preimage, runFrom (buildRedeem r p destination rate utxos signer) s = (.ok st, s') →
      classifySpend r st.tx = some .redeem ∧
        ∀ r' : SwapRecord, r'.witnessScript ≠ r.witnessScript → classifySpend r' st.tx = none) ∧
    (∀ height, runFrom (buildRefund r destination rate height utxos signer) s = (.ok st, s') →
      classifySpend r st.tx = some .refund ∧
        ∀ r' : SwapRecord, r'.witnessScript ≠ r.witnessScript → classifySpend r' st.tx = none) ∧
    (∀ tx : Transaction,
      (∀ input ∈ tx.inputs, ∀ sig sel, input.witness ≠ [sig, sel, r.witnessScript]) →
      classifySpend r tx = none) := by
  refine ⟨?redeem, ?refund, fun tx unrelated => classifySpend_eq_none unrelated⟩
  case redeem =>
    intro p built
    rcases gate : verifyPreimage r p with e | ⟨⟩
    · rw [runFrom_buildRedeem_of_mismatch gate] at built
      cases built
    · rw [runFrom_buildRedeem_of_match gate] at built
      have matching := verifyPreimage_eq_ok.mp gate
      refine ⟨classifySpend_buildSettlement built ?_, fun r' other =>
        classifySpend_buildSettlement_other built other⟩
      rintro q ⟨⟩
      exact matching
  case refund =>
    intro height built
    rcases gate : verifyLockExpired r height with e | ⟨⟩
    · rw [runFrom_buildRefund_of_early gate] at built
      cases built
    · rw [runFrom_buildRefund_of_expired gate] at built
      exact ⟨classifySpend_buildSettlement built (by simp), fun r' other =>
        classifySpend_buildSettlement_other built other⟩

section Status

variable {r : SwapRecord} {unspent : List Utxo} {spends : List Transaction} {st : SwapStatus}

def SwapStatus.ofSettlement : SettlementKind → Txid → SwapStatus
  | .redeem, txid => .redeemed txid
  | .refund, txid => .refunded txid

@[simp] theorem SwapStatus.isSettled_ofSettlement (k : SettlementKind) (txid : Txid) :
    (SwapStatus.ofSettlement k txid).isSettled = true := by
  cases k <;> rfl

theorem swapStatus_cons_of_settles {t : Transaction} {k : SettlementKind}
    (settles : classifySpend r t = some k) (rest : List Transaction) :
    swapStatus r unspent (t :: rest) = .ok (.ofSettlement k t.txid) := by
  cases k <;> simp [swapStatus, settles, SwapStatus.ofSettlement]

theorem swapStatus_append_of_unsettled {pre : List Transaction}
    (unsettled : ∀ tx ∈ pre, classifySpend r tx = none) (rest : List Transaction) :
    swapStatus r unspent (pre ++ rest) = swapStatus r unspent rest := by
  have skipped : pre.findSome? (fun tx => (classifySpend r tx).map fun k => (k, tx.txid)) = none :=
    List.findSome?_eq_none_iff.mpr fun tx member => by simp [unsettled tx member]
  simp only [swapStatus, List.findSome?_append, skipped, Option.none_or]

theorem swapStatus_of_first_settling {pre post : List Transaction} {t : Transaction}
    {k : SettlementKind} (before : ∀ tx ∈ pre, classifySpend r tx = none)
    (settles : classifySpend r t = some k) :
    swapStatus r unspent (pre ++ t :: post) = .ok (.ofSettlement k t.txid) := by
  rw [swapStatus_append_of_unsettled before, swapStatus_cons_of_settles settles]

theorem swapStatus_of_unsettled (unsettled : ∀ tx ∈ spends, classifySpend r tx = none) :
    swapStatus r unspent spends =
      if unspent = [] then .ok .initialized
      else if (unspent.map (·.amount)).sum ≤ maxU64 then .ok (.funded (unspent.map (·.amount)).sum)
      else .error (.raise .transaction "total UTXO amount overflows") := by
  rw [← List.append_nil spends, swapStatus_append_of_unsettled unsettled]
  by_cases empty : unspent = []
  · simp [swapStatus, empty]
  · by_cases fits : (unspent.map (·.amount)).sum ≤ maxU64 <;>
      simp [swapStatus, empty, fits, totalAmount_eq]

theorem exists_first_settling (settled : swapStatus r unspent spends = .ok st)
    (isSettled : st.isSettled) :
    ∃ pre t post k, spends = pre ++ t :: post ∧ (∀ tx ∈ pre, classifySpend r tx = none) ∧
      classifySpend r t = some k ∧ st = .ofSettlement k t.txid := by
  cases found : spends.findSome? (fun tx => (classifySpend r tx).map fun k => (k, tx.txid)) with
  | none =>
    -- no settling spend: the status is initialized, funded or refused, never settled
    have unsettled : ∀ tx ∈ spends, classifySpend r tx = none := fun tx member => by
      simpa using List.findSome?_eq_none_iff.mp found tx member
    rw [swapStatus_of_unsettled unsettled] at settled
    split_ifs at settled <;> cases settled <;> cases isSettled
  | some first =>
    obtain ⟨pre, t, post, split, reads, before⟩ := List.findSome?_eq_some_iff.mp found
    obtain ⟨k, settles, rfl⟩ := Option.map_eq_some_iff.mp reads
    have unsettled : ∀ tx ∈ pre, classifySpend r tx = none := fun tx member => by
      simpa using before tx member
    rw [split, swapStatus_of_first_settling unsettled settles, Except.ok.injEq] at settled
    exact ⟨pre, t, post, k, split, unsettled, settles, settled.symm⟩

theorem swapStatus_append_of_settled (settled : swapStatus r unspent spends = .ok st)
    (isSettled : st.isSettled) (unspent' : List Utxo) (later : List Transaction) :
    swapStatus r unspent' (spends ++ later) = .ok st := by
  obtain ⟨pre, t, post, k, rfl, before, settles, rfl⟩ := exists_first_settling settled isSettled
  rw [List.append_assoc, List.cons_append]
  exact swapStatus_of_first_settling before settles

end Status

/-- The first settling spend decides the status, so a settled status is absorbing. -/
theorem swap_status_settled_absorbing (r : SwapRecord) :
    (∀ (unspent : List Utxo) (pre post : List Transaction) (t : Transaction),
      (∀ tx ∈ pre, classifySpend r tx = none) →
        (classifySpend r t = some .redeem →
          swapStatus r unspent (pre ++ t :: post) = .ok (.redeemed t.txid)) ∧
        (classifySpend r t = some .refund →
          swapStatus r unspent (pre ++ t :: post) = .ok (.refunded t.txid))) ∧
    (∀ (unspent : List Utxo) (spends : List Transaction),
      (∀ tx ∈ spends, classifySpend r tx = none) →
        (swapStatus r unspent spends = .ok .initialized ↔ unspent = []) ∧
        (unspent ≠ [] → (unspent.map (·.amount)).sum ≤ maxU64 →
          swapStatus r unspent spends = .ok (.funded (unspent.map (·.amount)).sum)) ∧
        (maxU64 < (unspent.map (·.amount)).sum →
          swapStatus r unspent spends = .error (.raise .transaction "total UTXO amount overflows"))) ∧
    (∀ (unspent : List Utxo) (spends : List Transaction) (st : SwapStatus),
      swapStatus r unspent spends = .ok st → st.isSettled →
        ∀ (unspent' : List Utxo) (later : List Transaction),
          swapStatus r unspent' (spends ++ later) = .ok st) := by
  refine ⟨?first, ?unsettled, ?absorbing⟩
  case first =>
    intro unspent pre post t before
    exact ⟨swapStatus_of_first_settling before, swapStatus_of_first_settling before⟩
  case unsettled =>
    intro unspent spends unsettled
    rw [swapStatus_of_unsettled unsettled]
    refine ⟨?_, fun nonempty fits => by simp [nonempty, fits], fun overflow => ?_⟩
    · by_cases empty : unspent = []
      · simp [empty]
      · -- a nonempty list is funded or refused, never initialized
        by_cases fits : (unspent.map (·.amount)).sum ≤ maxU64 <;> simp [empty, fits]
    · -- an overflowing total has a deposit, so the list is not empty
      have nonempty : unspent ≠ [] := by
        rintro rfl
        simp [maxU64] at overflow
      simp [nonempty, Nat.not_le.mpr overflow]
  case absorbing =>
    intro unspent spends st settled isSettled unspent' later
    exact swapStatus_append_of_settled settled isSettled unspent' later

end SubmarineSwap
