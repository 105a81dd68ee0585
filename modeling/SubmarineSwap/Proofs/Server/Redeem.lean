import Mathlib
import SubmarineSwap.Server.Service
import SubmarineSwap.Proofs.Scan
import SubmarineSwap.Proofs.Server.Steps

namespace SubmarineSwap.Server

open Simulation NodeM

section Chain

theorem unspentOutputs_of_working {c : Chain} (working : c.unspentFailure = none) (a : Address)
    (fromHeight : Nat) :
    c.unspentOutputs a fromHeight = .ok ((c.outputs.filter fun o => !o.spent &&
      o.script == a.scriptPubKey && o.utxo.height ≥ fromHeight).map (·.utxo)) := by
  rw [Chain.unspentOutputs, working]

theorem scanAddress_unspentOutputs_eq_ok {c : Chain} {a : Address} {fromHeight : Nat}
    {utxos : List Utxo} (scanned : scanAddress c.unspentOutputs a fromHeight = .ok utxos) :
    c.unspentFailure = none ∧ utxos = scanResult ((c.outputs.filter fun o => !o.spent &&
      o.script == a.scriptPubKey && o.utxo.height ≥ fromHeight).map (·.utxo)) fromHeight := by
  cases working : c.unspentFailure with
  | some m => simp [scanAddress, Chain.unspentOutputs, working, scanAnswer] at scanned
  | none =>
    rw [scanAddress, unspentOutputs_of_working working] at scanned
    exact ⟨rfl, (Except.ok.inj scanned).symm⟩

theorem scanAddress_chain_eq_ok {c : Chain} {a : Address} {fromHeight : Nat} {utxos : List Utxo}
    (scanned : scanAddress c.unspentOutputs a fromHeight = .ok utxos) :
    ∀ u ∈ utxos, ∃ o ∈ c.outputs, o.utxo = u ∧ o.spent = false := by
  intro u member
  rw [(scanAddress_unspentOutputs_eq_ok scanned).2] at member
  obtain ⟨listed, -⟩ := mem_of_mem_scanResult member
  simp only [List.mem_map, List.mem_filter, Bool.and_eq_true, Bool.not_eq_eq_eq_not,
    Bool.not_true] at listed
  obtain ⟨o, ⟨held, ⟨unspent, -⟩, -⟩, rfl⟩ := listed
  exact ⟨o, held, rfl, unspent⟩

theorem Chain.confirm_eq_ok {c c' : Chain} {tx : Transaction} (confirmed : c.confirm tx = .ok c') :
    c'.confirmed = c.confirmed ++ [(tx, c.height)] := by
  simp only [Chain.confirm, bind, Except.bind] at confirmed
  split at confirmed
  · cases confirmed
  · simp only [pure, Except.pure, Except.ok.injEq] at confirmed
    rw [← confirmed]

theorem Site.broadcast_eq_ok_iff {s s' : Site} {tx : Transaction} :
    s.broadcast tx = .ok s' ↔ s.node.broadcastFailure = none ∧ ∃ c, s.chain.confirm tx = .ok c ∧
      s' = ⟨{ s.node with published := s.node.published ++ [tx.txid] }, c⟩ := by
  unfold Site.broadcast
  cases s.node.broadcastFailure with
  | some m => simp
  | none =>
    cases s.chain.confirm tx with
    | error why => simp
    | ok c => simp [eq_comm]

theorem Site.broadcast_eq_ok {s s' : Site} {tx : Transaction} (sent : s.broadcast tx = .ok s') :
    s.chain.confirm tx = .ok s'.chain := by
  obtain ⟨-, c, confirmed, rfl⟩ := Site.broadcast_eq_ok_iff.mp sent
  exact confirmed

theorem Wallet.newAddress_witnessPubKey_length {w w' : Wallet} {a : Address}
    (made : w.newAddress .witnessPubKey = .ok (a, w')) :
    a.scriptPubKey.length = witnessPubKeyPlaceholder.length := by
  simp only [Wallet.newAddress, bind, Except.bind] at made
  split at made
  · cases made
  · split at made
    · cases made
    · simp only [pure, Except.pure, Except.ok.injEq, Prod.mk.injEq] at made
      obtain ⟨rfl, -⟩ := made
      simp [Address.p2wpkh, Address.scriptPubKey, Hash.hash160, Hash.ripemd160_length,
        witnessPubKeyPlaceholder]

end Chain

section Operations

variable {s s' : Site} {satPerVbyte confTarget : Nat}

theorem run_redeemFees_eq_ok {hash : Bytes} {fee : Nat}
    (quoted : (redeemFees hash satPerVbyte confTarget).run s = .ok fee s') :
    ∃ h r rate utxos, parsePaymentHash hash = .ok h ∧ s.node.index.get h.bytes = .ok r ∧
      (resolveFeeRate satPerVbyte confTarget).run s = .ok rate s ∧
      scanAddress s.chain.unspentOutputs r.address r.creationHeight = .ok utxos ∧
      redeemFee r witnessPubKeyPlaceholder rate utxos = .ok fee := by
  simp only [redeemFees, NodeM.run_bind_eq_ok, NodeM.run_lift_eq_ok, NodeM.run_node, scanSwap,
    NodeM.run_get, EStateM.Result.ok.injEq, exists_and_left, existsAndEq, and_true,
    true_and] at quoted
  obtain ⟨h, parsed, r, found, -, -, rate, resolved, utxos, scanned, quote⟩ := quoted
  obtain rfl := run_resolveFeeRate_eq_ok resolved
  exact ⟨h, r, rate, utxos, parsed, found, resolved, scanned, quote⟩

theorem run_redeem_eq_ok {hash : Bytes} {txid : Txid}
    (redeemed : (redeem hash satPerVbyte confTarget).run s = .ok txid s') :
    ∃ h p, parsePaymentHash hash = .ok h ∧
      (redeemSwap h.bytes p satPerVbyte confTarget).run s = .ok txid s' := by
  simp only [redeem, NodeM.run_bind_eq_ok, NodeM.run_lift_eq_ok, NodeM.run_node,
    EStateM.Result.ok.injEq, existsAndEq, and_true, true_and] at redeemed
  obtain ⟨h, parsed, found, -, rest⟩ := redeemed
  cases found with
  | none => exact absurd rest NodeM.run_throw_ne_ok
  | some p => exact ⟨h, p, parsed, rest⟩

theorem run_redeemSwap_eq_ok {h : Bytes} {p : Preimage} {txid : Txid}
    (redeemed : (redeemSwap h p satPerVbyte confTarget).run s = .ok txid s') :
    ∃ r rate destination wallet, ∃ sign : Signer, ∃ st : Settlement,
      s.node.index.get h = .ok r ∧
      (resolveFeeRate satPerVbyte confTarget).run s = .ok rate s ∧
      s.node.wallet.newAddress .witnessPubKey = .ok (destination, wallet) ∧
      runId ((⟨s.chain.unspentOutputs⟩ : SettlementBuilder Id).buildRedeem r p destination rate
        sign) = .ok st ∧
      s.chain.confirm st.tx = .ok s'.chain ∧ txid = st.tx.txid := by
  simp only [redeemSwap, NodeM.run_bind_eq_ok, NodeM.run_lift_eq_ok, NodeM.run_node, NodeM.run_get,
    EStateM.Result.ok.injEq, existsAndEq, and_true, true_and] at redeemed
  obtain ⟨r, found, key, -, ⟨⟩, -, rate, s₁, resolved, destination, s₂, addressed, sign, s₃, signed,
    st, built, rest⟩ := redeemed
  obtain rfl := run_resolveFeeRate_eq_ok resolved
  obtain ⟨wallet, fresh, rfl⟩ := NodeM.run_withWallet_eq_ok addressed
  rw [NodeM.run_signer, EStateM.Result.ok.injEq] at signed
  obtain ⟨-, rfl⟩ := signed
  -- only a broadcast the chain accepts lets the redeem answer
  split at rest
  · rename_i published sent
    simp only [NodeM.run_bind_eq_ok, NodeM.run_set, NodeM.run_pure, EStateM.Result.ok.injEq,
      existsAndEq, true_and] at rest
    obtain ⟨-, rfl, rfl⟩ := rest
    have confirmed := Site.broadcast_eq_ok sent
    exact ⟨r, rate, destination, wallet, sign, st, found, resolved, fresh, built, confirmed, rfl⟩
  · exact absurd rest NodeM.run_throw_bind_ne_ok

end Operations

/-- The fee a redeem is quoted is the fee it pays. -/
theorem redeem_pays_quoted_fee :
    (∀ {σ : Type} (r : SwapRecord) (p : Preimage) (destination : Address) (script : Bytes)
        (rate : Nat) (utxos : List Utxo) (signer : SignerIn (StateM σ)) (s s' : σ)
        (st : Settlement),
      script.length = destination.scriptPubKey.length →
      runFrom (buildRedeem r p destination rate utxos signer) s = (.ok st, s') →
      redeemFee r script rate utxos = .ok st.fee) ∧
    (∀ (hash : Bytes) (satPerVbyte confTarget : Nat) (site quoted redeemed : Site) (fee : Nat)
        (txid : Txid),
      (redeemFees hash satPerVbyte confTarget).run site = .ok fee quoted →
      (redeem hash satPerVbyte confTarget).run site = .ok txid redeemed →
      ∃ (tx : Transaction) (spent : List Utxo),
        redeemed.chain.confirmed = site.chain.confirmed ++ [(tx, site.chain.height)] ∧
        tx.txid = txid ∧ tx.inputs.map (·.previousOutput) = spent.map (·.outpoint) ∧
        (∀ u ∈ spent, ∃ o ∈ site.chain.outputs, o.utxo = u ∧ o.spent = false) ∧
        (tx.outputs.map (·.value)).sum + fee = (spent.map (·.amount)).sum) := by
  refine ⟨fun r p destination script rate utxos signer s s' st same built =>
    redeemFee_of_buildRedeem same built, ?server⟩
  intro hash satPerVbyte confTarget site quoted redeemed fee txid quote redeemRun
  obtain ⟨h, r, rate, utxos, parsed, found, resolved, scanned, quotedFee⟩ :=
    run_redeemFees_eq_ok quote
  obtain ⟨h', p, parsed', swapped⟩ := run_redeem_eq_ok redeemRun
  obtain rfl : h = h' := Except.ok.inj (parsed.symm.trans parsed')
  obtain ⟨r', rate', destination, wallet, sign, st, found', resolved', fresh, built, confirmed, rfl⟩ :=
    run_redeemSwap_eq_ok swapped
  -- the redeem reads the quote's record and resolves the quote's rate on the same state
  obtain rfl : r = r' := Except.ok.inj (found.symm.trans found')
  obtain ⟨rfl, -⟩ := (EStateM.Result.ok.injEq _ _ _ _).mp (resolved.symm.trans resolved')
  obtain ⟨deposits, scan, settled⟩ := SettlementBuilder.runId_buildRedeem_eq_ok _ built
  -- and scans the quote's deposits
  have sameScan : scanAddress site.chain.unspentOutputs r.address r.creationHeight = .ok deposits :=
    scan
  obtain rfl : utxos = deposits := Except.ok.inj (scanned.symm.trans sameScan)
  obtain ⟨draft, made, paid, spends, conserves⟩ := runId_buildRedeem_eq_ok settled
  have quotedDraft := redeemFee_of_draftSettlement
    (Wallet.newAddress_witnessPubKey_length fresh).symm made
  obtain rfl : fee = draft.fee := Except.ok.inj (quotedFee.symm.trans quotedDraft)
  refine ⟨st.tx, utxos, Chain.confirm_eq_ok confirmed, rfl, spends,
    scanAddress_chain_eq_ok scanned, ?_⟩
  rw [← paid]
  exact conserves

end SubmarineSwap.Server
