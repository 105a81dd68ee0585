import Mathlib
import SubmarineSwap.Settlement
import SubmarineSwap.Proofs.Secp256k1.Ecdsa

namespace SubmarineSwap

open Secp256k1

section Runs

variable {σ α β : Type}

def runFrom (x : ExceptT Error (StateM σ) α) (s : σ) : Except Error α × σ := x.run.run s

theorem runFrom_bind (x : ExceptT Error (StateM σ) α) (f : α → ExceptT Error (StateM σ) β)
    (s : σ) :
    runFrom (x >>= f) s = match runFrom x s with
      | (.ok a, s') => runFrom (f a) s'
      | (.error e, s') => (.error e, s') := by
  rw [runFrom, ExceptT.run_bind, StateT.run_bind]
  rcases h : runFrom x s with ⟨_ | a, s'⟩ <;> simp only [runFrom] at h <;> rw [h] <;> rfl

theorem runFrom_bind_eq_ok {x : ExceptT Error (StateM σ) α} {f : α → ExceptT Error (StateM σ) β}
    {s s'' : σ} {b : β} :
    runFrom (x >>= f) s = (.ok b, s'') ↔
      ∃ a s', runFrom x s = (.ok a, s') ∧ runFrom (f a) s' = (.ok b, s'') := by
  rw [runFrom_bind]
  rcases runFrom x s with ⟨_ | a, s'⟩ <;> simp

@[simp] theorem runFrom_liftExcept (x : Except Error α) (s : σ) :
    runFrom (monadLift x : ExceptT Error (StateM σ) α) s = (x, s) := rfl

@[simp] theorem runFrom_pure (a : α) (s : σ) :
    runFrom (pure a : ExceptT Error (StateM σ) α) s = (.ok a, s) := rfl

end Runs

namespace Transaction

theorem map_inputs_withWitnesses {β : Type} (g : TxIn → β)
    (keeps : ∀ i w, g { i with witness := w } = g i) (tx : Transaction) (ws : List (List Bytes))
    (enough : tx.inputs.length ≤ ws.length) :
    (tx.withWitnesses ws).inputs.map g = tx.inputs.map g := by
  simp only [withWitnesses, List.map_map]
  conv_rhs => rw [← List.map_fst_zip enough, List.map_map]
  apply List.map_congr_left
  rintro ⟨i, w⟩ -
  exact keeps i w

@[simp] theorem withWitnesses_version (tx : Transaction) (ws : List (List Bytes)) :
    (tx.withWitnesses ws).version = tx.version := rfl

@[simp] theorem withWitnesses_outputs (tx : Transaction) (ws : List (List Bytes)) :
    (tx.withWitnesses ws).outputs = tx.outputs := rfl

@[simp] theorem withWitnesses_lockTime (tx : Transaction) (ws : List (List Bytes)) :
    (tx.withWitnesses ws).lockTime = tx.lockTime := rfl

def TxIn.committed (i : TxIn) : OutPoint × Nat := (i.previousOutput, i.sequence)

theorem segwitSighash_withWitnesses (tx : Transaction) (ws : List (List Bytes))
    (enough : tx.inputs.length ≤ ws.length) :
    (tx.withWitnesses ws).segwitSighash = tx.segwitSighash := by
  have same := map_inputs_withWitnesses TxIn.committed (fun _ _ => rfl) tx ws enough
  have outpoints : ∀ l : List TxIn, l.flatMap (fun i => encodeOutPoint i.previousOutput) =
      (l.map TxIn.committed).flatMap (fun c => encodeOutPoint c.1) := fun l =>
    (List.flatMap_map TxIn.committed (fun c => encodeOutPoint c.1) l).symm
  have sequences : ∀ l : List TxIn, l.flatMap (fun i => Bytes.u32 i.sequence) =
      (l.map TxIn.committed).flatMap (fun c => Bytes.u32 c.2) := fun l =>
    (List.flatMap_map TxIn.committed (fun c => Bytes.u32 c.2) l).symm
  funext index scriptCode amount
  have input := congrArg (·[index]?) same
  simp only [List.getElem?_map] at input
  simp only [segwitSighash, outpoints, sequences, same, withWitnesses_version,
    withWitnesses_outputs, withWitnesses_lockTime]
  cases h : tx.inputs[index]? <;> cases h' : (tx.withWitnesses ws).inputs[index]? <;>
    simp only [h, h', Option.map_none, Option.map_some, reduceCtorEq, Option.some.injEq] at input
  · rfl
  · simp only [TxIn.committed, Prod.mk.injEq] at input
    simp [input.1, input.2]

theorem segwitSighash_isSome {tx : Transaction} {index : Nat} (h : index < tx.inputs.length)
    (scriptCode : Bytes) (amount : Nat) : ∃ msg, tx.segwitSighash index scriptCode amount = some msg := by
  simp [segwitSighash, List.getElem?_eq_getElem h]

theorem witness_withWitnesses {tx : Transaction} {ws : List (List Bytes)} {i : Nat}
    (h : i < tx.inputs.length) :
    ((tx.withWitnesses ws).inputs[i]?).map (·.witness) = ws[i]? := by
  simp only [withWitnesses, List.getElem?_map, List.zip_eq_zipWith, List.getElem?_zipWith,
    List.getElem?_eq_getElem h]
  cases ws[i]? <;> rfl

end Transaction

section Signing

variable {σ : Type} {r : SwapRecord} {path : SpendPath} {tx : Transaction}
  {signer : SignerIn (StateM σ)} {index : Nat} {utxo : Utxo} {s s' : σ}

theorem segwitSighash_eq_inputMessage (h : index < tx.inputs.length) :
    tx.segwitSighash index r.witnessScript utxo.amount = some (inputMessage r tx index utxo) := by
  obtain ⟨msg, hashed⟩ := Transaction.segwitSighash_isSome h r.witnessScript utxo.amount
  simp [inputMessage, hashed]

theorem runFrom_signInput_of_signer_error {e : Error}
    (answer : runFrom (signer (inputMessage r tx index utxo)) s = (.error e, s')) :
    runFrom (signInput r path tx signer index utxo) s =
      (.error (.context s!"failed to sign input {utxo.outpoint.toText}" e), s') := by
  replace answer : StateT.run (signer (inputMessage r tx index utxo)) s = (.error e, s') := answer
  simp only [signInput, runFrom]
  rw [ExceptT.run_bind, StateT.run_bind]
  simp only [ExceptT.run_mk, StateT.run_map, answer]
  rfl

theorem runFrom_signInput_of_signer_ok {sig : Signature}
    (answer : runFrom (signer (inputMessage r tx index utxo)) s = (.ok sig, s')) :
    runFrom (signInput r path tx signer index utxo) s =
      (if verify (path.signerKey r) (inputMessage r tx index utxo) sig then
        .ok [sig.der ++ [1], path.selector, r.witnessScript]
      else .error (.context s!"failed to verify own signature for input {index}"
        (.raise .signing "signature failed verification")), s') := by
  replace answer : StateT.run (signer (inputMessage r tx index utxo)) s = (.ok sig, s') := answer
  simp only [signInput, runFrom]
  rw [ExceptT.run_bind, StateT.run_bind]
  simp only [ExceptT.run_mk, StateT.run_map, answer]
  show StateT.run (ExceptT.run (if verify (path.signerKey r) _ sig = true then _ else _)) s' = _
  by_cases valid : verify (path.signerKey r) (inputMessage r tx index utxo) sig
  · simp only [valid, ↓reduceIte]
    rfl
  · simp only [valid, ↓reduceIte, Bool.false_eq_true]
    rfl

theorem runFrom_signInput_eq_ok {w : List Bytes} :
    runFrom (signInput r path tx signer index utxo) s = (.ok w, s') ↔
      ∃ sig, runFrom (signer (inputMessage r tx index utxo)) s = (.ok sig, s') ∧
        verify (path.signerKey r) (inputMessage r tx index utxo) sig ∧
        w = [sig.der ++ [1], path.selector, r.witnessScript] := by
  rcases answer : runFrom (signer (inputMessage r tx index utxo)) s with ⟨_ | sig, s₁⟩
  · simp [runFrom_signInput_of_signer_error answer]
  · rw [runFrom_signInput_of_signer_ok answer]
    by_cases valid : verify (path.signerKey r) (inputMessage r tx index utxo) sig
    · simp only [valid, ↓reduceIte, Prod.mk.injEq, Except.ok.injEq]
      constructor
      · rintro ⟨rfl, rfl⟩
        exact ⟨sig, ⟨rfl, rfl⟩, valid, rfl⟩
      · rintro ⟨_, ⟨rfl, rfl⟩, -, rfl⟩
        exact ⟨rfl, rfl⟩
    · simp [valid]

theorem signInputs_nil {m : Type → Type} [Monad m] {signer : SignerIn m} (first : Nat) :
    signInputs r path tx signer [] first = pure [] := rfl

theorem signInputs_cons {m : Type → Type} [Monad m] [LawfulMonad m] {signer : SignerIn m}
    (u : Utxo) (us : List Utxo) (first : Nat) :
    signInputs r path tx signer (u :: us) first = (do
      let w ← signInput r path tx signer first u
      let ws ← signInputs r path tx signer us (first + 1)
      pure (w :: ws)) := by
  simp [signInputs, List.zipIdx_cons, List.mapM_cons]

/-- A signer that, from every state, answers every message with a signature that verifies under
`key`. -/
def SignsValidly (signer : SignerIn (StateM σ)) (key : PublicKey) : Prop :=
  ∀ msg s, ∃ sig s', runFrom (signer msg) s = (.ok sig, s') ∧ verify key msg sig

/-- Every secret key answers every digest with a signature that its public key verifies. -/
theorem keySigner_verifies (sk : SecretKey) (msg : Bytes) :
    ∃ sig, keySigner sk msg = .ok sig ∧ verify sk.publicKey msg sig = true := by
  obtain ⟨sig, signed, verifies⟩ := verify_sign sk msg
  refine ⟨sig, ?_, verifies⟩
  show (sign sk msg).elim _ Except.ok = _
  rw [signed]
  rfl

/-- The signer of a secret key, in any state: it never touches the state. -/
theorem keySigner_signsValidly (sk : SecretKey) :
    SignsValidly (fun msg => (pure (keySigner sk msg) : StateM σ _)) sk.publicKey := by
  intro msg s
  obtain ⟨sig, signed, verifies⟩ := keySigner_verifies sk msg
  refine ⟨sig, s, ?_, verifies⟩
  show StateT.run (pure (keySigner sk msg) : StateM σ _) s = _
  rw [signed]
  rfl

theorem signInputs_succeed (valid : SignsValidly signer (path.signerKey r)) (utxos : List Utxo)
    (first : Nat) (s : σ) :
    ∃ ws s', runFrom (signInputs r path tx signer utxos first) s = (.ok ws, s') := by
  induction utxos generalizing first s with
  | nil => exact ⟨[], s, rfl⟩
  | cons u us ih =>
    obtain ⟨sig, s₁, answer, verifies⟩ := valid (inputMessage r tx first u) s
    have step : runFrom (signInput r path tx signer first u) s =
        (.ok [sig.der ++ [1], path.selector, r.witnessScript], s₁) :=
      runFrom_signInput_eq_ok.mpr ⟨sig, answer, verifies, rfl⟩
    obtain ⟨ws, s', rest⟩ := ih (first + 1) s₁
    refine ⟨[sig.der ++ [1], path.selector, r.witnessScript] :: ws, s', ?_⟩
    rw [signInputs_cons, runFrom_bind, step]
    simp only [runFrom_bind, rest, runFrom_pure]

theorem length_of_signInputs_ok {utxos : List Utxo} {first : Nat} {ws : List (List Bytes)}
    (signed : runFrom (signInputs r path tx signer utxos first) s = (.ok ws, s')) :
    ws.length = utxos.length := by
  induction utxos generalizing first s ws with
  | nil =>
    simp only [signInputs_nil, runFrom_pure, Prod.mk.injEq, Except.ok.injEq] at signed
    simp [← signed.1]
  | cons u us ih =>
    rw [signInputs_cons] at signed
    obtain ⟨w, s₁, -, rest⟩ := runFrom_bind_eq_ok.mp signed
    obtain ⟨ws', s₂, restSigned, done⟩ := runFrom_bind_eq_ok.mp rest
    simp only [runFrom_pure, Prod.mk.injEq, Except.ok.injEq] at done
    obtain ⟨rfl, rfl⟩ := done
    simp [ih restSigned]

end Signing

section Recording

variable {σ : Type}

abbrev CallLog := List (Bytes × Except Error Signature)

/-- The signer that answers as `signer` does and also appends each message and its answer to a
log kept beside the signer's own state. -/
def recordCalls (signer : SignerIn (StateM σ)) : SignerIn (StateM (σ × CallLog)) := fun msg => do
  let (s, log) ← get
  let (answer, s') := runFrom (signer msg) s
  set (s', log ++ [(msg, answer)])
  pure answer

theorem runFrom_recordCalls (signer : SignerIn (StateM σ)) (msg : Bytes) (s : σ) (log : CallLog) :
    runFrom (recordCalls signer msg) (s, log) =
      ((runFrom (signer msg) s).1, (runFrom (signer msg) s).2, log ++ [(msg, (runFrom (signer msg) s).1)]) :=
  rfl

variable {r : SwapRecord} {path : SpendPath} {tx : Transaction} {signer : SignerIn (StateM σ)}

theorem signInputs_recorded {utxos : List Utxo} {first : Nat} {ws : List (List Bytes)} {s s' : σ}
    {log log' : CallLog}
    (signed : runFrom (signInputs r path tx (recordCalls signer) utxos first) (s, log) =
      (.ok ws, (s', log'))) :
    ∃ calls, log' = log ++ calls ∧ calls.length = utxos.length ∧ ws.length = utxos.length ∧
      ∀ i (h : i < utxos.length), ∃ sig,
        calls[i]? = some (inputMessage r tx (first + i) utxos[i], .ok sig) ∧
        verify (path.signerKey r) (inputMessage r tx (first + i) utxos[i]) sig ∧
        ws[i]? = some [sig.der ++ [1], path.selector, r.witnessScript] := by
  -- induction on the deposits, from any first input and any log so far
  induction utxos generalizing first s log ws with
  | nil =>
    simp only [signInputs_nil, runFrom_pure, Prod.mk.injEq, Except.ok.injEq] at signed
    obtain ⟨rfl, -, rfl⟩ := signed
    exact ⟨[], by simp, rfl, rfl, fun i h => absurd h (Nat.not_lt_zero i)⟩
  | cons u us ih =>
    rw [signInputs_cons] at signed
    obtain ⟨w, ⟨s₁, log₁⟩, step, rest⟩ := runFrom_bind_eq_ok.mp signed
    obtain ⟨sig, answer, verifies, rfl⟩ := runFrom_signInput_eq_ok.mp step
    rw [runFrom_recordCalls] at answer
    simp only [Prod.mk.injEq] at answer
    obtain ⟨answered, -, logged⟩ := answer
    obtain ⟨ws', s₂, restSigned, done⟩ := runFrom_bind_eq_ok.mp rest
    simp only [runFrom_pure, Prod.mk.injEq, Except.ok.injEq] at done
    obtain ⟨rfl, rfl⟩ := done
    obtain ⟨calls, rfl, ncalls, nws, later⟩ := ih restSigned
    refine ⟨(inputMessage r tx first u, .ok sig) :: calls, ?_, by simp [ncalls], by simp [nws], ?_⟩
    · rw [← logged, answered]
      simp
    · intro i h
      cases i with
      | zero => exact ⟨sig, by simp, verifies, by simp⟩
      | succ i =>
        obtain ⟨sig', called, verifies', witnessed⟩ := later i (by simpa using h)
        have shift : first + 1 + i = first + (i + 1) := by omega
        rw [shift] at called verifies'
        exact ⟨sig', by simpa using called, by simpa using verifies', by simpa using witnessed⟩

end Recording

section Build

variable {σ : Type} {r : SwapRecord} {path : SpendPath} {destination : Address} {rate : Nat}
  {utxos : List Utxo} {signer : SignerIn (StateM σ)} {s s' : σ}

theorem runFrom_buildSettlement_of_draft_error {e : Error}
    (refused : draftSettlement r path destination rate utxos = .error e) :
    runFrom (buildSettlement r path destination rate utxos signer) s = (.error e, s) := by
  simp only [buildSettlement, runFrom_bind, runFrom_liftExcept, refused]

theorem runFrom_buildSettlement_eq_ok {st : Settlement} :
    runFrom (buildSettlement r path destination rate utxos signer) s = (.ok st, s') ↔
      ∃ draft ws, draftSettlement r path destination rate utxos = .ok draft ∧
        runFrom (signInputs r path draft.tx signer utxos 0) s = (.ok ws, s') ∧
        st = ⟨draft.tx.withWitnesses ws, path.kind, draft.fee, utxos⟩ := by
  simp only [buildSettlement, runFrom_bind_eq_ok, runFrom_liftExcept, runFrom_pure, Prod.mk.injEq,
    Except.ok.injEq]
  constructor
  · rintro ⟨draft, _, ⟨made, rfl⟩, ws, _, signed, rfl, rfl⟩
    exact ⟨draft, ws, made, signed, rfl⟩
  · rintro ⟨draft, ws, made, signed, rfl⟩
    exact ⟨draft, s, ⟨made, rfl⟩, ws, s', signed, rfl, rfl⟩

theorem runFrom_buildRedeem_of_mismatch {p : Preimage} {e : Error}
    (mismatch : verifyPreimage r p = .error e) :
    runFrom (buildRedeem r p destination rate utxos signer) s = (.error e, s) := by
  simp only [buildRedeem, runFrom_bind, runFrom_liftExcept, mismatch]

theorem runFrom_buildRedeem_of_match {p : Preimage} (matching : verifyPreimage r p = .ok ()) :
    runFrom (buildRedeem r p destination rate utxos signer) s =
      runFrom (buildSettlement r (.redeem p) destination rate utxos signer) s := by
  simp only [buildRedeem, runFrom_bind, runFrom_liftExcept, matching]

theorem runFrom_buildRefund_of_early {height : Nat} {e : Error}
    (early : verifyLockExpired r height = .error e) :
    runFrom (buildRefund r destination rate height utxos signer) s = (.error e, s) := by
  simp only [buildRefund, runFrom_bind, runFrom_liftExcept, early]

theorem runFrom_buildRefund_of_expired {height : Nat} (expired : verifyLockExpired r height = .ok ()) :
    runFrom (buildRefund r destination rate height utxos signer) s =
      runFrom (buildSettlement r .refund destination rate utxos signer) s := by
  simp only [buildRefund, runFrom_bind, runFrom_liftExcept, expired]

variable (chain : SettlementBuilder (StateM σ))

theorem runFrom_scanSwap :
    runFrom (chain.scanSwap r) s =
      (scanAnswer r.address r.creationHeight (runFrom (chain.unspentOutputs r.address r.creationHeight) s).1,
        (runFrom (chain.unspentOutputs r.address r.creationHeight) s).2) := rfl

theorem SettlementBuilder.runFrom_buildRedeem_of_mismatch {p : Preimage} {e : Error}
    (mismatch : verifyPreimage r p = .error e) :
    runFrom (chain.buildRedeem r p destination rate signer) s = (.error e, s) := by
  simp only [SettlementBuilder.buildRedeem, runFrom_bind, runFrom_liftExcept, mismatch]

theorem SettlementBuilder.runFrom_buildRedeem_of_match {p : Preimage}
    (matching : verifyPreimage r p = .ok ()) :
    runFrom (chain.buildRedeem r p destination rate signer) s =
      runFrom (chain.scanSwap r >>= fun utxos =>
        SubmarineSwap.buildRedeem r p destination rate utxos signer) s := by
  simp only [SettlementBuilder.buildRedeem, runFrom_bind, runFrom_liftExcept, matching]

theorem SettlementBuilder.runFrom_buildRefund_of_early {height : Nat} {e : Error}
    (early : verifyLockExpired r height = .error e) :
    runFrom (chain.buildRefund r destination rate height signer) s = (.error e, s) := by
  simp only [SettlementBuilder.buildRefund, runFrom_bind, runFrom_liftExcept, early]

theorem SettlementBuilder.runFrom_buildRefund_of_expired {height : Nat}
    (expired : verifyLockExpired r height = .ok ()) :
    runFrom (chain.buildRefund r destination rate height signer) s =
      runFrom (chain.scanSwap r >>= fun utxos =>
        SubmarineSwap.buildRefund r destination rate height utxos signer) s := by
  simp only [SettlementBuilder.buildRefund, runFrom_bind, runFrom_liftExcept, expired]

end Build

end SubmarineSwap
