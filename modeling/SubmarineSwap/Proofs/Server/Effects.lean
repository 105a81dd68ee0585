import Mathlib
import SubmarineSwap.Proofs.Server.Store
import SubmarineSwap.Proofs.Swap.Lookup

namespace SubmarineSwap.Server

open Simulation NodeM

structure Broadcaster where
  failure : Option FailureMode
  published : List Txid

def Node.withBroadcaster (n : Node) (b : Broadcaster) : Node :=
  { n with broadcastFailure := b.failure, published := b.published }

def Site.withBroadcaster (s : Site) (b : Broadcaster) : Site := ⟨s.node.withBroadcaster b, s.chain⟩

def mapSite {α : Type} (f : Site → Site) : EStateM.Result Error Site α → EStateM.Result Error Site α
  | .ok a s => .ok a (f s)
  | .error e s => .error e (f s)

/-- A computation that does not call the broadcaster when run from `s`: run with any other
broadcaster, it gives the same answer and leaves the same site, with that broadcaster. -/
def NodeM.IgnoresBroadcasterAt {α : Type} (x : NodeM α) (s : Site) : Prop :=
  ∀ b, x.run (s.withBroadcaster b) = mapSite (·.withBroadcaster b) (x.run s)

def NodeM.IgnoresBroadcaster {α : Type} (x : NodeM α) : Prop :=
  ∀ s, x.IgnoresBroadcasterAt s

def Site.broadcaster (s : Site) : Broadcaster := ⟨s.node.broadcastFailure, s.node.published⟩

@[simp] theorem Site.withBroadcaster_broadcaster (s : Site) : s.withBroadcaster s.broadcaster = s :=
  rfl

@[simp] theorem Site.published_withBroadcaster (s : Site) (b : Broadcaster) :
    (s.withBroadcaster b).node.published = b.published := rfl

namespace NodeM.IgnoresBroadcaster

variable {α β : Type}

theorem pure (a : α) : IgnoresBroadcaster (Pure.pure a : NodeM α) := fun _ _ => rfl

theorem throw (e : Error) : IgnoresBroadcaster (MonadExcept.throw e : NodeM α) := fun _ _ => rfl

theorem lift (r : Except Error α) : IgnoresBroadcaster (NodeM.lift r) := by
  cases r with
  | ok a => exact pure a
  | error e => exact throw e

theorem bind {x : NodeM α} {f : α → NodeM β} (first : IgnoresBroadcaster x)
    (rest : ∀ a, IgnoresBroadcaster (f a)) : IgnoresBroadcaster (x >>= f) := by
  intro s b
  rw [NodeM.run_bind, NodeM.run_bind, first s b]
  cases x.run s with
  | ok a s₁ => exact rest a s₁ b
  | error e s₁ => rfl

theorem throw_bind {f : α → NodeM β} (e : Error) : IgnoresBroadcaster (MonadExcept.throw e >>= f) :=
  fun _ _ => rfl

theorem get_bind {f : Site → NodeM α} (reads : ∀ s b, f (s.withBroadcaster b) = f s)
    (rest : ∀ s, IgnoresBroadcaster (f s)) : IgnoresBroadcaster (MonadState.get >>= f) := by
  intro s b
  show (f (s.withBroadcaster b)).run (s.withBroadcaster b) = mapSite _ ((f s).run s)
  rw [reads]
  exact rest s s b

theorem node_bind {f : Node → NodeM α} (reads : ∀ n b, f (n.withBroadcaster b) = f n)
    (rest : ∀ n, IgnoresBroadcaster (f n)) : IgnoresBroadcaster (NodeM.node >>= f) := by
  intro s b
  show (f (s.node.withBroadcaster b)).run (s.withBroadcaster b) = mapSite _ ((f s.node).run s)
  rw [reads]
  exact rest s.node s b

theorem modifyNode {g : Node → Node} (commutes : ∀ n b, g (n.withBroadcaster b) = (g n).withBroadcaster b) :
    IgnoresBroadcaster (NodeM.modifyNode g) := by
  intro s b
  show EStateM.Result.ok () (Site.mk (g (s.node.withBroadcaster b)) s.chain) =
    EStateM.Result.ok () (Site.mk ((g s.node).withBroadcaster b) s.chain)
  rw [commutes]

theorem withWallet (note : String) (call : Wallet → Except Error (α × Wallet)) :
    IgnoresBroadcaster (NodeM.withWallet note call) := by
  unfold NodeM.withWallet
  refine node_bind (fun _ _ => rfl) fun n => ?_
  split
  · exact bind (modifyNode fun _ _ => rfl) fun _ => pure _
  · exact throw _

theorem currentHeight : IgnoresBroadcaster NodeM.currentHeight :=
  get_bind (fun _ _ => rfl) fun _ => lift _

theorem scanSwap (r : SwapRecord) : IgnoresBroadcaster (NodeM.scanSwap r) :=
  get_bind (fun _ _ => rfl) fun _ => lift _

theorem spendingTransactions (r : SwapRecord) :
    IgnoresBroadcaster (NodeM.spendingTransactions r) := by
  refine get_bind (fun _ _ => rfl) fun s => ?_
  split
  · exact pure _
  · exact throw _

theorem resolveFeeRate (satPerVbyte confTarget : Nat) :
    IgnoresBroadcaster (NodeM.resolveFeeRate satPerVbyte confTarget) :=
  bind (lift _) fun _ => node_bind (fun _ _ => rfl) fun _ => lift _

theorem signer (key : String) : IgnoresBroadcaster (NodeM.signer key) :=
  node_bind (fun _ _ => rfl) fun _ => pure _

theorem locate (loc : SwapLocator) : IgnoresBroadcaster (NodeM.locate loc) := by
  cases loc with
  | hash h => exact node_bind (fun _ _ => rfl) fun _ => lift _
  | address a => exact node_bind (fun _ _ => rfl) fun _ => lift _

theorem putRecord (r : SwapRecord) : IgnoresBroadcaster (NodeM.putRecord r) :=
  node_bind (fun _ _ => rfl) fun _ => bind (lift _) fun _ => modifyNode fun _ _ => rfl

end NodeM.IgnoresBroadcaster

section Redeem

variable {satPerVbyte confTarget : Nat}

def redeemTarget (ix : SwapIndex) (h : Bytes) (p : Preimage) : Except Error (SwapRecord × String) := do
  let r ← ix.get h
  let key ← serviceKey r
  verifyPreimage r p
  pure (r, key)

def prepareRedeem (h : Bytes) (p : Preimage) (satPerVbyte confTarget : Nat) : NodeM Settlement := do
  let (r, key) ← lift (redeemTarget (← node).index h p)
  let rate ← resolveFeeRate satPerVbyte confTarget
  let destination ← withWallet "failed to get redeem address" (Wallet.newAddress · .witnessPubKey)
  let builder : SettlementBuilder Id := ⟨(← get).chain.unspentOutputs⟩
  lift (builder.buildRedeem r p destination rate (← signer key)).run

def publishRedeem (h : Bytes) (settlement : Settlement) : NodeM Txid := do
  match (← get).broadcast settlement.tx with
  | .ok s => set s
  | .error e =>
    throw (.context s!"failed to publish redeem of {Bytes.toHex h}"
      (if e.kind = .broadcast then e else .wrap .broadcast e))
  pure settlement.tx.txid

theorem redeemSwap_eq (h : Bytes) (p : Preimage) :
    redeemSwap h p satPerVbyte confTarget =
      prepareRedeem h p satPerVbyte confTarget >>= publishRedeem h := by
  simp only [redeemSwap, prepareRedeem, redeemTarget, NodeM.lift_bind, NodeM.lift_pure, bind_assoc,
    pure_bind]
  rfl

def findPreimage (hash : Bytes) : NodeM (PaymentHash × Preimage) := do
  let h ← lift (parsePaymentHash hash)
  let found ← lift (Error.withContext s!"failed to look up preimage for {Bytes.toHex h.bytes}"
    ((← node).lookUpPreimage h.bytes))
  match found with
  | some p => pure (h, p)
  | none => throw (.raise .notFound s!"no preimage known for hash {Bytes.toHex h.bytes}")

theorem redeem_eq (hash : Bytes) :
    redeem hash satPerVbyte confTarget =
      findPreimage hash >>= fun found => redeemSwap found.1.bytes found.2 satPerVbyte confTarget := by
  simp only [redeem, findPreimage, bind_assoc]
  congr
  funext h
  congr
  funext n
  congr
  funext found
  cases found with
  | some p => simp
  | none => rfl

end Redeem

section Publication

variable {satPerVbyte confTarget : Nat}

structure RedeemPlan where
  record : SwapRecord
  key : String
  rate : Nat
  destination : Address
  wallet : Wallet

structure RedeemPlan.Passed (plan : RedeemPlan) (s : Site) (h : Bytes) (p : Preimage)
    (satPerVbyte confTarget : Nat) (st : Settlement) (s₁ : Site) : Prop where
  found : s.node.index.get h = .ok plan.record
  service : serviceKey plan.record = .ok plan.key
  opens : p.hash = plan.record.hash
  feeRate : (resolveFeeRate satPerVbyte confTarget).run s = .ok plan.rate s
  address : s.node.wallet.newAddress .witnessPubKey = .ok (plan.destination, plan.wallet)
  built : runId ((⟨s.chain.unspentOutputs⟩ : SettlementBuilder Id).buildRedeem plan.record p
    plan.destination plan.rate fun msg => (plan.wallet.sign plan.key msg).mapError (.wrap .signing)) =
      .ok st
  left : s₁ = { s with node := { s.node with wallet := plan.wallet } }

def RedeemPassed (s : Site) (h : Bytes) (p : Preimage) (satPerVbyte confTarget : Nat)
    (st : Settlement) (s₁ : Site) : Prop :=
  ∃ plan : RedeemPlan, plan.Passed s h p satPerVbyte confTarget st s₁

theorem redeemTarget_eq_ok {ix : SwapIndex} {h : Bytes} {p : Preimage} {r : SwapRecord}
    {key : String} :
    redeemTarget ix h p = .ok (r, key) ↔ ix.get h = .ok r ∧ serviceKey r = .ok key ∧ p.hash = r.hash := by
  constructor
  · intro target
    simp only [redeemTarget, bind, Except.bind] at target
    split at target
    · cases target
    rename_i r' found
    split at target
    · cases target
    rename_i key' service
    split at target
    · cases target
    rename_i opens
    simp only [pure, Except.pure, Except.ok.injEq, Prod.mk.injEq] at target
    obtain ⟨rfl, rfl⟩ := target
    exact ⟨found, service, verifyPreimage_eq_ok.mp opens⟩
  · rintro ⟨found, service, opens⟩
    simp only [redeemTarget, found, bind, Except.bind, service, verifyPreimage_eq_ok.mpr opens]
    rfl

theorem run_prepareRedeem_eq_ok {h : Bytes} {p : Preimage} {st : Settlement} {s s₁ : Site}
    (prepared : (prepareRedeem h p satPerVbyte confTarget).run s = .ok st s₁) :
    RedeemPassed s h p satPerVbyte confTarget st s₁ := by
  simp only [prepareRedeem, NodeM.run_bind_eq_ok, NodeM.run_lift_eq_ok, NodeM.run_node,
    NodeM.run_get, EStateM.Result.ok.injEq, existsAndEq, and_true, true_and] at prepared
  obtain ⟨⟨r, key⟩, target, rate, s₂, resolved, destination, s₃, addressed, sign, signed, built⟩ :=
    prepared
  obtain ⟨found, service, opens⟩ := redeemTarget_eq_ok.mp target
  obtain rfl := run_resolveFeeRate_eq_ok resolved
  obtain ⟨w, fresh, rfl⟩ := NodeM.run_withWallet_eq_ok addressed
  rw [NodeM.run_signer, EStateM.Result.ok.injEq] at signed
  obtain ⟨rfl, rfl⟩ := signed
  exact ⟨⟨r, key, rate, destination, w⟩, found, service, opens, resolved, fresh, built, rfl⟩

theorem prepareRedeem_ignoresBroadcaster (h : Bytes) (p : Preimage) :
    (prepareRedeem h p satPerVbyte confTarget).IgnoresBroadcaster := by
  unfold prepareRedeem
  refine IgnoresBroadcaster.node_bind (fun _ _ => rfl) fun n => ?_
  apply IgnoresBroadcaster.bind (IgnoresBroadcaster.lift _); rintro ⟨r, key⟩
  apply IgnoresBroadcaster.bind (IgnoresBroadcaster.resolveFeeRate _ _); intro rate
  apply IgnoresBroadcaster.bind (IgnoresBroadcaster.withWallet _ _); intro destination
  -- the builder reads the chain's unspent outputs, which the broadcaster does not hold
  refine IgnoresBroadcaster.get_bind (fun _ _ => rfl) fun s => ?_
  apply IgnoresBroadcaster.bind (IgnoresBroadcaster.signer key); intro sign
  exact IgnoresBroadcaster.lift _

theorem findPreimage_ignoresBroadcaster (hash : Bytes) : (findPreimage hash).IgnoresBroadcaster := by
  unfold findPreimage
  apply IgnoresBroadcaster.bind (IgnoresBroadcaster.lift _); intro h
  refine IgnoresBroadcaster.node_bind (fun _ _ => rfl) fun n => ?_
  apply IgnoresBroadcaster.bind (IgnoresBroadcaster.lift _); intro found
  cases found with
  | some p => exact IgnoresBroadcaster.pure _
  | none => exact IgnoresBroadcaster.throw _

theorem run_findPreimage_eq_ok {hash : Bytes} {h : PaymentHash} {p : Preimage} {s s₁ : Site}
    (found : (findPreimage hash).run s = .ok (h, p) s₁) :
    parsePaymentHash hash = .ok h ∧ s.node.lookUpPreimage h.bytes = .ok (some p) ∧ s₁ = s := by
  simp only [findPreimage, NodeM.run_bind_eq_ok, NodeM.run_lift_eq_ok, NodeM.run_node,
    EStateM.Result.ok.injEq, existsAndEq, and_true, true_and, Error.withContext_eq_ok] at found
  obtain ⟨h', parsed, answer, looked, rest⟩ := found
  cases answer with
  | none => exact absurd rest NodeM.run_throw_ne_ok
  | some p' =>
    rw [NodeM.run_pure, EStateM.Result.ok.injEq, Prod.mk.injEq] at rest
    obtain ⟨⟨rfl, rfl⟩, rfl⟩ := rest
    exact ⟨parsed, looked, rfl⟩

theorem Site.broadcast_published {s s' : Site} {tx : Transaction} (sent : s.broadcast tx = .ok s') :
    s'.node.published = s.node.published ++ [tx.txid] := by
  obtain ⟨-, c, -, rfl⟩ := Site.broadcast_eq_ok_iff.mp sent
  rfl

theorem run_publishRedeem_of_ok {h : Bytes} {st : Settlement} {s s' : Site}
    (sent : s.broadcast st.tx = .ok s') : (publishRedeem h st).run s = .ok st.tx.txid s' := by
  simp only [publishRedeem, NodeM.run_bind, NodeM.run_get, sent]
  rfl

theorem run_publishRedeem_of_error {h : Bytes} {st : Settlement} {s : Site} {e : Error}
    (failed : s.broadcast st.tx = .error e) : ∃ e', (publishRedeem h st).run s = .error e' s := by
  simp only [publishRedeem, NodeM.run_bind, NodeM.run_get, failed]
  exact ⟨_, rfl⟩

/-- How a redeem from `s` ends: refused before the broadcaster is called, or decided by the one
broadcast of the settlement its checks built. -/
inductive RedeemOutcome (prepared : Settlement → Site → Prop) (x : NodeM Txid) (s : Site) : Prop
  | refused (e : Error) (s₁ : Site) (ran : x.run s = .error e s₁)
      (unheard : ∀ b, x.run (s.withBroadcaster b) = .error e (s₁.withBroadcaster b))
  | published (st : Settlement) (s₁ s₂ : Site) (passed : prepared st s₁)
      (sent : s₁.broadcast st.tx = .ok s₂) (ran : x.run s = .ok st.tx.txid s₂)
  | unpublished (st : Settlement) (s₁ : Site) (e : Error) (passed : prepared st s₁)
      (failed : s₁.broadcast st.tx = .error e) (ran : ∃ e', x.run s = .error e' s₁)

/-- What a run of a redeem from `s` leaves in the broadcaster's log: one more id, the one it
answers, when it answers; the log as it was when it fails. -/
def PublishesAnswer (x : NodeM Txid) (s : Site) : Prop :=
  (∀ txid s', x.run s = .ok txid s' → s'.node.published = s.node.published ++ [txid]) ∧
    ∀ e s', x.run s = .error e s' → s'.node.published = s.node.published

theorem publishRedeem_outcome (h : Bytes) (st : Settlement) (s : Site) :
    RedeemOutcome (fun st' s₁ => st' = st ∧ s₁ = s) (publishRedeem h st) s := by
  cases sent : s.broadcast st.tx with
  | ok s₂ => exact .published st s s₂ ⟨rfl, rfl⟩ sent (run_publishRedeem_of_ok sent)
  | error e => exact .unpublished st s e ⟨rfl, rfl⟩ sent (run_publishRedeem_of_error sent)

namespace RedeemOutcome

variable {α : Type} {prepared : Settlement → Site → Prop} {x : NodeM Txid} {s : Site}

theorem mono {prepared' : Settlement → Site → Prop} (outcome : RedeemOutcome prepared x s)
    (weaker : ∀ st s₁, prepared st s₁ → prepared' st s₁) : RedeemOutcome prepared' x s := by
  cases outcome with
  | refused e s₁ ran unheard => exact .refused e s₁ ran unheard
  | published st s₁ s₂ passed sent ran => exact .published st s₁ s₂ (weaker st s₁ passed) sent ran
  | unpublished st s₁ e passed failed ran => exact .unpublished st s₁ e (weaker st s₁ passed) failed ran

theorem bind {y : NodeM α} {f : α → NodeM Txid} {prepared : α → Site → Settlement → Site → Prop}
    (first : y.IgnoresBroadcaster)
    (rest : ∀ a s₁, y.run s = .ok a s₁ → RedeemOutcome (prepared a s₁) (f a) s₁) :
    RedeemOutcome (fun st s₂ => ∃ a s₁, y.run s = .ok a s₁ ∧ prepared a s₁ st s₂) (y >>= f) s := by
  cases ran : y.run s with
  | ok a s₁ =>
    have before : ∀ b, y.run (s.withBroadcaster b) = .ok a (s₁.withBroadcaster b) := fun b => by
      rw [first s b, ran]
      rfl
    cases rest a s₁ ran with
    | refused e s₂ failed unheard =>
      refine .refused e s₂ ?_ fun b => ?_
      · rw [NodeM.run_bind, ran]
        exact failed
      · rw [NodeM.run_bind, before b]
        exact unheard b
    | published st s₂ s₃ passed sent answered =>
      refine .published st s₂ s₃ ⟨a, s₁, rfl, passed⟩ sent ?_
      rw [NodeM.run_bind, ran]
      exact answered
    | unpublished st s₂ e passed failed answered =>
      refine .unpublished st s₂ e ⟨a, s₁, rfl, passed⟩ failed ?_
      rw [NodeM.run_bind, ran]
      exact answered
  | error e s₁ =>
    refine .refused e s₁ (NodeM.run_bind_of_error ran) fun b => NodeM.run_bind_of_error ?_
    rw [first s b, ran]
    rfl

theorem published_log (outcome : RedeemOutcome prepared x s)
    (keeps : ∀ st s₁, prepared st s₁ → s₁.node.published = s.node.published) :
    PublishesAnswer x s := by
  cases outcome with
  | refused e s₁ ran unheard =>
    have own := unheard s.broadcaster
    rw [Site.withBroadcaster_broadcaster, ran, EStateM.Result.error.injEq] at own
    refine ⟨fun txid s' answered => ?_, fun e' s' failed => ?_⟩
    · rw [ran] at answered
      cases answered
    rw [ran, EStateM.Result.error.injEq] at failed
    rw [← failed.2, own.2, Site.published_withBroadcaster]
    rfl
  | published st s₁ s₂ passed sent ran =>
    refine ⟨fun txid s' answered => ?_, fun e s' failed => ?_⟩
    · rw [ran, EStateM.Result.ok.injEq] at answered
      obtain ⟨rfl, rfl⟩ := answered
      rw [Site.broadcast_published sent, keeps st s₁ passed]
    rw [ran] at failed
    cases failed
  | unpublished st s₁ e passed failed ran =>
    obtain ⟨e', ran⟩ := ran
    refine ⟨fun txid s' answered => ?_, fun e'' s' refused => ?_⟩
    · rw [ran] at answered
      cases answered
    rw [ran, EStateM.Result.error.injEq] at refused
    rw [← refused.2, keeps st s₁ passed]

end RedeemOutcome

theorem RedeemPassed.published {s s₁ : Site} {h : Bytes} {p : Preimage} {st : Settlement}
    (passed : RedeemPassed s h p satPerVbyte confTarget st s₁) :
    s₁.node.published = s.node.published := by
  obtain ⟨plan, checks⟩ := passed
  rw [checks.left]

theorem redeemSwap_outcome (h : Bytes) (p : Preimage) (s : Site) :
    RedeemOutcome (RedeemPassed s h p satPerVbyte confTarget)
      (redeemSwap h p satPerVbyte confTarget) s := by
  rw [redeemSwap_eq]
  refine (RedeemOutcome.bind (prepareRedeem_ignoresBroadcaster h p)
    fun st s₁ _ => publishRedeem_outcome h st s₁).mono ?_
  rintro st s₂ ⟨_, s₁, prepared, rfl, rfl⟩
  exact run_prepareRedeem_eq_ok prepared

def RedeemFoundPassed (s : Site) (hash : Bytes) (satPerVbyte confTarget : Nat) (st : Settlement)
    (s₁ : Site) : Prop :=
  ∃ h p, parsePaymentHash hash = .ok h ∧ s.node.lookUpPreimage h.bytes = .ok (some p) ∧
    RedeemPassed s h.bytes p satPerVbyte confTarget st s₁

def RedeemGivenPassed (s : Site) (hash : Bytes) (p : Preimage) (satPerVbyte confTarget : Nat)
    (st : Settlement) (s₁ : Site) : Prop :=
  ∃ h, parsePaymentHash hash = .ok h ∧ RedeemPassed s h.bytes p satPerVbyte confTarget st s₁

theorem redeem_outcome (hash : Bytes) (s : Site) :
    RedeemOutcome (RedeemFoundPassed s hash satPerVbyte confTarget)
      (redeem hash satPerVbyte confTarget) s := by
  rw [redeem_eq]
  refine (RedeemOutcome.bind (findPreimage_ignoresBroadcaster hash)
    fun found s₁ _ => redeemSwap_outcome found.1.bytes found.2 s₁).mono ?_
  rintro st s₂ ⟨⟨h, p⟩, s₁, found, passed⟩
  obtain ⟨parsed, looked, rfl⟩ := run_findPreimage_eq_ok found
  exact ⟨h, p, parsed, looked, passed⟩

theorem redeemWithPreimage_outcome (hash : Bytes) (p : Preimage) (s : Site) :
    RedeemOutcome (RedeemGivenPassed s hash p satPerVbyte confTarget)
      (redeemWithPreimage hash p satPerVbyte confTarget) s := by
  unfold redeemWithPreimage
  refine (RedeemOutcome.bind (IgnoresBroadcaster.lift _)
    fun h s₁ _ => redeemSwap_outcome h.bytes p s₁).mono ?_
  rintro st s₂ ⟨h, s₁, lifted, passed⟩
  obtain ⟨parsed, rfl⟩ := NodeM.run_lift_eq_ok.mp lifted
  exact ⟨h, parsed, passed⟩

theorem RedeemFoundPassed.published {s s₁ : Site} {hash : Bytes} {st : Settlement}
    (passed : RedeemFoundPassed s hash satPerVbyte confTarget st s₁) :
    s₁.node.published = s.node.published := by
  obtain ⟨h, p, -, -, checks⟩ := passed
  exact checks.published

theorem RedeemGivenPassed.published {s s₁ : Site} {hash : Bytes} {p : Preimage} {st : Settlement}
    (passed : RedeemGivenPassed s hash p satPerVbyte confTarget st s₁) :
    s₁.node.published = s.node.published := by
  obtain ⟨h, -, checks⟩ := passed
  exact checks.published

end Publication

section Quiet

variable {satPerVbyte confTarget : Nat}

theorem refund_ignoresBroadcaster (deposit destination : String) :
    (refund deposit destination satPerVbyte confTarget).IgnoresBroadcaster := by
  unfold refund
  refine IgnoresBroadcaster.node_bind (fun _ _ => rfl) fun _ => ?_
  apply IgnoresBroadcaster.bind (IgnoresBroadcaster.lift _); intro _
  apply IgnoresBroadcaster.bind (IgnoresBroadcaster.lift _); intro _
  refine IgnoresBroadcaster.node_bind (fun _ _ => rfl) fun _ => ?_
  apply IgnoresBroadcaster.bind (IgnoresBroadcaster.lift _); intro r
  dsimp only
  -- only a swap of the client's own is refunded
  split
  case h_2 => exact IgnoresBroadcaster.throw_bind _
  apply IgnoresBroadcaster.bind (IgnoresBroadcaster.pure _); intro key
  apply IgnoresBroadcaster.bind IgnoresBroadcaster.currentHeight; intro _
  apply IgnoresBroadcaster.bind (IgnoresBroadcaster.lift _); intro _
  apply IgnoresBroadcaster.bind (IgnoresBroadcaster.resolveFeeRate _ _); intro _
  refine IgnoresBroadcaster.get_bind (fun _ _ => rfl) fun _ => ?_
  apply IgnoresBroadcaster.bind (IgnoresBroadcaster.signer key); intro _
  apply IgnoresBroadcaster.bind (IgnoresBroadcaster.lift _); intro _
  exact IgnoresBroadcaster.pure _

theorem redeemFees_ignoresBroadcaster (hash : Bytes) :
    (redeemFees hash satPerVbyte confTarget).IgnoresBroadcaster := by
  unfold redeemFees
  apply IgnoresBroadcaster.bind (IgnoresBroadcaster.lift _); intro _
  refine IgnoresBroadcaster.node_bind (fun _ _ => rfl) fun _ => ?_
  apply IgnoresBroadcaster.bind (IgnoresBroadcaster.lift _); intro r
  apply IgnoresBroadcaster.bind (IgnoresBroadcaster.lift _); intro _
  apply IgnoresBroadcaster.bind (IgnoresBroadcaster.resolveFeeRate _ _); intro _
  apply IgnoresBroadcaster.bind (IgnoresBroadcaster.scanSwap r); intro _
  exact IgnoresBroadcaster.lift _

theorem unspentAmount_ignoresBroadcaster (loc : SwapLocator) :
    (unspentAmount loc).IgnoresBroadcaster := by
  unfold unspentAmount
  apply IgnoresBroadcaster.bind (IgnoresBroadcaster.locate loc); intro r
  apply IgnoresBroadcaster.bind (IgnoresBroadcaster.scanSwap r); intro _
  apply IgnoresBroadcaster.bind (IgnoresBroadcaster.lift _); intro _
  exact IgnoresBroadcaster.pure _

theorem status_ignoresBroadcaster (loc : SwapLocator) : (status loc).IgnoresBroadcaster := by
  unfold status
  apply IgnoresBroadcaster.bind (IgnoresBroadcaster.locate loc); intro r
  apply IgnoresBroadcaster.bind (IgnoresBroadcaster.scanSwap r); intro _
  apply IgnoresBroadcaster.bind (IgnoresBroadcaster.spendingTransactions r); intro _
  exact IgnoresBroadcaster.lift _

theorem clientWatch_ignoresBroadcaster (p : Preimage) (key : String) (serviceKey : Bytes)
    (lock : Nat) : (clientWatch p key serviceKey lock).IgnoresBroadcaster := by
  unfold clientWatch
  apply IgnoresBroadcaster.bind (IgnoresBroadcaster.lift _); intro _
  refine IgnoresBroadcaster.node_bind (fun _ _ => rfl) fun _ => ?_
  apply IgnoresBroadcaster.bind (IgnoresBroadcaster.lift _); intro _
  apply IgnoresBroadcaster.bind IgnoresBroadcaster.currentHeight; intro _
  refine IgnoresBroadcaster.node_bind (fun _ _ => rfl) fun _ => ?_
  dsimp only
  -- a lock too far ahead is refused before anything is recorded
  split
  · exact IgnoresBroadcaster.throw_bind _
  apply IgnoresBroadcaster.bind (IgnoresBroadcaster.lift _); intro _
  apply IgnoresBroadcaster.bind (IgnoresBroadcaster.lift _); intro r
  apply IgnoresBroadcaster.bind (IgnoresBroadcaster.putRecord r); intro _
  exact IgnoresBroadcaster.pure _

end Quiet

section Refusals

variable {satPerVbyte confTarget : Nat}

theorem redeemTarget_of_mismatch (ix : SwapIndex) {h : Bytes} {p : Preimage} (mismatch : p.hash ≠ h) :
    ∃ e, redeemTarget ix h p = .error e ∧
      ∀ r key, ix.get h = .ok r → serviceKey r = .ok key → e.kind = .invalidPreimage := by
  cases target : redeemTarget ix h p with
  | ok found =>
    obtain ⟨got, -, opens⟩ := redeemTarget_eq_ok.mp target
    exact absurd (opens.trans (SwapIndex.stores_of_get got).2) mismatch
  | error e =>
    refine ⟨e, rfl, fun r key got service => ?_⟩
    have opens : p.hash ≠ r.hash := (SwapIndex.stores_of_get got).2 ▸ mismatch
    obtain ⟨e', refused, kind⟩ := verifyPreimage_of_ne opens
    simp only [redeemTarget, got, service, refused, bind, Except.bind, Except.error.injEq] at target
    rw [← target, kind]

theorem run_prepareRedeem_of_target_error {h : Bytes} {p : Preimage} {s : Site} {e : Error}
    (refused : redeemTarget s.node.index h p = .error e) :
    (prepareRedeem h p satPerVbyte confTarget).run s = .error e s := by
  simp only [prepareRedeem, NodeM.run_bind, NodeM.run_node, refused, NodeM.run_lift_error]

theorem run_redeemSwap_of_target_error {h : Bytes} {p : Preimage} {s : Site} {e : Error}
    (refused : redeemTarget s.node.index h p = .error e) :
    (redeemSwap h p satPerVbyte confTarget).run s = .error e s := by
  rw [redeemSwap_eq]
  exact NodeM.run_bind_of_error (run_prepareRedeem_of_target_error refused)

theorem run_findPreimage_of_found {hash : Bytes} {h : PaymentHash} {p : Preimage} {s : Site}
    (parsed : parsePaymentHash hash = .ok h) (held : s.node.lookUpPreimage h.bytes = .ok (some p)) :
    (findPreimage hash).run s = .ok (h, p) s := by
  simp only [findPreimage, NodeM.run_bind, parsed, NodeM.run_lift_ok, NodeM.run_node, held,
    Error.withContext, NodeM.run_pure]

theorem redeem_of_mismatch (ix : SwapIndex) {hash : Bytes} {h : PaymentHash} {p : Preimage}
    (parsed : parsePaymentHash hash = .ok h) (mismatch : p.hash ≠ h.bytes) :
    ∃ e, (∀ r key, ix.get h.bytes = .ok r → serviceKey r = .ok key → e.kind = .invalidPreimage) ∧
      ∀ s : Site, s.node.index = ix → s.node.lookUpPreimage h.bytes = .ok (some p) →
        (redeem hash satPerVbyte confTarget).run s = .error e s := by
  obtain ⟨e, refused, kind⟩ := redeemTarget_of_mismatch ix mismatch
  refine ⟨e, kind, fun s stored held => ?_⟩
  rw [← stored] at refused
  rw [redeem_eq, NodeM.run_bind, run_findPreimage_of_found parsed held]
  exact run_redeemSwap_of_target_error refused

theorem redeemWithPreimage_of_mismatch (ix : SwapIndex) {hash : Bytes} {h : PaymentHash}
    {p : Preimage} (parsed : parsePaymentHash hash = .ok h) (mismatch : p.hash ≠ h.bytes) :
    ∃ e, (∀ r key, ix.get h.bytes = .ok r → serviceKey r = .ok key → e.kind = .invalidPreimage) ∧
      ∀ s : Site, s.node.index = ix →
        (redeemWithPreimage hash p satPerVbyte confTarget).run s = .error e s := by
  obtain ⟨e, refused, kind⟩ := redeemTarget_of_mismatch ix mismatch
  refine ⟨e, kind, fun s stored => ?_⟩
  rw [← stored] at refused
  rw [redeemWithPreimage, NodeM.run_bind, parsed, NodeM.run_lift_ok]
  exact run_redeemSwap_of_target_error refused

theorem refund_before_lock {s : Site} {deposit destination : String} {a : Address}
    {r : SwapRecord} {height : Nat} (parsed : parseAddressFor s.node.network deposit = .ok a)
    (found : s.node.index.findByAddress a = .ok r)
    (read : readHeight s.chain.currentHeight = .ok height) (early : height < r.lockHeight) :
    ∃ e, (∀ d key preimage, parseAddressFor s.node.network destination = .ok d →
        r.role = .client key preimage → e.kind = .lockNotExpired) ∧
      ∀ s' : Site, s'.node.index = s.node.index → s'.node.config = s.node.config →
        s'.chain.currentHeight = s.chain.currentHeight →
        (refund deposit destination satPerVbyte confTarget).run s' = .error e s' := by
  simp only [Node.network] at parsed
  cases target : parseAddressFor s.node.config.network destination with
  | error e =>
    refine ⟨e, fun d _ _ readsAs => ?_, fun s' index config chain => ?_⟩
    · simp only [Node.network, target] at readsAs
      cases readsAs
    · simp only [refund, NodeM.run_bind, NodeM.run_node, Node.network, config, parsed, target,
        NodeM.run_lift_ok, NodeM.run_lift_error]
  | ok d =>
    -- only a swap of the client's own reaches the height check
    cases role : r.role with
    | service k =>
      refine ⟨.invalidParameters s!"swap at {a.toText} was not created by this client",
        fun _ _ _ _ client => ?_, fun s' index config chain => ?_⟩
      · cases client
      · simp only [refund, NodeM.run_bind, NodeM.run_node, Node.network, config, index, parsed,
          target, found, role, NodeM.run_lift_ok, NodeM.run_throw]
    | client key preimage =>
      obtain ⟨e, refused, kind⟩ := verifyLockExpired_of_lt early
      refine ⟨e, fun _ _ _ _ _ => kind, fun s' index config chain => ?_⟩
      simp only [refund, NodeM.run_bind, NodeM.run_node, Node.network, config, index, parsed,
        target, found, role, NodeM.run_lift_ok, NodeM.run_pure, NodeM.currentHeight, NodeM.run_get,
        chain, read, refused, NodeM.run_lift_error]

end Refusals

section Derivation

/-- The checks of a swap's creation that come before any key is derived. -/
def serviceTerms (hash clientKey : Bytes) :
    NodeM (PaymentHash × Secp256k1.PublicKey × Nat × Nat) := do
  let h ← lift (parsePaymentHash hash)
  let c ← lift (Error.withContext "invalid client public key" (parsePublicKey clientKey))
  if (← node).index.contains h.bytes then
    throw (.raise .duplicateSwap s!"swap with hash {Bytes.toHex h.bytes} already exists")
  let height ← currentHeight
  let lock := height + (← node).config.lockDelta
  if lock > Config.u32Max then throw (.invalidParameters "lock height overflows")
  pure (h, c, height, lock)

def recordSwap (h : PaymentHash) (c : Secp256k1.PublicKey) (height lock : Nat) (key : String)
    (pk : Secp256k1.PublicKey) : NodeM ServiceInit := do
  let params ← lift (SwapParams.make h c pk lock height)
  let r ← lift (SwapRecord.make params height (.service key) (← node).network)
  putRecord r
  pure ⟨r.address, pk, lock⟩

theorem serviceInit_eq (hash clientKey : Bytes) :
    serviceInit hash clientKey = serviceTerms hash clientKey >>= fun t =>
      withWallet "failed to derive service key" Wallet.deriveKey >>= fun derived =>
        recordSwap t.1 t.2.1 t.2.2.1 t.2.2.2 derived.1 derived.2 := by
  simp only [serviceInit, serviceTerms, recordSwap, bind_assoc, NodeM.ite_bind, NodeM.throw_bind,
    pure_bind]

/-- A computation that leaves the site as it was, whatever it answers. -/
def NodeM.ReadsOnly {α : Type} (x : NodeM α) : Prop :=
  ∀ s, endSite (x.run s) = s

namespace NodeM.ReadsOnly

variable {α β : Type}

theorem pure (a : α) : ReadsOnly (Pure.pure a : NodeM α) := fun _ => rfl

theorem throw_bind {f : α → NodeM β} (e : Error) : ReadsOnly (MonadExcept.throw e >>= f) :=
  fun _ => rfl

theorem lift (r : Except Error α) : ReadsOnly (NodeM.lift r) := by
  cases r <;> exact fun _ => rfl

theorem bind {x : NodeM α} {f : α → NodeM β} (first : ReadsOnly x) (rest : ∀ a, ReadsOnly (f a)) :
    ReadsOnly (x >>= f) :=
  NodeM.endSite_bind (R := fun s s' => s' = s) (fun first rest => rest.trans first) first rest

theorem node : ReadsOnly NodeM.node := fun _ => rfl

theorem currentHeight : ReadsOnly NodeM.currentHeight := fun s => lift _ s

end NodeM.ReadsOnly

theorem serviceTerms_readsOnly (hash clientKey : Bytes) : (serviceTerms hash clientKey).ReadsOnly := by
  unfold serviceTerms
  apply ReadsOnly.bind (ReadsOnly.lift _); intro h
  apply ReadsOnly.bind (ReadsOnly.lift _); intro c
  apply ReadsOnly.bind ReadsOnly.node; intro n
  dsimp only
  split
  · exact ReadsOnly.throw_bind _
  apply ReadsOnly.bind ReadsOnly.currentHeight; intro height
  apply ReadsOnly.bind ReadsOnly.node; intro n'
  split
  · exact ReadsOnly.throw_bind _
  exact ReadsOnly.pure _

theorem run_serviceTerms_eq_ok {hash clientKey : Bytes} {s s₁ : Site}
    {t : PaymentHash × Secp256k1.PublicKey × Nat × Nat}
    (passed : (serviceTerms hash clientKey).run s = .ok t s₁) :
    s₁ = s ∧ s.node.index.contains t.1.bytes = false ∧ readHeight s.chain.currentHeight = .ok t.2.2.1 ∧
      t.2.2.2 = t.2.2.1 + s.node.config.lockDelta := by
  have kept := serviceTerms_readsOnly hash clientKey s
  rw [passed, endSite] at kept
  subst kept
  simp only [serviceTerms, NodeM.run_bind_eq_ok, NodeM.run_lift_eq_ok, NodeM.run_node,
    EStateM.Result.ok.injEq, existsAndEq, and_true, true_and] at passed
  obtain ⟨h, -, c, -, rest⟩ := passed
  -- the two refusals throw before anything else runs
  split at rest
  · exact absurd rest NodeM.run_throw_bind_ne_ok
  rename_i free
  simp only [NodeM.run_bind_eq_ok, NodeM.run_currentHeight_eq_ok, NodeM.run_node,
    EStateM.Result.ok.injEq, existsAndEq, and_true, true_and] at rest
  obtain ⟨height, heightRead, rest⟩ := rest
  split at rest
  · exact absurd rest NodeM.run_throw_bind_ne_ok
  rw [NodeM.run_pure, EStateM.Result.ok.injEq] at rest
  obtain ⟨rfl, -⟩ := rest
  exact ⟨rfl, by simpa using free, heightRead, rfl⟩

theorem Wallet.deriveKey_next {w w' : Wallet} {key : String × Secp256k1.PublicKey}
    (derived : w.deriveKey = .ok (key, w')) : w' = { w with derived := w.derived + 1 } := by
  unfold Wallet.deriveKey at derived
  cases checked : w.check .derive with
  | error e => simp [checked, bind, Except.bind] at derived
  | ok u =>
    cases secret : Wallet.secretOf (w.keyName w.derived) with
    | error e => simp [checked, secret, bind, Except.bind] at derived
    | ok sk =>
      simp only [checked, secret, bind, Except.bind, pure, Except.pure, Except.ok.injEq,
        Prod.mk.injEq] at derived
      exact derived.2.symm

theorem SwapParams.make_eq_error {hash : PaymentHash} {clientKey serviceKey : Secp256k1.PublicKey}
    {lockHeight currentHeight : Nat} {e : Error}
    (refused : SwapParams.make hash clientKey serviceKey lockHeight currentHeight = .error e) :
    e.kind = .invalidParameters ∧ (lockHeight ≤ currentHeight ∨ lockTimeThreshold ≤ lockHeight) := by
  unfold SwapParams.make at refused
  by_cases late : lockHeight ≤ currentHeight
  · simp only [late, if_true, Except.error.injEq] at refused
    exact ⟨by rw [← refused]; rfl, .inl late⟩
  · by_cases time : lockHeight ≥ lockTimeThreshold
    · simp only [late, time, if_true, if_false, Except.error.injEq] at refused
      exact ⟨by rw [← refused]; rfl, .inr time⟩
    · simp only [late, time, if_false] at refused
      cases refused

theorem run_recordSwap {h : PaymentHash} {c pk : Secp256k1.PublicKey} {height lock : Nat}
    {key : String} (s : Site) (free : s.node.index.contains h.bytes = false) :
    (∃ e, (recordSwap h c height lock key pk).run s = .error e s ∧ e.kind = .invalidParameters ∧
        (lock ≤ height ∨ lockTimeThreshold ≤ lock)) ∨
      ∃ out s', (recordSwap h c height lock key pk).run s = .ok out s' ∧
        s'.node.wallet = s.node.wallet := by
  cases made : SwapParams.make h c pk lock height with
  | error e =>
    refine .inl ⟨e, ?_, SwapParams.make_eq_error made⟩
    simp only [recordSwap, NodeM.run_bind, made, NodeM.run_lift_error]
  | ok params =>
    obtain ⟨after, -, rfl⟩ := SwapParams.make_eq_ok.mp made
    let r : SwapRecord := ⟨⟨h, c, pk, lock⟩, height, .service key, s.node.network⟩
    have recorded : SwapRecord.make ⟨h, c, pk, lock⟩ height (.service key) s.node.network = .ok r :=
      SwapRecord.make_eq_ok.mpr ⟨after, rfl⟩
    have unused : s.node.index.lookup r.hash = none := by
      simpa [SwapIndex.contains, SwapRecord.hash] using free
    have stored := SwapIndex.put_of_free unused
    refine .inr ⟨⟨r.address, pk, lock⟩,
      { s with node := { s.node with index := (s.node.index.insertIfAbsent r.hash r.encode).1 } },
      ?_, rfl⟩
    simp only [recordSwap, NodeM.run_bind, made, NodeM.run_lift_ok, NodeM.run_node, recorded,
      putRecord, stored, NodeM.run_modifyNode, NodeM.run_pure]

def Site.nextKeyWallet (s : Site) : Wallet :=
  { s.node.wallet with derived := s.node.wallet.derived + 1 }

/-- A swap's creation from `s` derives at most one key, and burns one on a refusal only for a bad
lock. -/
structure DerivesOneKey (s : Site) (result : EStateM.Result Error Site ServiceInit) : Prop where
  at_most_one : (endSite result).node.wallet = s.node.wallet ∨
    (endSite result).node.wallet = s.nextKeyWallet
  created : ∀ out s', result = .ok out s' → s'.node.wallet = s.nextKeyWallet
  burned_only_on_bad_lock : ∀ e s', result = .error e s' → s'.node.wallet ≠ s.node.wallet →
    e.kind = .invalidParameters ∧ ∃ height, readHeight s.chain.currentHeight = .ok height ∧
      (s.node.config.lockDelta = 0 ∨ lockTimeThreshold ≤ height + s.node.config.lockDelta)

namespace DerivesOneKey

variable {s s' : Site}

theorem of_kept {e : Error} (kept : s'.node.wallet = s.node.wallet) :
    DerivesOneKey s (.error e s') where
  at_most_one := .inl kept
  created _ _ answered := by cases answered
  burned_only_on_bad_lock _ _ failed changed := by
    cases failed
    exact absurd kept changed

theorem of_created {out : ServiceInit} (next : s'.node.wallet = s.nextKeyWallet) :
    DerivesOneKey s (.ok out s') where
  at_most_one := .inr next
  created _ _ answered := by
    cases answered
    exact next
  burned_only_on_bad_lock _ _ failed := by cases failed

theorem of_burned {e : Error} (next : s'.node.wallet = s.nextKeyWallet)
    (kind : e.kind = .invalidParameters) {height : Nat}
    (read : readHeight s.chain.currentHeight = .ok height)
    (bad : s.node.config.lockDelta = 0 ∨ lockTimeThreshold ≤ height + s.node.config.lockDelta) :
    DerivesOneKey s (.error e s') where
  at_most_one := .inr next
  created _ _ answered := by cases answered
  burned_only_on_bad_lock _ _ failed _ := by
    cases failed
    exact ⟨kind, height, read, bad⟩

theorem kept_of_valid_lock {result : EStateM.Result Error Site ServiceInit}
    (derives : DerivesOneKey s result) (positive : 0 < s.node.config.lockDelta)
    (valid : ∀ height, readHeight s.chain.currentHeight = .ok height →
      height + s.node.config.lockDelta < lockTimeThreshold)
    {e : Error} (failed : result = .error e s') : s'.node.wallet = s.node.wallet := by
  by_contra changed
  obtain ⟨-, height, read, bad⟩ := derives.burned_only_on_bad_lock e s' failed changed
  have below := valid height read
  omega

end DerivesOneKey

theorem serviceInit_derivesOneKey (hash clientKey : Bytes) (s : Site) :
    DerivesOneKey s ((serviceInit hash clientKey).run s) := by
  rw [serviceInit_eq, NodeM.run_bind]
  cases checked : (serviceTerms hash clientKey).run s with
  | error e s₁ =>
    -- refused before the wallet is called
    have kept := serviceTerms_readsOnly hash clientKey s
    rw [checked, endSite] at kept
    exact DerivesOneKey.of_kept (by rw [kept])
  | ok terms s₁ =>
    obtain ⟨same, free, read, lock⟩ := run_serviceTerms_eq_ok checked
    obtain ⟨h, c, height, lock'⟩ := terms
    dsimp only at free read lock ⊢
    subst lock
    rw [same, NodeM.run_bind]
    cases derived : s.node.wallet.deriveKey with
    | error e' =>
      rw [NodeM.run_withWallet_of_error derived]
      exact DerivesOneKey.of_kept rfl
    | ok answer =>
      obtain ⟨⟨key, pk⟩, w⟩ := answer
      have next := Wallet.deriveKey_next derived
      rw [NodeM.run_withWallet_of_ok derived]
      dsimp only
      -- the store and the chain are as the checks read them; only the wallet moved on
      rcases run_recordSwap { s with node := { s.node with wallet := w } } free with
        ⟨e, failed, kind, bad⟩ | ⟨out, s', answered, kept⟩
      · rw [failed]
        exact DerivesOneKey.of_burned next kind read (by omega)
      · rw [answered]
        exact DerivesOneKey.of_created (kept.trans next)

/-- At height 499999990 the default lock of 72 blocks reaches 500000062, which is no block height:
creating a swap there is refused after its key was derived, so the wallet counts one more key. -/
theorem refused_swap_burns_service_key :
    let s : Site :=
      ⟨{ name := "service", config := {}, policy := ⟨2500000, 6⟩, index := { network := .regtest },
         wallet := { name := "service", network := .regtest }, feeRate := none },
       { height := 499999990 }⟩
    let clientKey : Bytes :=
      [0x02, 0xa6, 0xfb, 0x19, 0xf4, 0x67, 0x10, 0xe7, 0x4d, 0x72, 0x6d, 0xb5, 0x89, 0xf1, 0x86,
        0xca, 0x4a, 0xc6, 0x88, 0x35, 0x5b, 0xbd, 0x72, 0x43, 0x24, 0x3a, 0xdb, 0x03, 0x6d, 0x54,
        0x14, 0x2b, 0x06]
    ∃ e s₁, (serviceInit Preimage.zero.hash clientKey).run s = .error e s₁ ∧
      e.kind = .invalidParameters ∧ s₁.node.wallet.derived = s.node.wallet.derived + 1 := by
  intro s clientKey
  -- the run is evaluated once, by the kernel
  have refused : (match (serviceInit Preimage.zero.hash clientKey).run s with
      | .error e s₁ => decide (e.kind = .invalidParameters) && s₁.node.wallet.derived == 1
      | .ok _ _ => false) = true := by
    set_option maxRecDepth 200000 in decide +kernel
  cases ran : (serviceInit Preimage.zero.hash clientKey).run s with
  | ok out s₁ =>
    rw [ran] at refused
    cases refused
  | error e s₁ =>
    rw [ran] at refused
    simp only [Bool.and_eq_true, decide_eq_true_eq, beq_iff_eq] at refused
    exact ⟨e, s₁, rfl, refused.1, refused.2⟩

end Derivation

/-- Which collaborators the server's operations call from the site `s`. -/
structure EffectDiscipline (s : Site) : Prop where
  redeem_publishes_once : ∀ (hash : Bytes) (satPerVbyte confTarget : Nat),
    RedeemOutcome (RedeemFoundPassed s hash satPerVbyte confTarget)
        (redeem hash satPerVbyte confTarget) s ∧
      PublishesAnswer (redeem hash satPerVbyte confTarget) s
  redeemWithPreimage_publishes_once : ∀ (hash : Bytes) (p : Preimage) (satPerVbyte confTarget : Nat),
    RedeemOutcome (RedeemGivenPassed s hash p satPerVbyte confTarget)
        (redeemWithPreimage hash p satPerVbyte confTarget) s ∧
      PublishesAnswer (redeemWithPreimage hash p satPerVbyte confTarget) s
  redeem_mismatch_reads_store :
    ∀ (hash : Bytes) (h : PaymentHash) (p : Preimage) (satPerVbyte confTarget : Nat),
    parsePaymentHash hash = .ok h → p.hash ≠ h.bytes →
    ∃ e, (∀ r key, s.node.index.get h.bytes = .ok r → serviceKey r = .ok key →
        e.kind = .invalidPreimage) ∧
      ∀ s' : Site, s'.node.index = s.node.index → s'.node.lookUpPreimage h.bytes = .ok (some p) →
        (redeem hash satPerVbyte confTarget).run s' = .error e s'
  redeemWithPreimage_mismatch_reads_store :
    ∀ (hash : Bytes) (h : PaymentHash) (p : Preimage) (satPerVbyte confTarget : Nat),
      parsePaymentHash hash = .ok h → p.hash ≠ h.bytes →
      ∃ e, (∀ r key, s.node.index.get h.bytes = .ok r → serviceKey r = .ok key →
          e.kind = .invalidPreimage) ∧
        ∀ s' : Site, s'.node.index = s.node.index →
          (redeemWithPreimage hash p satPerVbyte confTarget).run s' = .error e s'
  refund_quiet : ∀ (deposit destination : String) (satPerVbyte confTarget : Nat),
    (refund deposit destination satPerVbyte confTarget).IgnoresBroadcasterAt s
  redeemFees_quiet : ∀ (hash : Bytes) (satPerVbyte confTarget : Nat),
    (redeemFees hash satPerVbyte confTarget).IgnoresBroadcasterAt s
  unspentAmount_quiet : ∀ loc : SwapLocator, (unspentAmount loc).IgnoresBroadcasterAt s
  status_quiet : ∀ loc : SwapLocator, (status loc).IgnoresBroadcasterAt s
  clientWatch_quiet : ∀ (p : Preimage) (key : String) (serviceKey : Bytes) (lock : Nat),
    (clientWatch p key serviceKey lock).IgnoresBroadcasterAt s
  refund_before_lock_reads_gate :
    ∀ (deposit destination : String) (a : Address) (r : SwapRecord)
      (height satPerVbyte confTarget : Nat),
      parseAddressFor s.node.network deposit = .ok a → s.node.index.findByAddress a = .ok r →
      readHeight s.chain.currentHeight = .ok height → height < r.lockHeight →
      ∃ e, (∀ d key preimage, parseAddressFor s.node.network destination = .ok d →
          r.role = .client key preimage → e.kind = .lockNotExpired) ∧
        ∀ s' : Site, s'.node.index = s.node.index → s'.node.config = s.node.config →
          s'.chain.currentHeight = s.chain.currentHeight →
          (refund deposit destination satPerVbyte confTarget).run s' = .error e s'
  serviceInit_derives_one_key : ∀ hash clientKey : Bytes,
    DerivesOneKey s ((serviceInit hash clientKey).run s)
  serviceInit_keeps_wallet_on_refusal : 0 < s.node.config.lockDelta →
    (∀ height, readHeight s.chain.currentHeight = .ok height →
      height + s.node.config.lockDelta < lockTimeThreshold) →
    ∀ (hash clientKey : Bytes) (e : Error) (s' : Site),
      (serviceInit hash clientKey).run s = .error e s' → s'.node.wallet = s.node.wallet

theorem server_effects_disciplined (s : Site) : EffectDiscipline s where
  redeem_publishes_once hash _ _ :=
    ⟨redeem_outcome hash s,
      (redeem_outcome hash s).published_log fun _ _ passed => passed.published⟩
  redeemWithPreimage_publishes_once hash p _ _ :=
    ⟨redeemWithPreimage_outcome hash p s,
      (redeemWithPreimage_outcome hash p s).published_log fun _ _ passed => passed.published⟩
  redeem_mismatch_reads_store _ _ _ _ _ parsed mismatch :=
    redeem_of_mismatch s.node.index parsed mismatch
  redeemWithPreimage_mismatch_reads_store _ _ _ _ _ parsed mismatch :=
    redeemWithPreimage_of_mismatch s.node.index parsed mismatch
  refund_quiet deposit destination _ _ := refund_ignoresBroadcaster deposit destination s
  redeemFees_quiet hash _ _ := redeemFees_ignoresBroadcaster hash s
  unspentAmount_quiet loc := unspentAmount_ignoresBroadcaster loc s
  status_quiet loc := status_ignoresBroadcaster loc s
  clientWatch_quiet p key serviceKey lock := clientWatch_ignoresBroadcaster p key serviceKey lock s
  refund_before_lock_reads_gate _ _ _ _ _ _ _ parsed found read early :=
    refund_before_lock parsed found read early
  serviceInit_derives_one_key hash clientKey := serviceInit_derivesOneKey hash clientKey s
  serviceInit_keeps_wallet_on_refusal positive valid hash clientKey _ _ failed :=
    (serviceInit_derivesOneKey hash clientKey s).kept_of_valid_lock positive valid failed

end SubmarineSwap.Server
