import Mathlib
import SubmarineSwap.Server.Client
import SubmarineSwap.Proofs.Server.Redeem
import SubmarineSwap.Proofs.Swap.Index
import SubmarineSwap.Proofs.Secp256k1.Points

namespace SubmarineSwap.Simulation.Wallet

open Secp256k1

variable {w w' : Wallet} {key : String} {pk : PublicKey}

theorem deriveKey_publicKey (derived : w.deriveKey = .ok ((key, pk), w')) :
    ∃ sk : SecretKey, pk = sk.publicKey := by
  unfold deriveKey at derived
  cases checked : w.check .derive with
  | error e => simp [checked, bind, Except.bind] at derived
  | ok u =>
    cases secret : secretOf (w.keyName w.derived) with
    | error e => simp [checked, secret, bind, Except.bind] at derived
    | ok sk =>
      simp only [checked, secret, bind, Except.bind, pure, Except.pure, Except.ok.injEq,
        Prod.mk.injEq] at derived
      exact ⟨sk, derived.1.2.symm⟩

theorem publicKey_eq_ok (answered : w.publicKey key = .ok pk) :
    ∃ sk : SecretKey, pk = sk.publicKey := by
  unfold publicKey at answered
  cases checked : w.check .publicKey with
  | error e => simp [checked, bind, Except.bind] at answered
  | ok u =>
    cases secret : w.secret key with
    | error e => simp [checked, secret, bind, Except.bind] at answered
    | ok sk =>
      simp only [checked, secret, bind, Except.bind, pure, Except.pure, Except.ok.injEq] at answered
      exact ⟨sk, answered.symm⟩

end SubmarineSwap.Simulation.Wallet

namespace SubmarineSwap

def SwapRecord.WrittenUnder (cfg : Server.Config) (r : SwapRecord) : Prop :=
  match r.role with
  | .service _ => r.lockHeight = r.creationHeight + cfg.lockDelta
  | .client _ preimage =>
    r.creationHeight = r.lockHeight - cfg.maxClientLockDelta ∧
      ∃ p : Preimage, preimage = some p ∧ p.hash = r.hash

/-- A record as a server stores it under a configuration. -/
structure SwapRecord.Storable (cfg : Server.Config) (r : SwapRecord) : Prop where
  made : r.Made
  network_eq : r.network = cfg.network
  written : r.WrittenUnder cfg

theorem SwapRecord.Made.creationHeight_lt_lockHeight {r : SwapRecord} (made : r.Made) :
    r.creationHeight < r.lockHeight := by
  obtain ⟨_, -, built⟩ := made
  exact (SwapRecord.make_eq_ok.mp built).1

theorem parsePaymentHash_eq_ok {bs : Bytes} {h : PaymentHash} (parsed : parsePaymentHash bs = .ok h) :
    h.bytes = bs := by
  unfold parsePaymentHash at parsed
  split at parsed
  · cases parsed
    rfl
  · cases parsed

end SubmarineSwap

namespace SubmarineSwap.Server

open Simulation NodeM Secp256k1

def endSite {α : Type} : EStateM.Result Error Site α → Site
  | .ok _ s => s
  | .error _ s => s

theorem NodeM.endSite_bind {α β : Type} {R : Site → Site → Prop}
    (trans : ∀ {s₁ s₂ s₃}, R s₁ s₂ → R s₂ s₃ → R s₁ s₃) {x : NodeM α} {f : α → NodeM β}
    (first : ∀ s, R s (endSite (x.run s))) (rest : ∀ a s, R s (endSite ((f a).run s)))
    (s : Site) : R s (endSite ((x >>= f).run s)) := by
  have kept := first s
  rw [NodeM.run_bind]
  cases ran : x.run s with
  | ok a s₁ =>
    rw [ran, endSite] at kept
    exact trans kept (rest a s₁)
  | error e s₁ =>
    rw [ran, endSite] at kept
    exact kept

def Site.SameStore (s s' : Site) : Prop :=
  s'.node.index = s.node.index ∧ s'.node.config = s.node.config

theorem Site.SameStore.refl (s : Site) : s.SameStore s := ⟨rfl, rfl⟩

theorem Site.SameStore.trans {s₁ s₂ s₃ : Site} (first : s₁.SameStore s₂)
    (second : s₂.SameStore s₃) : s₁.SameStore s₃ :=
  ⟨second.1.trans first.1, second.2.trans first.2⟩

/-- A computation that, whatever it answers, leaves the node's store and configuration as they
were. -/
def NodeM.KeepsStore {α : Type} (x : NodeM α) : Prop :=
  ∀ s : Site, s.SameStore (endSite (x.run s))

namespace NodeM.KeepsStore

variable {α β : Type}

theorem pure (a : α) : KeepsStore (Pure.pure a : NodeM α) := fun s => Site.SameStore.refl s

theorem throw (e : Error) : KeepsStore (MonadExcept.throw e : NodeM α) := fun s =>
  Site.SameStore.refl s

theorem get : KeepsStore (MonadState.get : NodeM Site) := fun s => Site.SameStore.refl s

theorem throw_bind {f : α → NodeM β} (e : Error) : KeepsStore (MonadExcept.throw e >>= f) :=
  fun s => Site.SameStore.refl s

theorem bind {x : NodeM α} {f : α → NodeM β} (first : KeepsStore x)
    (rest : ∀ a, KeepsStore (f a)) : KeepsStore (x >>= f) :=
  NodeM.endSite_bind (R := Site.SameStore) Site.SameStore.trans first rest

theorem get_bind {f : Site → NodeM α} (keeps : ∀ s : Site, s.SameStore (endSite ((f s).run s))) :
    KeepsStore (MonadState.get >>= f) := keeps

theorem lift (r : Except Error α) : KeepsStore (NodeM.lift r) := by
  cases r with
  | ok a => exact pure a
  | error e => exact throw e

theorem node : KeepsStore NodeM.node := bind get fun _ => pure _

theorem modifyNode {f : Node → Node} (keeps : ∀ n, (f n).index = n.index ∧ (f n).config = n.config) :
    KeepsStore (NodeM.modifyNode f) := fun s => keeps s.node

theorem withWallet (note : String) (call : Wallet → Except Error (α × Wallet)) :
    KeepsStore (NodeM.withWallet note call) := by
  unfold NodeM.withWallet
  refine bind node fun n => ?_
  split
  · exact bind (modifyNode fun _ => ⟨rfl, rfl⟩) fun _ => pure _
  · exact throw _

theorem currentHeight : KeepsStore NodeM.currentHeight := bind get fun _ => lift _

theorem scanSwap (r : SwapRecord) : KeepsStore (NodeM.scanSwap r) := bind get fun _ => lift _

theorem spendingTransactions (r : SwapRecord) : KeepsStore (NodeM.spendingTransactions r) := by
  refine bind get fun s => ?_
  split
  · exact pure _
  · exact throw _

theorem resolveFeeRate (satPerVbyte confTarget : Nat) :
    KeepsStore (NodeM.resolveFeeRate satPerVbyte confTarget) :=
  bind (lift _) fun _ => bind node fun _ => lift _

theorem signer (key : String) : KeepsStore (NodeM.signer key) := bind node fun _ => pure _

theorem locate (loc : SwapLocator) : KeepsStore (NodeM.locate loc) := by
  cases loc with
  | hash h => exact bind node fun _ => lift _
  | address a => exact bind node fun _ => lift _

end NodeM.KeepsStore

theorem Site.broadcast_sameStore {s s' : Site} {tx : Transaction} (sent : s.broadcast tx = .ok s') :
    s.SameStore s' := by
  obtain ⟨-, c, -, rfl⟩ := Site.broadcast_eq_ok_iff.mp sent
  exact ⟨rfl, rfl⟩

section Reading

variable {satPerVbyte confTarget : Nat}

theorem clientInit_keepsStore : KeepsStore clientInit := KeepsStore.withWallet _ _

theorem unspentAmount_keepsStore (loc : SwapLocator) : KeepsStore (unspentAmount loc) := by
  unfold unspentAmount
  apply KeepsStore.bind (KeepsStore.locate loc); intro r
  apply KeepsStore.bind (KeepsStore.scanSwap r); intro _
  apply KeepsStore.bind (KeepsStore.lift _); intro _
  exact KeepsStore.pure _

theorem status_keepsStore (loc : SwapLocator) : KeepsStore (status loc) := by
  unfold status
  apply KeepsStore.bind (KeepsStore.locate loc); intro r
  apply KeepsStore.bind (KeepsStore.scanSwap r); intro _
  apply KeepsStore.bind (KeepsStore.spendingTransactions r); intro _
  exact KeepsStore.lift _

theorem redeemFees_keepsStore (hash : Bytes) :
    KeepsStore (redeemFees hash satPerVbyte confTarget) := by
  unfold redeemFees
  apply KeepsStore.bind (KeepsStore.lift _); intro _
  apply KeepsStore.bind KeepsStore.node; intro _
  apply KeepsStore.bind (KeepsStore.lift _); intro r
  apply KeepsStore.bind (KeepsStore.lift _); intro _
  apply KeepsStore.bind (KeepsStore.resolveFeeRate _ _); intro _
  apply KeepsStore.bind (KeepsStore.scanSwap r); intro _
  exact KeepsStore.lift _

theorem redeemSwap_keepsStore (h : Bytes) (p : Preimage) :
    KeepsStore (redeemSwap h p satPerVbyte confTarget) := by
  unfold redeemSwap
  apply KeepsStore.bind KeepsStore.node; intro _
  apply KeepsStore.bind (KeepsStore.lift _); intro r
  apply KeepsStore.bind (KeepsStore.lift _); intro key
  apply KeepsStore.bind (KeepsStore.lift _); intro _
  apply KeepsStore.bind (KeepsStore.resolveFeeRate _ _); intro _
  apply KeepsStore.bind (KeepsStore.withWallet _ _); intro _
  apply KeepsStore.bind KeepsStore.get; intro _
  apply KeepsStore.bind (KeepsStore.signer key); intro _
  apply KeepsStore.bind (KeepsStore.lift _); intro settlement
  -- publishing changes the chain and the record of published transactions only
  refine KeepsStore.get_bind fun s => ?_
  split
  · rename_i s' sent
    exact Site.broadcast_sameStore sent
  · exact Site.SameStore.refl s

theorem redeem_keepsStore (hash : Bytes) : KeepsStore (redeem hash satPerVbyte confTarget) := by
  unfold redeem
  apply KeepsStore.bind (KeepsStore.lift _); intro h
  apply KeepsStore.bind KeepsStore.node; intro _
  apply KeepsStore.bind (KeepsStore.lift _); intro found
  split
  · exact redeemSwap_keepsStore h.bytes _
  · exact KeepsStore.throw _

theorem redeemWithPreimage_keepsStore (hash : Bytes) (p : Preimage) :
    KeepsStore (redeemWithPreimage hash p satPerVbyte confTarget) := by
  unfold redeemWithPreimage
  apply KeepsStore.bind (KeepsStore.lift _); intro h
  exact redeemSwap_keepsStore h.bytes p

theorem refund_keepsStore (deposit destination : String) :
    KeepsStore (refund deposit destination satPerVbyte confTarget) := by
  unfold refund
  apply KeepsStore.bind KeepsStore.node; intro _
  apply KeepsStore.bind (KeepsStore.lift _); intro _
  apply KeepsStore.bind (KeepsStore.lift _); intro _
  apply KeepsStore.bind KeepsStore.node; intro _
  apply KeepsStore.bind (KeepsStore.lift _); intro r
  dsimp only
  -- only a swap of the client's own is refunded
  split
  case h_2 => exact KeepsStore.throw_bind _
  apply KeepsStore.bind (KeepsStore.pure _); intro key
  apply KeepsStore.bind KeepsStore.currentHeight; intro _
  apply KeepsStore.bind (KeepsStore.lift _); intro _
  apply KeepsStore.bind (KeepsStore.resolveFeeRate _ _); intro _
  apply KeepsStore.bind KeepsStore.get; intro _
  apply KeepsStore.bind (KeepsStore.signer key); intro _
  apply KeepsStore.bind (KeepsStore.lift _); intro _
  exact KeepsStore.pure _

end Reading

section Writers

variable {α : Type} {s s' : Site}

theorem run_serviceInit_eq_ok {hash clientKey : Bytes} {out : ServiceInit}
    (created : (serviceInit hash clientKey).run s = .ok out s') :
    ∃ (r : SwapRecord) (key : String) (sk : SecretKey),
      parsePaymentHash hash = .ok r.params.hash ∧ parsePublicKey clientKey = .ok r.params.clientKey ∧
      r.params.serviceKey = sk.publicKey ∧ readHeight s.chain.currentHeight = .ok r.creationHeight ∧
      r.lockHeight = r.creationHeight + s.node.config.lockDelta ∧ r.role = .service key ∧
      r.network = s.node.config.network ∧ r.Made ∧
      s.node.index.put r = .ok s'.node.index ∧ s'.node.config = s.node.config ∧
      out = ⟨r.address, r.params.serviceKey, r.lockHeight⟩ := by
  simp only [serviceInit, NodeM.run_bind_eq_ok, NodeM.run_lift_eq_ok, NodeM.run_node,
    EStateM.Result.ok.injEq, existsAndEq, and_true, true_and, Error.withContext_eq_ok] at created
  obtain ⟨h, parsed, c, clientRead, rest⟩ := created
  -- the two refusals throw before anything else runs
  split at rest
  · exact absurd rest NodeM.run_throw_bind_ne_ok
  simp only [NodeM.run_bind_eq_ok, NodeM.run_currentHeight_eq_ok, NodeM.run_node,
    EStateM.Result.ok.injEq, existsAndEq, and_true, true_and] at rest
  obtain ⟨height, heightRead, rest⟩ := rest
  split at rest
  · exact absurd rest NodeM.run_throw_bind_ne_ok
  simp only [NodeM.run_bind_eq_ok, NodeM.run_node, NodeM.run_lift_eq_ok,
    EStateM.Result.ok.injEq, existsAndEq, and_true, true_and] at rest
  obtain ⟨⟨key, pk⟩, s₁, derived, params, made, r, recorded, u, s₂, put, answered⟩ := rest
  obtain ⟨w, derivedKey, rfl⟩ := NodeM.run_withWallet_eq_ok derived
  obtain ⟨sk, rfl⟩ := Wallet.deriveKey_publicKey derivedKey
  obtain ⟨ix, stored, rfl⟩ := NodeM.run_putRecord_eq_ok.mp put
  rw [NodeM.run_pure, EStateM.Result.ok.injEq] at answered
  obtain ⟨rfl, rfl⟩ := answered
  dsimp only at made recorded
  have madeRecord := recorded
  obtain ⟨-, -, rfl⟩ := SwapParams.make_eq_ok.mp made
  obtain ⟨-, rfl⟩ := SwapRecord.make_eq_ok.mp recorded
  exact ⟨⟨⟨h, c, sk.publicKey, height + s.node.config.lockDelta⟩, height, .service key,
    s.node.network⟩, key, sk, parsed, clientRead, rfl, heightRead, rfl, rfl, rfl,
    ⟨height, made, madeRecord⟩, stored, rfl, rfl⟩

theorem run_clientWatch_eq_ok {p : Preimage} {key : String} {serviceKey : Bytes} {lock : Nat}
    {out : ClientWatch} (watched : (clientWatch p key serviceKey lock).run s = .ok out s') :
    ∃ (r : SwapRecord) (sk : SecretKey) (height : Nat),
      parsePublicKey serviceKey = .ok r.params.serviceKey ∧
      s.node.wallet.publicKey key = .ok r.params.clientKey ∧ r.params.clientKey = sk.publicKey ∧
      readHeight s.chain.currentHeight = .ok height ∧ height < lock ∧
      lock ≤ min (height + s.node.config.maxClientLockDelta) Config.u32Max ∧
      r.hash = p.hash ∧ r.lockHeight = lock ∧
      r.creationHeight = lock - s.node.config.maxClientLockDelta ∧ r.role = .client key (some p) ∧
      r.network = s.node.config.network ∧ r.Made ∧
      s.node.index.put r = .ok s'.node.index ∧ s'.node.config = s.node.config ∧
      out = ⟨r.address, r.witnessScript⟩ := by
  simp only [clientWatch, NodeM.run_bind_eq_ok, NodeM.run_lift_eq_ok, NodeM.run_node,
    NodeM.run_currentHeight_eq_ok, EStateM.Result.ok.injEq, existsAndEq, and_true, true_and,
    Error.withContext_eq_ok, mapError_eq_ok] at watched
  obtain ⟨sKey, serviceRead, c, clientRead, height, heightRead, rest⟩ := watched
  -- a lock too far ahead is refused before anything else runs
  split at rest
  · exact absurd rest NodeM.run_throw_bind_ne_ok
  rename_i near
  simp only [NodeM.run_bind_eq_ok, NodeM.run_lift_eq_ok, existsAndEq, and_true] at rest
  obtain ⟨params, made, r, recorded, u, s₂, put, answered⟩ := rest
  obtain ⟨sk, rfl⟩ := Wallet.publicKey_eq_ok clientRead
  obtain ⟨ix, stored, rfl⟩ := NodeM.run_putRecord_eq_ok.mp put
  rw [NodeM.run_pure, EStateM.Result.ok.injEq] at answered
  obtain ⟨rfl, rfl⟩ := answered
  have madeRecord := recorded
  obtain ⟨after, -, rfl⟩ := SwapParams.make_eq_ok.mp made
  obtain ⟨-, rfl⟩ := SwapRecord.make_eq_ok.mp recorded
  exact ⟨⟨⟨p.paymentHash, sk.publicKey, sKey, lock⟩, lock - s.node.config.maxClientLockDelta,
    .client key (some p), s.node.config.network⟩, sk, height, serviceRead, clientRead, rfl,
    heightRead, after, by omega, rfl, rfl, rfl, rfl, rfl, ⟨height, made, madeRecord⟩, stored, rfl,
    rfl⟩

end Writers

section Refusals

variable {α β : Type}

/-- A computation that leaves the store and the configuration as they were whenever it fails. -/
def NodeM.KeepsStoreOnError (x : NodeM α) : Prop :=
  ∀ s e s', x.run s = .error e s' → s.SameStore s'

namespace NodeM.KeepsStoreOnError

theorem of_keepsStore {x : NodeM α} (keeps : KeepsStore x) : KeepsStoreOnError x := by
  intro s e s' failed
  have kept := keeps s
  rwa [failed] at kept

theorem bind {x : NodeM α} {f : α → NodeM β} (first : KeepsStore x)
    (rest : ∀ a, KeepsStoreOnError (f a)) : KeepsStoreOnError (x >>= f) := by
  intro s e s' failed
  have kept := first s
  rw [NodeM.run_bind] at failed
  cases ran : x.run s with
  | ok a s₁ =>
    rw [ran, endSite] at kept
    rw [ran] at failed
    exact kept.trans (rest a s₁ e s' failed)
  | error e₁ s₁ =>
    rw [ran, endSite] at kept
    rw [ran] at failed
    cases failed
    exact kept

theorem bind_pure {x : NodeM α} (first : KeepsStoreOnError x) (b : β) :
    KeepsStoreOnError (x >>= fun _ => Pure.pure b) := by
  intro s e s' failed
  rw [NodeM.run_bind] at failed
  cases ran : x.run s with
  | ok a s₁ =>
    rw [ran] at failed
    cases failed
  | error e₁ s₁ =>
    rw [ran] at failed
    cases failed
    exact first s e s' ran

theorem putRecord (r : SwapRecord) : KeepsStoreOnError (NodeM.putRecord r) := by
  intro s e s' failed
  cases put : s.node.index.put r with
  | ok ix =>
    have stored : (NodeM.putRecord r).run s = .ok () { s with node := { s.node with index := ix } } :=
      NodeM.run_putRecord_eq_ok.mpr ⟨ix, put, rfl⟩
    rw [stored] at failed
    cases failed
  | error e' =>
    rw [NodeM.run_putRecord_of_error put] at failed
    cases failed
    exact Site.SameStore.refl s

theorem putRecord_bind (r : SwapRecord) (b : β) :
    KeepsStoreOnError (NodeM.putRecord r >>= fun _ => Pure.pure b) :=
  bind_pure (putRecord r) b

end NodeM.KeepsStoreOnError

theorem serviceInit_keepsStoreOnError (hash clientKey : Bytes) :
    KeepsStoreOnError (serviceInit hash clientKey) := by
  unfold serviceInit
  apply KeepsStoreOnError.bind (KeepsStore.lift _); intro _
  apply KeepsStoreOnError.bind (KeepsStore.lift _); intro _
  apply KeepsStoreOnError.bind KeepsStore.node; intro _
  dsimp +zetaHave only
  split
  · exact KeepsStoreOnError.of_keepsStore (KeepsStore.throw_bind _)
  apply KeepsStoreOnError.bind KeepsStore.currentHeight; intro _
  apply KeepsStoreOnError.bind KeepsStore.node; intro _
  split
  · exact KeepsStoreOnError.of_keepsStore (KeepsStore.throw_bind _)
  apply KeepsStoreOnError.bind (KeepsStore.withWallet _ _); intro _
  apply KeepsStoreOnError.bind (KeepsStore.lift _); intro _
  apply KeepsStoreOnError.bind KeepsStore.node; intro _
  apply KeepsStoreOnError.bind (KeepsStore.lift _); intro r
  exact KeepsStoreOnError.putRecord_bind r _

theorem clientWatch_keepsStoreOnError (p : Preimage) (key : String) (serviceKey : Bytes)
    (lock : Nat) : KeepsStoreOnError (clientWatch p key serviceKey lock) := by
  unfold clientWatch
  apply KeepsStoreOnError.bind (KeepsStore.lift _); intro _
  apply KeepsStoreOnError.bind KeepsStore.node; intro _
  apply KeepsStoreOnError.bind (KeepsStore.lift _); intro _
  apply KeepsStoreOnError.bind KeepsStore.currentHeight; intro _
  apply KeepsStoreOnError.bind KeepsStore.node; intro _
  dsimp +zetaHave only
  split
  · exact KeepsStoreOnError.of_keepsStore (KeepsStore.throw_bind _)
  apply KeepsStoreOnError.bind (KeepsStore.lift _); intro _
  apply KeepsStoreOnError.bind (KeepsStore.lift _); intro r
  exact KeepsStoreOnError.putRecord_bind r _

end Refusals

section Invariant

/-- Every stored value reads as a record under its own hash, as the side that wrote it made it. -/
structure Node.StoreSound (n : Node) : Prop where
  network_eq : n.index.network = n.config.network
  entries_read : ∀ e ∈ n.index.entries, ∃ r, n.index.decode e.2 = .ok r ∧ r.hash = e.1 ∧
    r.creationHeight < r.lockHeight ∧ r.lockHeight < lockTimeThreshold ∧ r.WrittenUnder n.config

namespace Node.StoreSound

variable {n n' : Node}

theorem of_create {name : String} {cfg : Config} {feeRate : Option Nat}
    (created : Node.create name cfg feeRate = .ok n) : n.StoreSound := by
  unfold Node.create at created
  cases checked : cfg.validate with
  | error e => simp [checked, Error.withContext, bind, Except.bind] at created
  | ok u =>
    cases policy : cfg.feePolicy with
    | error e => simp [checked, policy, Error.withContext, bind, Except.bind] at created
    | ok pol =>
      simp only [checked, policy, Error.withContext, bind, Except.bind, pure, Except.pure,
        Except.ok.injEq] at created
      subst created
      exact ⟨rfl, fun e member => by simp at member⟩

theorem of_same (sound : n.StoreSound) (index : n'.index = n.index) (config : n'.config = n.config) :
    n'.StoreSound := by
  obtain ⟨network, entries⟩ := sound
  exact ⟨by rw [index, config, network], by rw [index, config]; exact entries⟩

theorem put (sound : n.StoreSound) {r : SwapRecord} {ix : SwapIndex} (stored : n.index.put r = .ok ix)
    (storable : r.Storable n.config) : ({ n with index := ix } : Node).StoreSound := by
  obtain ⟨-, rfl⟩ := SwapIndex.put_eq_ok.mp stored
  refine ⟨sound.network_eq, fun e member => ?_⟩
  rcases List.mem_append.mp member with old | new
  · exact sound.entries_read e old
  · obtain rfl := List.mem_singleton.mp new
    have decoded : SwapRecord.decode n.index.network r.encode = .ok r := by
      rw [sound.network_eq, ← storable.network_eq]
      exact SwapRecord.decode_encode storable.made.valid storable.made.creationHeight_lt
    exact ⟨r, by simp [SwapIndex.decode, decoded], rfl, storable.made.creationHeight_lt_lockHeight,
      storable.made.lockHeight_lt, storable.written⟩

end Node.StoreSound

section Recorded

variable {s s' : Site}

theorem serviceInit_storable {hash clientKey : Bytes} {out : ServiceInit}
    (created : (serviceInit hash clientKey).run s = .ok out s') :
    ∃ r : SwapRecord, r.Storable s.node.config ∧ s.node.index.put r = .ok s'.node.index ∧
      s'.node.config = s.node.config := by
  obtain ⟨r, key, -, -, -, -, -, locked, role, network, made, stored, config, -⟩ :=
    run_serviceInit_eq_ok created
  have written : r.WrittenUnder s.node.config := by
    rw [SwapRecord.WrittenUnder, role]
    exact locked
  exact ⟨r, ⟨made, network, written⟩, stored, config⟩

theorem clientWatch_storable {p : Preimage} {key : String} {serviceKey : Bytes} {lock : Nat}
    {out : ClientWatch} (watched : (clientWatch p key serviceKey lock).run s = .ok out s') :
    ∃ r : SwapRecord, r.Storable s.node.config ∧ s.node.index.put r = .ok s'.node.index ∧
      s'.node.config = s.node.config := by
  obtain ⟨r, -, -, -, -, -, -, -, -, hashed, locked, created, role, network, made, stored, config,
    -⟩ := run_clientWatch_eq_ok watched
  have written : r.WrittenUnder s.node.config := by
    rw [SwapRecord.WrittenUnder, role]
    exact ⟨by rw [created, locked], p, rfl, hashed.symm⟩
  exact ⟨r, ⟨made, network, written⟩, stored, config⟩

end Recorded

inductive ServerCall where
  | clientInit
  | serviceInit (hash clientKey : Bytes)
  | clientWatch (p : Preimage) (key : String) (serviceKey : Bytes) (lock : Nat)
  | unspentAmount (loc : SwapLocator)
  | status (loc : SwapLocator)
  | redeemFees (hash : Bytes) (satPerVbyte confTarget : Nat)
  | redeem (hash : Bytes) (satPerVbyte confTarget : Nat)
  | redeemWithPreimage (hash : Bytes) (p : Preimage) (satPerVbyte confTarget : Nat)
  | refund (deposit destination : String) (satPerVbyte confTarget : Nat)

namespace ServerCall

def run : ServerCall → NodeM Unit
  | clientInit => do let _ ← Server.clientInit; pure ()
  | serviceInit hash clientKey => do let _ ← Server.serviceInit hash clientKey; pure ()
  | clientWatch p key serviceKey lock => do let _ ← Server.clientWatch p key serviceKey lock; pure ()
  | unspentAmount loc => do let _ ← Server.unspentAmount loc; pure ()
  | status loc => do let _ ← Server.status loc; pure ()
  | redeemFees hash satPerVbyte confTarget => do
    let _ ← Server.redeemFees hash satPerVbyte confTarget; pure ()
  | redeem hash satPerVbyte confTarget => do
    let _ ← Server.redeem hash satPerVbyte confTarget; pure ()
  | redeemWithPreimage hash p satPerVbyte confTarget => do
    let _ ← Server.redeemWithPreimage hash p satPerVbyte confTarget; pure ()
  | refund deposit destination satPerVbyte confTarget => do
    let _ ← Server.refund deposit destination satPerVbyte confTarget; pure ()

def records : ServerCall → Bool
  | serviceInit .. | clientWatch .. => true
  | _ => false

theorem run_keepsStore (c : ServerCall) (reads : c.records = false) : KeepsStore c.run := by
  cases c with
  | clientInit => exact KeepsStore.bind clientInit_keepsStore fun _ => KeepsStore.pure _
  | serviceInit => cases reads
  | clientWatch => cases reads
  | unspentAmount loc =>
    exact KeepsStore.bind (unspentAmount_keepsStore loc) fun _ => KeepsStore.pure _
  | status loc => exact KeepsStore.bind (status_keepsStore loc) fun _ => KeepsStore.pure _
  | redeemFees hash =>
    exact KeepsStore.bind (redeemFees_keepsStore hash) fun _ => KeepsStore.pure _
  | redeem hash => exact KeepsStore.bind (redeem_keepsStore hash) fun _ => KeepsStore.pure _
  | redeemWithPreimage hash p =>
    exact KeepsStore.bind (redeemWithPreimage_keepsStore hash p) fun _ => KeepsStore.pure _
  | refund deposit destination =>
    exact KeepsStore.bind (refund_keepsStore deposit destination) fun _ => KeepsStore.pure _

theorem run_keepsStoreOnError (c : ServerCall) : KeepsStoreOnError c.run := by
  cases c with
  | serviceInit hash clientKey =>
    exact (serviceInit_keepsStoreOnError hash clientKey).bind_pure ()
  | clientWatch p key serviceKey lock =>
    exact (clientWatch_keepsStoreOnError p key serviceKey lock).bind_pure ()
  | _ => exact KeepsStoreOnError.of_keepsStore (run_keepsStore _ rfl)

theorem run_eq_ok_of_records {c : ServerCall} (writes : c.records = true) {s s' : Site} {u : Unit}
    (ran : c.run.run s = .ok u s') :
    ∃ r : SwapRecord, r.Storable s.node.config ∧ s.node.index.put r = .ok s'.node.index ∧
      s'.node.config = s.node.config := by
  cases c with
  | serviceInit hash clientKey =>
    obtain ⟨out, s₁, created, answered⟩ := NodeM.run_bind_eq_ok.mp ran
    obtain ⟨-, rfl⟩ := (EStateM.Result.ok.injEq _ _ _ _).mp answered
    exact serviceInit_storable created
  | clientWatch p key serviceKey lock =>
    obtain ⟨out, s₁, watched, answered⟩ := NodeM.run_bind_eq_ok.mp ran
    obtain ⟨-, rfl⟩ := (EStateM.Result.ok.injEq _ _ _ _).mp answered
    exact clientWatch_storable watched
  | _ => cases writes

theorem run_store_cases (c : ServerCall) (s : Site) :
    s.SameStore (endSite (c.run.run s)) ∨
      c.records = true ∧ (∃ u, c.run.run s = .ok u (endSite (c.run.run s))) ∧
        ∃ r : SwapRecord, r.Storable s.node.config ∧
          s.node.index.put r = .ok (endSite (c.run.run s)).node.index ∧
          (endSite (c.run.run s)).node.config = s.node.config := by
  cases ran : c.run.run s with
  | error e t => exact .inl (c.run_keepsStoreOnError s e t ran)
  | ok u t =>
    cases writes : c.records with
    | false =>
      have kept := c.run_keepsStore writes s
      rw [ran] at kept
      exact .inl kept
    | true => exact .inr ⟨rfl, ⟨u, rfl⟩, c.run_eq_ok_of_records writes ran⟩

theorem run_appends (c : ServerCall) (s : Site) :
    (endSite (c.run.run s)).node.config = s.node.config ∧
      ∃ added : List (Bytes × Bytes),
        (endSite (c.run.run s)).node.index.entries = s.node.index.entries ++ added ∧
        added.length ≤ 1 ∧ ∀ e ∈ added, s.node.index.lookup e.1 = none ∧ c.records = true ∧
          ∃ u, c.run.run s = .ok u (endSite (c.run.run s)) := by
  rcases c.run_store_cases s with same | ⟨writes, answered, r, -, stored, config⟩
  · exact ⟨same.2, [], by rw [same.1, List.append_nil], by simp, by simp⟩
  · -- the one new entry is the record put under its hash, which was free
    obtain ⟨free, grown⟩ := SwapIndex.put_eq_ok.mp stored
    refine ⟨config, [(r.hash, r.encode)], by rw [grown], by simp, fun e member => ?_⟩
    obtain rfl := List.mem_singleton.mp member
    exact ⟨free, writes, answered⟩

end ServerCall

theorem Node.StoreSound.call {s : Site} (sound : s.node.StoreSound) (c : ServerCall) :
    (endSite (c.run.run s)).node.StoreSound := by
  rcases c.run_store_cases s with same | ⟨-, -, r, storable, stored, config⟩
  · exact sound.of_same same.1 same.2
  · exact (sound.put stored storable).of_same rfl config

/-- The sites a server reaches by its operations and by whatever its collaborators do between calls,
which leaves the store and the configuration alone. -/
inductive Reachable : Site → Prop where
  | created {name : String} {cfg : Config} {feeRate : Option Nat} {n : Node} (chain : Chain) :
      Node.create name cfg feeRate = .ok n → Reachable ⟨n, chain⟩
  | call {s : Site} (c : ServerCall) : Reachable s → Reachable (endSite (c.run.run s))
  | elsewhere {s s' : Site} : Reachable s → s.SameStore s' → Reachable s'

theorem Reachable.storeSound {s : Site} (reached : Reachable s) : s.node.StoreSound := by
  induction reached with
  | created chain made => exact Node.StoreSound.of_create made
  | call c _ sound => exact sound.call c
  | elsewhere _ same sound => exact sound.of_same same.1 same.2

end Invariant

/-- The store stays sound over every run, and a call appends at most one entry and changes none. -/
theorem store_append_only_and_sound {s : Site} (reached : Reachable s) (c : ServerCall) :
    let s' := endSite (c.run.run s)
    s.node.StoreSound ∧ s'.node.StoreSound ∧ s'.node.config = s.node.config ∧
      (∃ added : List (Bytes × Bytes), s'.node.index.entries = s.node.index.entries ++ added ∧
        added.length ≤ 1 ∧
        ∀ e ∈ added, s.node.index.lookup e.1 = none ∧ c.records = true ∧
          ∃ u, c.run.run s = .ok u s') ∧
      (∀ k v, s.node.index.lookup k = some v → s'.node.index.lookup k = some v) ∧
      (∀ e t, c.run.run s = .error e t → t.node.index = s.node.index) := by
  intro s'
  have sound := reached.storeSound
  obtain ⟨config, added, appended, single, fresh⟩ := c.run_appends s
  refine ⟨sound, sound.call c, config, ⟨added, appended, single, fresh⟩, fun k v stored => ?_,
    fun e t failed => (c.run_keepsStoreOnError s e t failed).1⟩
  exact SwapIndex.lookup_of_entries_append appended stored

/-- A server just created on the default configuration, before any call. -/
theorem store_append_only_and_sound_when_created :
    let s : Site :=
      ⟨{ name := "server", config := {}, policy := ⟨2500000, 6⟩, index := { network := .regtest },
         wallet := { name := "server", network := .regtest }, feeRate := none }, { height := 0 }⟩
    let s' := endSite (ServerCall.clientInit.run.run s)
    Reachable s ∧ s.node.StoreSound ∧ s'.node.StoreSound ∧ s'.node.config = s.node.config ∧
      (∃ added : List (Bytes × Bytes), s'.node.index.entries = s.node.index.entries ++ added ∧
        added.length ≤ 1 ∧
        ∀ e ∈ added, s.node.index.lookup e.1 = none ∧ ServerCall.clientInit.records = true ∧
          ∃ u, ServerCall.clientInit.run.run s = .ok u s') ∧
      (∀ k v, s.node.index.lookup k = some v → s'.node.index.lookup k = some v) ∧
      (∀ e t, ServerCall.clientInit.run.run s = .error e t → t.node.index = s.node.index) :=
  have reached := @Reachable.created "server" {} none _ { height := 0 } (by rfl)
  ⟨reached, store_append_only_and_sound reached .clientInit⟩

end SubmarineSwap.Server
