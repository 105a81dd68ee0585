import Mathlib
import SubmarineSwap.Proofs.Server.Store

namespace SubmarineSwap.Server

open Simulation NodeM Secp256k1

section Watch

variable {t : Site} {p : Preimage} {key : String} {serviceKey : Bytes} {c s : PublicKey}
  {lock height : Nat}

theorem run_clientWatch_of_fresh (serviceRead : parsePublicKey serviceKey = .ok s)
    (held : t.node.wallet.publicKey key = .ok c)
    (heightRead : readHeight t.chain.currentHeight = .ok height) (ahead : height < lock)
    (near : lock ≤ height + t.node.config.maxClientLockDelta) (block : lock < lockTimeThreshold)
    (free : t.node.index.lookup p.hash = none) :
    let r : SwapRecord := ⟨⟨p.paymentHash, c, s, lock⟩, lock - t.node.config.maxClientLockDelta,
      .client key (some p), t.node.config.network⟩
    ∃ t', (clientWatch p key serviceKey lock).run t = .ok ⟨r.address, r.witnessScript⟩ t' := by
  intro r
  have notFar : ¬ lock > min (height + t.node.config.maxClientLockDelta) Config.u32Max := by
    have threshold : lockTimeThreshold = 500000000 := rfl
    have largest : Config.u32Max = 4294967295 := rfl
    omega
  have params : SwapParams.make p.paymentHash c s lock height = .ok r.params :=
    SwapParams.make_eq_ok.mpr ⟨ahead, block, rfl⟩
  have recorded : SwapRecord.make r.params (lock - t.node.config.maxClientLockDelta)
      (.client key (some p)) t.node.config.network = .ok r :=
    SwapRecord.make_eq_ok.mpr ⟨by show lock - _ < lock; omega, rfl⟩
  have stored : t.node.index.put r =
      .ok { t.node.index with entries := t.node.index.entries ++ [(r.hash, r.encode)] } :=
    SwapIndex.put_eq_ok.mpr ⟨free, rfl⟩
  simp only [clientWatch, NodeM.run_bind_eq_ok, NodeM.run_lift_eq_ok, NodeM.run_node,
    NodeM.run_currentHeight_eq_ok, EStateM.Result.ok.injEq, existsAndEq, and_true,
    Error.withContext_eq_ok, mapError_eq_ok, serviceRead, held, heightRead, Except.ok.injEq,
    exists_eq_left']
  rw [if_neg notFar]
  simp only [NodeM.run_bind_eq_ok, NodeM.run_lift_eq_ok, params, recorded, Except.ok.injEq,
    existsAndEq, true_and]
  exact ⟨_, (), _, NodeM.run_putRecord_eq_ok.mpr ⟨_, stored, rfl⟩, rfl⟩

end Watch

theorem ofSlices_eq_ok_of_read {params : SwapParams} {hash clientKey serviceKey : Bytes} {h : Nat}
    (hashRead : parsePaymentHash hash = .ok params.hash)
    (clientRead : parsePublicKey clientKey = .ok params.clientKey)
    (serviceRead : parsePublicKey serviceKey = .ok params.serviceKey) (below : h < params.lockHeight)
    (block : params.lockHeight < lockTimeThreshold) :
    SwapParams.ofSlices hash clientKey serviceKey params.lockHeight h = .ok params := by
  simp only [SwapParams.ofSlices, hashRead, clientRead, serviceRead, Except.mapError, bind,
    Except.bind]
  exact SwapParams.make_eq_ok.mpr ⟨below, block, rfl⟩

/-- The client and the service derive the same deposit. -/
theorem client_watch_derives_service_deposit {s s₁ t : Site} {hash clientKey : Bytes}
    {init : ServiceInit} (created : (serviceInit hash clientKey).run s = .ok init s₁)
    (serviceNetwork : s.node.index.network = s.node.config.network)
    {key : String} {c : PublicKey} (held : t.node.wallet.publicKey key = .ok c)
    (givenKey : c.serialize = clientKey) {p : Preimage} (hashed : p.hash = hash)
    (sameNetwork : t.node.config.network = s.node.config.network) {height : Nat}
    (clientHeight : readHeight t.chain.currentHeight = .ok height) (ahead : height < init.lockHeight)
    (near : init.lockHeight ≤ height + t.node.config.maxClientLockDelta)
    (free : t.node.index.lookup hash = none) :
    ∃ r t', s₁.node.index.get hash = .ok r ∧
      (clientWatch p key init.serviceKey.serialize init.lockHeight).run t =
        .ok ⟨init.address, r.witnessScript⟩ t' ∧
      ∀ h < init.lockHeight, ∃ params,
        SwapParams.ofSlices hash clientKey init.serviceKey.serialize init.lockHeight h = .ok params ∧
        params.witnessScript = r.witnessScript ∧
        params.address s.node.config.network = init.address := by
  obtain ⟨r, -, -, hashRead, clientRead, -, -, -, -, network, made, stored, -, rfl⟩ :=
    run_serviceInit_eq_ok created
  have sameHash := parsePaymentHash_eq_ok hashRead
  -- the wallet's key is a point of the curve, so the bytes the service read give it back
  obtain ⟨sk', rfl⟩ := Wallet.publicKey_eq_ok held
  have clientKeyEq : r.params.clientKey = sk'.publicKey := by
    rw [← givenKey, PublicKey.parsePublicKey_serialize] at clientRead
    exact (Except.ok.inj clientRead).symm
  have serviceRead := PublicKey.parsePublicKey_serialize r.params.serviceKey
  -- the client rebuilds the service's terms, on the service's network
  have freshHash : t.node.index.lookup p.hash = none := by
    rw [hashed]
    exact free
  obtain ⟨t', watched⟩ := run_clientWatch_of_fresh serviceRead held clientHeight ahead near
    made.lockHeight_lt freshHash
  have sameTerms : (⟨p.paymentHash, sk'.publicKey, r.params.serviceKey, r.lockHeight⟩ : SwapParams) =
      r.params := by
    have sameHashes : p.paymentHash = r.params.hash := PaymentHash.ext (hashed.trans sameHash.symm)
    rw [sameHashes, ← clientKeyEq]
    rfl
  have sameAddress : r.params.address s.node.config.network = r.address := by
    rw [← network]
    rfl
  -- the service's record reads back under its hash
  have clientRead' : parsePublicKey clientKey = .ok r.params.clientKey := by
    rw [← givenKey, clientKeyEq]
    exact PublicKey.parsePublicKey_serialize _
  have indexNetwork : r.network = s₁.node.index.network := by
    obtain ⟨-, grown⟩ := SwapIndex.put_eq_ok.mp stored
    rw [grown, network, ← serviceNetwork]
  have found := SwapIndex.get_of_lookup_encode made.valid made.creationHeight_lt indexNetwork
    (SwapIndex.lookup_of_put_eq_ok stored)
  rw [SwapRecord.hash, sameHash] at found
  refine ⟨r, t', found, ?_, fun h below => ⟨r.params, ?_, rfl, sameAddress⟩⟩
  · rw [watched, sameNetwork]
    simp only [SwapRecord.address, SwapRecord.witnessScript, sameTerms, sameAddress]
  · exact ofSlices_eq_ok_of_read hashRead clientRead' serviceRead below made.lockHeight_lt

/-- A service and a client at height 2000 on the default configuration. -/
theorem client_watch_derives_service_deposit_at_default :
    let s : Site :=
      ⟨{ name := "service", config := {}, policy := ⟨2500000, 6⟩, index := { network := .regtest },
         wallet := { name := "service", network := .regtest }, feeRate := none },
       { height := 2000 }⟩
    let t : Site :=
      ⟨{ name := "client", config := {}, policy := ⟨2500000, 6⟩, index := { network := .regtest },
         wallet := { name := "client", network := .regtest, derived := 1 }, feeRate := none },
       { height := 2000 }⟩
    let clientKey : Bytes :=
      [0x02, 0xa6, 0xfb, 0x19, 0xf4, 0x67, 0x10, 0xe7, 0x4d, 0x72, 0x6d, 0xb5, 0x89, 0xf1, 0x86,
        0xca, 0x4a, 0xc6, 0x88, 0x35, 0x5b, 0xbd, 0x72, 0x43, 0x24, 0x3a, 0xdb, 0x03, 0x6d, 0x54,
        0x14, 0x2b, 0x06]
    ∃ init s₁ c, (serviceInit Preimage.zero.hash clientKey).run s = .ok init s₁ ∧
      s.node.index.network = s.node.config.network ∧
      t.node.wallet.publicKey "client/0" = .ok c ∧ c.serialize = clientKey ∧
      t.node.config.network = s.node.config.network ∧
      readHeight t.chain.currentHeight = .ok 2000 ∧ 2000 < init.lockHeight ∧
      init.lockHeight ≤ 2000 + t.node.config.maxClientLockDelta ∧
      t.node.index.lookup Preimage.zero.hash = none ∧
      ∃ r t', s₁.node.index.get Preimage.zero.hash = .ok r ∧
        (clientWatch Preimage.zero "client/0" init.serviceKey.serialize init.lockHeight).run t =
          .ok ⟨init.address, r.witnessScript⟩ t' ∧
        ∀ h < init.lockHeight, ∃ params,
          SwapParams.ofSlices Preimage.zero.hash clientKey init.serviceKey.serialize init.lockHeight
            h = .ok params ∧
          params.witnessScript = r.witnessScript ∧
          params.address s.node.config.network = init.address := by
  intro s t clientKey
  -- both runs are evaluated once, by the kernel
  have serviceAnswers : (match (serviceInit Preimage.zero.hash clientKey).run s with
      | .ok init _ => init.lockHeight == 2072
      | .error _ _ => false) = true := by
    set_option maxRecDepth 200000 in decide +kernel
  have clientHolds : (match t.node.wallet.publicKey "client/0" with
      | .ok c => c.serialize == clientKey
      | .error _ => false) = true := by
    set_option maxRecDepth 200000 in decide +kernel
  obtain ⟨init, s₁, created, locked⟩ : ∃ init s₁,
      (serviceInit Preimage.zero.hash clientKey).run s = .ok init s₁ ∧ init.lockHeight = 2072 := by
    cases ran : (serviceInit Preimage.zero.hash clientKey).run s with
    | ok init s₁ =>
      rw [ran] at serviceAnswers
      exact ⟨init, s₁, rfl, by simpa using serviceAnswers⟩
    | error e s' =>
      rw [ran] at serviceAnswers
      cases serviceAnswers
  obtain ⟨c, held, givenKey⟩ : ∃ c, t.node.wallet.publicKey "client/0" = .ok c ∧
      c.serialize = clientKey := by
    cases answered : t.node.wallet.publicKey "client/0" with
    | ok c =>
      rw [answered] at clientHolds
      exact ⟨c, rfl, by simpa using clientHolds⟩
    | error e =>
      rw [answered] at clientHolds
      cases clientHolds
  have clientHeight : readHeight t.chain.currentHeight = .ok 2000 := rfl
  have ahead : 2000 < init.lockHeight := by omega
  have near : init.lockHeight ≤ 2000 + t.node.config.maxClientLockDelta := by
    rw [locked]
    decide
  exact ⟨init, s₁, c, created, rfl, held, givenKey, rfl, clientHeight, ahead, near, rfl,
    client_watch_derives_service_deposit created rfl held givenKey rfl rfl clientHeight ahead near
      rfl⟩

section Window

theorem scanAddress_covers_of_le {c : Chain} {a : Address} {low high : Nat} {seen : List Utxo}
    (below : low ≤ high) (scanned : scanAddress c.unspentOutputs a high = .ok seen) :
    ∃ seen', scanAddress c.unspentOutputs a low = .ok seen' ∧
      ∀ u ∈ seen, ∃ u' ∈ seen', u'.outpoint = u.outpoint := by
  obtain ⟨working, rfl⟩ := scanAddress_unspentOutputs_eq_ok scanned
  refine ⟨_, by rw [scanAddress, unspentOutputs_of_working working]; rfl, fun u member => ?_⟩
  -- a deposit from the higher height is an unspent output at the address from the lower one
  obtain ⟨listed, late⟩ := mem_of_mem_scanResult member
  simp only [List.mem_map, List.mem_filter, Bool.and_eq_true, decide_eq_true_eq] at listed
  obtain ⟨o, ⟨held, ⟨unspent, paying⟩, -⟩, rfl⟩ := listed
  have earlier : o.utxo ∈ (c.outputs.filter fun o => !o.spent && o.script == a.scriptPubKey &&
      o.utxo.height ≥ low).map (·.utxo) := by
    simp only [List.mem_map, List.mem_filter, Bool.and_eq_true, decide_eq_true_eq]
    exact ⟨o, ⟨held, ⟨unspent, paying⟩, by omega⟩, rfl⟩
  exact exists_outpoint_mem_scanResult earlier (by omega)

end Window

/-- The client's scan from its creation height covers the service's exactly when the service's
`lockDelta` is at most the client's `maxClientLockDelta`. -/
theorem client_scan_covers_service_scan_iff {s s₁ t t₁ : Site} {hash clientKey : Bytes}
    {init : ServiceInit} (created : (serviceInit hash clientKey).run s = .ok init s₁)
    {p : Preimage} {key : String} {serviceKey : Bytes} {watch : ClientWatch}
    (watched : (clientWatch p key serviceKey init.lockHeight).run t = .ok watch t₁) :
    ∃ rs rc : SwapRecord, s.node.index.put rs = .ok s₁.node.index ∧
      t.node.index.put rc = .ok t₁.node.index ∧
      readHeight s.chain.currentHeight = .ok rs.creationHeight ∧
      rs.lockHeight = rs.creationHeight + s.node.config.lockDelta ∧
      rc.lockHeight = rs.lockHeight ∧
      rc.creationHeight = rc.lockHeight - t.node.config.maxClientLockDelta ∧
      (rc.creationHeight ≤ rs.creationHeight ↔
        s.node.config.lockDelta ≤ t.node.config.maxClientLockDelta) ∧
      (s.node.config.lockDelta ≤ t.node.config.maxClientLockDelta →
        ∀ (c : Chain) (a : Address) (seen : List Utxo),
          scanAddress c.unspentOutputs a rs.creationHeight = .ok seen →
          ∃ seen', scanAddress c.unspentOutputs a rc.creationHeight = .ok seen' ∧
            ∀ u ∈ seen, ∃ u' ∈ seen', u'.outpoint = u.outpoint) := by
  obtain ⟨rs, -, -, -, -, -, heightRead, locked, -, -, -, stored, -, rfl⟩ :=
    run_serviceInit_eq_ok created
  obtain ⟨rc, -, -, -, -, -, -, -, -, -, lockEq, creation, -, -, -, recorded, -, -⟩ :=
    run_clientWatch_eq_ok watched
  dsimp only at lockEq creation
  -- the client starts `maxClientLockDelta` blocks before the lock the service set `lockDelta`
  -- blocks after its own height
  have window : rc.creationHeight ≤ rs.creationHeight ↔
      s.node.config.lockDelta ≤ t.node.config.maxClientLockDelta := by
    rw [creation, locked]
    omega
  refine ⟨rs, rc, stored, recorded, heightRead, locked, lockEq, by rw [creation, lockEq], window,
    fun covered c a seen scanned => ?_⟩
  exact scanAddress_covers_of_le (window.mpr covered) scanned

theorem serviceInit_clientWatch_of_answered {s t : Site} {hash clientKey : Bytes} {p : Preimage}
    {key : String}
    (answered : (match (serviceInit hash clientKey).run s with
      | .ok init _ =>
        match (clientWatch p key init.serviceKey.serialize init.lockHeight).run t with
        | .ok _ _ => true
        | .error _ _ => false
      | .error _ _ => false) = true) :
    ∃ init s₁ watch t₁, (serviceInit hash clientKey).run s = .ok init s₁ ∧
      (clientWatch p key init.serviceKey.serialize init.lockHeight).run t = .ok watch t₁ := by
  cases created : (serviceInit hash clientKey).run s with
  | error e s' =>
    rw [created] at answered
    cases answered
  | ok init s₁ =>
    rw [created] at answered
    dsimp only at answered
    cases watched : (clientWatch p key init.serviceKey.serialize init.lockHeight).run t with
    | error e t' =>
      rw [watched] at answered
      cases answered
    | ok watch t₁ => exact ⟨init, s₁, watch, t₁, rfl, watched⟩

/-- At the default configuration the service locks 72 blocks ahead and the client looks back up to
1008 blocks: a service at height 2000 and a client watching its lock from the same height. -/
theorem client_scan_covers_service_scan_at_default :
    let s : Site :=
      ⟨{ name := "service", config := {}, policy := ⟨2500000, 6⟩, index := { network := .regtest },
         wallet := { name := "service", network := .regtest }, feeRate := none },
       { height := 2000 }⟩
    let t : Site :=
      ⟨{ name := "client", config := {}, policy := ⟨2500000, 6⟩, index := { network := .regtest },
         wallet := { name := "client", network := .regtest, derived := 1 }, feeRate := none },
       { height := 2000 }⟩
    let clientKey : Bytes :=
      [0x02, 0xa6, 0xfb, 0x19, 0xf4, 0x67, 0x10, 0xe7, 0x4d, 0x72, 0x6d, 0xb5, 0x89, 0xf1, 0x86,
        0xca, 0x4a, 0xc6, 0x88, 0x35, 0x5b, 0xbd, 0x72, 0x43, 0x24, 0x3a, 0xdb, 0x03, 0x6d, 0x54,
        0x14, 0x2b, 0x06]
    ∃ init s₁ watch t₁, (serviceInit Preimage.zero.hash clientKey).run s = .ok init s₁ ∧
      (clientWatch Preimage.zero "client/0" init.serviceKey.serialize init.lockHeight).run t =
        .ok watch t₁ ∧
      ∃ rs rc : SwapRecord, s.node.index.put rs = .ok s₁.node.index ∧
        t.node.index.put rc = .ok t₁.node.index ∧
        readHeight s.chain.currentHeight = .ok rs.creationHeight ∧
        rs.lockHeight = rs.creationHeight + s.node.config.lockDelta ∧
        rc.lockHeight = rs.lockHeight ∧
        rc.creationHeight = rc.lockHeight - t.node.config.maxClientLockDelta ∧
        (rc.creationHeight ≤ rs.creationHeight ↔
          s.node.config.lockDelta ≤ t.node.config.maxClientLockDelta) ∧
        (s.node.config.lockDelta ≤ t.node.config.maxClientLockDelta →
          ∀ (c : Chain) (a : Address) (seen : List Utxo),
            scanAddress c.unspentOutputs a rs.creationHeight = .ok seen →
            ∃ seen', scanAddress c.unspentOutputs a rc.creationHeight = .ok seen' ∧
              ∀ u ∈ seen, ∃ u' ∈ seen', u'.outpoint = u.outpoint) := by
  intro s t clientKey
  -- both runs are evaluated once, by the kernel
  obtain ⟨init, s₁, watch, t₁, created, watched⟩ :=
    @serviceInit_clientWatch_of_answered s t Preimage.zero.hash clientKey Preimage.zero "client/0"
      (by set_option maxRecDepth 200000 in decide +kernel)
  exact ⟨init, s₁, watch, t₁, created, watched, client_scan_covers_service_scan_iff created watched⟩

/-- A service locking 100 blocks ahead at 1000, and a client looking back 50 blocks from 1060. -/
theorem client_window_starts_after_service_height :
    let s : Site :=
      ⟨{ name := "service", config := { lockDelta := 100 }, policy := ⟨2500000, 6⟩,
         index := { network := .regtest }, wallet := { name := "service", network := .regtest },
         feeRate := none },
       { height := 1000 }⟩
    let t : Site :=
      ⟨{ name := "client", config := { maxClientLockDelta := 50 }, policy := ⟨2500000, 6⟩,
         index := { network := .regtest },
         wallet := { name := "client", network := .regtest, derived := 1 }, feeRate := none },
       { height := 1060 }⟩
    let clientKey : Bytes :=
      [0x02, 0xa6, 0xfb, 0x19, 0xf4, 0x67, 0x10, 0xe7, 0x4d, 0x72, 0x6d, 0xb5, 0x89, 0xf1, 0x86,
        0xca, 0x4a, 0xc6, 0x88, 0x35, 0x5b, 0xbd, 0x72, 0x43, 0x24, 0x3a, 0xdb, 0x03, 0x6d, 0x54,
        0x14, 0x2b, 0x06]
    ∃ init s₁ watch t₁, (serviceInit Preimage.zero.hash clientKey).run s = .ok init s₁ ∧
      (clientWatch Preimage.zero "client/0" init.serviceKey.serialize init.lockHeight).run t =
        .ok watch t₁ ∧
      ∃ rs rc : SwapRecord, s.node.index.put rs = .ok s₁.node.index ∧
        t.node.index.put rc = .ok t₁.node.index ∧
        rs.creationHeight = 1000 ∧ rc.creationHeight = 1050 ∧
        ∀ (c : Chain) (a : Address) (seen : List Utxo),
          scanAddress c.unspentOutputs a rc.creationHeight = .ok seen → ∀ u ∈ seen, u.height ≠ 1000 := by
  intro s t clientKey
  obtain ⟨init, s₁, watch, t₁, created, watched⟩ :=
    @serviceInit_clientWatch_of_answered s t Preimage.zero.hash clientKey Preimage.zero "client/0"
      (by set_option maxRecDepth 200000 in decide +kernel)
  obtain ⟨rs, -, -, -, -, -, heightRead, locked, -, -, -, stored, -, rfl⟩ :=
    run_serviceInit_eq_ok created
  obtain ⟨rc, -, -, -, -, -, -, -, -, -, lockEq, creation, -, -, -, recorded, -, -⟩ :=
    run_clientWatch_eq_ok watched
  dsimp only at lockEq creation
  -- the service's height is read off its chain, and the lock is 100 blocks above it
  have serviceHeight : rs.creationHeight = 1000 := by
    have atThousand : readHeight s.chain.currentHeight = .ok 1000 := rfl
    rw [atThousand] at heightRead
    exact (Except.ok.inj heightRead).symm
  have clientHeight : rc.creationHeight = 1050 := by
    rw [creation, locked, serviceHeight]
    rfl
  refine ⟨_, s₁, watch, t₁, created, watched, rs, rc, stored, recorded, serviceHeight, clientHeight,
    fun c a seen scanned u member => ?_⟩
  have late := scanAddress_height_le scanned member
  omega

end SubmarineSwap.Server
