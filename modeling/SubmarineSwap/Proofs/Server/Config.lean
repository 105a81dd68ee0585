import Mathlib
import SubmarineSwap.Server.PeerNotifier
import SubmarineSwap.Proofs.Fee
import SubmarineSwap.Proofs.Server.Effects

namespace SubmarineSwap.Server

open Simulation NodeM

namespace Config

variable {c : Config}

theorem feePolicy_of_le (fits : c.maxFeeRateSatPerVb ≤ 73786976294838206) :
    c.feePolicy = .ok ⟨250 * c.maxFeeRateSatPerVb, c.defaultConfTarget⟩ := by
  simp [feePolicy, rateOfSatPerVbyte_of_le fits]

theorem validate_eq_ok_iff :
    c.validate = .ok () ↔ 0 < c.lockDelta ∧ 0 < c.maxClientLockDelta ∧ 1 ≤ c.defaultConfTarget ∧
      c.defaultConfTarget ≤ maxConfTarget ∧ 0 < c.subscriberQueueSize ∧
      c.maxFeeRateSatPerVb ≤ 73786976294838206 := by
  -- the checks run in order, and the first refusal ends the run
  simp only [validate, bind, Except.bind, pure, Except.pure, throw, throwThe, MonadExceptOf.throw]
  by_cases lock : c.lockDelta = 0
  · simp [lock]
  by_cases client : c.maxClientLockDelta = 0
  · simp [lock, client]
  by_cases target : 1 ≤ c.defaultConfTarget ∧ c.defaultConfTarget ≤ maxConfTarget
  swap
  · simp [lock, client, target]
    omega
  by_cases queue : c.subscriberQueueSize = 0
  · simp [lock, client, target, queue]
  by_cases fits : c.maxFeeRateSatPerVb ≤ 73786976294838206
  · simp [lock, client, target, queue, fits, feePolicy_of_le fits, Nat.pos_iff_ne_zero]
  · simp [lock, client, target, queue, fits, feePolicy,
      rateOfSatPerVbyte_of_lt (Nat.lt_of_not_le fits)]

theorem validate_of_ofToml {text : String} (read : ofToml text = .ok c) : c.validate = .ok () := by
  unfold ofToml at read
  cases parsed : (Toml.parse text >>= ofTable) with
  | error e =>
    rw [parsed] at read
    cases read
  | ok c' =>
    rw [parsed] at read
    cases checked : c'.validate with
    | error e => simp [checked, bind, Except.bind, pure, Except.pure] at read
    | ok u =>
      simp only [checked, bind, Except.bind, pure, Except.pure, Except.ok.injEq] at read
      exact read ▸ checked

end Config

section Creation

variable {c : Config}

def Config.policy (c : Config) : FeePolicy := ⟨250 * c.maxFeeRateSatPerVb, c.defaultConfTarget⟩

theorem Node.create_of_valid (valid : c.validate = .ok ()) (name : String) (feeRate : Option Nat) :
    Node.create name c feeRate = .ok
      { name := name, config := c, policy := c.policy, index := { network := c.network },
        wallet := { name := name, network := c.network }, feeRate := feeRate } := by
  have fits := (Config.validate_eq_ok_iff.mp valid).2.2.2.2.2
  simp [Node.create, valid, Config.feePolicy_of_le fits, Config.policy, Error.withContext, bind,
    Except.bind, pure, Except.pure]

theorem PeerNotifier.ofConfig_of_valid (valid : c.validate = .ok ()) :
    PeerNotifier.ofConfig c = .ok { broker := { capacity := c.subscriberQueueSize } } := by
  have positive := (Config.validate_eq_ok_iff.mp valid).2.2.2.2.1
  simp [PeerNotifier.ofConfig, PeerNotifier.create, Broker.create, Nat.pos_iff_ne_zero.mp positive,
    Error.withContext, bind, Except.bind, pure, Except.pure]

theorem Config.resolve_empty_error_kind (valid : c.validate = .ok ()) (estimator : FeeEstimator)
    {e : Error} (refused : c.policy.resolve estimator {} = .error e) :
    e.kind = .feeEstimationUnavailable := by
  obtain ⟨-, -, low, high, -⟩ := Config.validate_eq_ok_iff.mp valid
  have asked : c.policy.estimatorTarget? {} = some c.defaultConfTarget :=
    (c.policy.estimatorTarget?_eq_some_iff).mpr ⟨rfl, rfl, low, high⟩
  rw [c.policy.resolve_of_estimatorTarget asked] at refused
  exact FeePolicy.estimateAnswer_error_kind refused

end Creation

section Records

/-- A swap's creation with its record built straight from its parts, without the record's check
that the lock lies after the creation height. -/
def serviceInitDirect (hash clientKey : Bytes) : NodeM ServiceInit := do
  let h ← lift (parsePaymentHash hash)
  let c ← lift (Error.withContext "invalid client public key" (parsePublicKey clientKey))
  if (← node).index.contains h.bytes then
    throw (.raise .duplicateSwap s!"swap with hash {Bytes.toHex h.bytes} already exists")
  let height ← currentHeight
  let lock := height + (← node).config.lockDelta
  if lock > Config.u32Max then throw (.invalidParameters "lock height overflows")
  let (key, pk) ← withWallet "failed to derive service key" Wallet.deriveKey
  let params ← lift (SwapParams.make h c pk lock height)
  let r : SwapRecord := ⟨params, height, .service key, (← node).network⟩
  putRecord r
  pure ⟨r.address, pk, lock⟩

def clientWatchDirect (p : Preimage) (key : String) (serviceKey : Bytes) (lock : Nat) :
    NodeM ClientWatch := do
  let s ← lift (Error.withContext "invalid service public key" (parsePublicKey serviceKey))
  let c ← lift (Error.withContext s!"failed to get public key for {key}"
    (((← node).wallet.publicKey key).mapError (.wrap .signing)))
  let height ← currentHeight
  let cfg := (← node).config
  if lock > min (height + cfg.maxClientLockDelta) Config.u32Max then
    throw (.invalidParameters
      s!"lock height {lock} is more than {cfg.maxClientLockDelta} blocks after current height {height}")
  let params ← lift (SwapParams.make p.paymentHash c s lock height)
  let r : SwapRecord := ⟨params, lock - cfg.maxClientLockDelta, .client key (some p), cfg.network⟩
  putRecord r
  pure ⟨r.address, r.witnessScript⟩

theorem SwapRecord.make_of_terms {h : PaymentHash} {c s : Secp256k1.PublicKey} {lock height : Nat}
    {params : SwapParams} (made : SwapParams.make h c s lock height = .ok params) {creation : Nat}
    (settled : creation ≤ height) (role : SwapRole) (net : Network) :
    SwapRecord.make params creation role net = .ok ⟨params, creation, role, net⟩ := by
  obtain ⟨after, -, rfl⟩ := SwapParams.make_eq_ok.mp made
  exact SwapRecord.make_eq_ok.mpr ⟨by dsimp only; omega, rfl⟩

theorem serviceInit_eq_direct (hash clientKey : Bytes) :
    serviceInit hash clientKey = serviceInitDirect hash clientKey := by
  unfold serviceInit serviceInitDirect
  refine bind_congr fun h => bind_congr fun c => bind_congr fun n => ?_
  dsimp only
  by_cases taken : n.index.contains h.bytes = true
  · rw [if_pos taken, if_pos taken, NodeM.throw_bind, NodeM.throw_bind]
  rw [if_neg taken, if_neg taken]
  refine bind_congr fun height => bind_congr fun n' => ?_
  by_cases overflows : height + n'.config.lockDelta > Config.u32Max
  · rw [if_pos overflows, if_pos overflows, NodeM.throw_bind, NodeM.throw_bind]
  rw [if_neg overflows, if_neg overflows]
  refine bind_congr fun derived => ?_
  apply NodeM.lift_bind_congr
  intro params made
  -- the service creates the swap at the height its terms were checked against
  refine bind_congr fun n'' => ?_
  rw [SwapRecord.make_of_terms made (le_refl height), NodeM.lift_ok_bind]

theorem clientWatch_eq_direct (p : Preimage) (key : String) (serviceKey : Bytes) (lock : Nat) :
    clientWatch p key serviceKey lock = clientWatchDirect p key serviceKey lock := by
  unfold clientWatch clientWatchDirect
  refine bind_congr fun s => bind_congr fun n => bind_congr fun c => bind_congr fun height =>
    bind_congr fun n' => ?_
  dsimp only
  by_cases far : lock > min (height + n'.config.maxClientLockDelta) Config.u32Max
  · rw [if_pos far, if_pos far, NodeM.throw_bind, NodeM.throw_bind]
  rw [if_neg far, if_neg far]
  apply NodeM.lift_bind_congr
  intro params made
  -- the window puts the creation height, the lock less the window, at or below the height
  have near : lock ≤ height + n'.config.maxClientLockDelta :=
    le_trans (Nat.le_of_not_lt far) (min_le_left _ _)
  rw [SwapRecord.make_of_terms made (by omega), NodeM.lift_ok_bind]

end Records

section ExplicitRates

variable {s : Site} {v maxRate : Nat}

theorem NodeM.run_resolveFeeRate (satPerVbyte confTarget : Nat) (s : Site) :
    (resolveFeeRate satPerVbyte confTarget).run s =
      match FeePreference.ofHints satPerVbyte confTarget >>= s.node.policy.resolve s.node.estimator with
      | .ok rate => .ok rate s
      | .error e => .error e s := by
  cases hints : FeePreference.ofHints satPerVbyte confTarget with
  | error e =>
    rw [resolveFeeRate, NodeM.run_bind, hints, NodeM.run_lift_error]
    rfl
  | ok pref =>
    simp only [resolveFeeRate, NodeM.run_bind, hints, NodeM.run_lift_ok, NodeM.run_node]
    cases resolved : s.node.policy.resolve s.node.estimator pref with
    | error e => simp only [NodeM.run_lift_error, bind, Except.bind, resolved]
    | ok rate => simp only [NodeM.run_lift_ok, bind, Except.bind, resolved]

theorem run_resolveFeeRate_explicit (positive : 0 < v) (fits : maxRate ≤ 73786976294838206)
    (ceiling : s.node.policy.maxFeeRate = 250 * maxRate) :
    (v ≤ maxRate → (resolveFeeRate v 0).run s = .ok (max (250 * v) feeRateFloor) s) ∧
      (maxRate < v → ∃ e, (resolveFeeRate v 0).run s = .error e s ∧ e.kind = .invalidParameters) := by
  have nonzero : v ≠ 0 := Nat.pos_iff_ne_zero.mp positive
  constructor
  · intro allowed
    have hints := FeePreference.ofHints_of_le (c := 0) (le_trans allowed fits)
    have within : 250 * v ≤ s.node.policy.maxFeeRate := by rw [ceiling]; omega
    simp [NodeM.run_resolveFeeRate, hints, nonzero, bind, Except.bind,
      FeePolicy.resolve_of_rate, FeePolicy.explicitRate_of_le within]
  · intro above
    by_cases representable : v ≤ 73786976294838206
    · -- the hint reads, and the policy refuses a rate above its ceiling
      have hints := FeePreference.ofHints_of_le (c := 0) representable
      have beyond : s.node.policy.maxFeeRate < 250 * v := by rw [ceiling]; omega
      obtain ⟨e, refused, kind⟩ := FeePolicy.explicitRate_eq_error_iff.mpr beyond
      refine ⟨e, ?_, kind⟩
      simp [NodeM.run_resolveFeeRate, hints, nonzero, bind, Except.bind, FeePolicy.resolve_of_rate,
        refused]
    · -- the hint itself overflows 64 bits
      simp [NodeM.run_resolveFeeRate, FeePreference.ofHints, nonzero,
        rateOfSatPerVbyte_of_lt (Nat.lt_of_not_le representable), bind, Except.bind, throw,
        throwThe, MonadExceptOf.throw, Error.invalidParameters, Error.kind]

end ExplicitRates

/-- An explicit hint is accepted exactly up to the configured maximum and resolves to
`max (250 * v) feeRateFloor`. -/
theorem explicit_rate_bounded_by_ceiling_and_floor (c : Config) (valid : c.validate = .ok ())
    (s : Site) (policy : c.feePolicy = .ok s.node.policy) (v : Nat) (positive : 0 < v) :
    ((∃ rate, (resolveFeeRate v 0).run s = .ok rate s) ↔ v ≤ c.maxFeeRateSatPerVb) ∧
      (∀ rate s', (resolveFeeRate v 0).run s = .ok rate s' →
        s' = s ∧ rate = max (250 * v) feeRateFloor ∧
          rate ≤ max (250 * c.maxFeeRateSatPerVb) feeRateFloor) ∧
      (∀ e s', (resolveFeeRate v 0).run s = .error e s' → e.kind = .invalidParameters) := by
  have fits := (Config.validate_eq_ok_iff.mp valid).2.2.2.2.2
  have ceiling : s.node.policy.maxFeeRate = 250 * c.maxFeeRateSatPerVb := by
    rw [Config.feePolicy_of_le fits, Except.ok.injEq] at policy
    rw [← policy]
  obtain ⟨accepted, refused⟩ := run_resolveFeeRate_explicit positive fits ceiling
  refine ⟨⟨fun ⟨rate, resolved⟩ => ?_, fun allowed => ⟨_, accepted allowed⟩⟩, ?_, ?_⟩
  · by_contra above
    obtain ⟨e, failed, -⟩ := refused (Nat.lt_of_not_le above)
    rw [failed] at resolved
    cases resolved
  · intro rate s' resolved
    by_cases allowed : v ≤ c.maxFeeRateSatPerVb
    · rw [accepted allowed, EStateM.Result.ok.injEq] at resolved
      obtain ⟨rfl, rfl⟩ := resolved
      exact ⟨rfl, rfl, max_le_max (by omega) (le_refl _)⟩
    · obtain ⟨e, failed, -⟩ := refused (Nat.lt_of_not_le allowed)
      rw [failed] at resolved
      cases resolved
  · intro e s' resolved
    by_cases allowed : v ≤ c.maxFeeRateSatPerVb
    · rw [accepted allowed] at resolved
      cases resolved
    · obtain ⟨e', failed, kind⟩ := refused (Nat.lt_of_not_le allowed)
      rw [failed, EStateM.Result.error.injEq] at resolved
      exact resolved.1 ▸ kind

/-- A hint of one sat/vB on a server created with the default configuration. -/
theorem explicit_rate_bounded_at_default :
    let c : Config := {}
    let s : Site :=
      ⟨{ name := "server", config := c, policy := ⟨2500000, 6⟩, index := { network := .regtest },
         wallet := { name := "server", network := .regtest }, feeRate := none }, { height := 0 }⟩
    c.validate = .ok () ∧ c.feePolicy = .ok s.node.policy ∧ 0 < 1 ∧
      (((∃ rate, (resolveFeeRate 1 0).run s = .ok rate s) ↔ 1 ≤ c.maxFeeRateSatPerVb) ∧
        (∀ rate s', (resolveFeeRate 1 0).run s = .ok rate s' →
          s' = s ∧ rate = max (250 * 1) feeRateFloor ∧
            rate ≤ max (250 * c.maxFeeRateSatPerVb) feeRateFloor) ∧
        (∀ e s', (resolveFeeRate 1 0).run s = .error e s' → e.kind = .invalidParameters)) :=
  ⟨rfl, rfl, Nat.one_pos, explicit_rate_bounded_by_ceiling_and_floor {} rfl _ rfl 1 Nat.one_pos⟩

/-- With a ceiling of one sat/vB, 250 sat/kwu, a valid configuration accepts a hint of one sat/vB
and resolves it to the floor of 253 sat/kwu, above the ceiling. -/
theorem explicit_rate_above_ceiling_of_one :
    let c : Config := { maxFeeRateSatPerVb := 1 }
    let s : Site :=
      ⟨{ name := "service", config := c, policy := ⟨250, 6⟩, index := { network := .regtest },
         wallet := { name := "service", network := .regtest }, feeRate := some 1000 },
       { height := 800000 }⟩
    c.validate = .ok () ∧ c.feePolicy = .ok s.node.policy ∧
      (resolveFeeRate 1 0).run s = .ok 253 s ∧ 250 * c.maxFeeRateSatPerVb < 253 :=
  ⟨rfl, rfl, rfl, by decide⟩

/-- What a valid configuration guarantees downstream. -/
structure Config.Guarantees (c : Config) : Prop where
  feePolicy : c.feePolicy = .ok ⟨250 * c.maxFeeRateSatPerVb, c.defaultConfTarget⟩
  server_created : ∀ (name : String) (feeRate : Option Nat),
    ∃ n : Node, Node.create name c feeRate = .ok n ∧ n.config = c ∧ n.policy = c.policy
  notifier_created : ∃ pn : PeerNotifier,
    PeerNotifier.ofConfig c = .ok pn ∧ pn.broker.capacity = c.subscriberQueueSize
  serviceInit_unchecked : ∀ hash clientKey : Bytes,
    serviceInit hash clientKey = serviceInitDirect hash clientKey
  clientWatch_unchecked : ∀ (p : Preimage) (key : String) (serviceKey : Bytes) (lock : Nat),
    clientWatch p key serviceKey lock = clientWatchDirect p key serviceKey lock
  empty_preference_asks_default : ∀ {m : Type → Type} [Monad m] (estimator : FeeEstimatorIn m),
    c.policy.resolveIn estimator {} = estimator c.defaultConfTarget >>= fun reply =>
      pure (FeePolicy.estimateAnswer c.defaultConfTarget reply)
  empty_preference_error_kind : ∀ (estimator : FeeEstimator) (e : Error),
    c.policy.resolve estimator {} = .error e → e.kind = .feeEstimationUnavailable

/-- What a configuration that passes its checks guarantees downstream. -/
theorem valid_config_guarantees (c : Config) :
    (c.validate = .ok () → c.Guarantees) ∧
      (∀ text : String, Config.ofToml text = .ok c → c.validate = .ok () ∧ c.Guarantees) := by
  have guarantees : c.validate = .ok () → c.Guarantees := by
    intro valid
    obtain ⟨-, -, low, high, -, fits⟩ := Config.validate_eq_ok_iff.mp valid
    have asked : c.policy.estimatorTarget? {} = some c.defaultConfTarget :=
      (c.policy.estimatorTarget?_eq_some_iff).mpr ⟨rfl, rfl, low, high⟩
    exact {
      feePolicy := Config.feePolicy_of_le fits
      server_created := fun name feeRate => ⟨_, Node.create_of_valid valid name feeRate, rfl, rfl⟩
      notifier_created := ⟨_, PeerNotifier.ofConfig_of_valid valid, rfl⟩
      serviceInit_unchecked := serviceInit_eq_direct
      clientWatch_unchecked := clientWatch_eq_direct
      empty_preference_asks_default := c.policy.resolveIn_of_estimatorTarget asked
      empty_preference_error_kind := fun estimator _ refused =>
        Config.resolve_empty_error_kind valid estimator refused }
  exact ⟨guarantees, fun text read =>
    ⟨Config.validate_of_ofToml read, guarantees (Config.validate_of_ofToml read)⟩⟩

end SubmarineSwap.Server
