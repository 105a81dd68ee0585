import SubmarineSwap.Server.Node

namespace SubmarineSwap.Server

open Simulation NodeM

def clientInit : NodeM (String × Secp256k1.PublicKey) :=
  withWallet "failed to derive client key" Wallet.deriveKey

structure ClientWatch where
  address : Address
  script : Bytes

/-- Records a swap the service created for the client, locked at most the configured number of
blocks after the current height. -/
def clientWatch (p : Preimage) (key : String) (serviceKey : Bytes) (lock : Nat) :
    NodeM ClientWatch := do
  let s ← lift (Error.withContext "invalid service public key" (parsePublicKey serviceKey))
  let c ← lift (Error.withContext s!"failed to get public key for {key}"
    (((← node).wallet.publicKey key).mapError (.wrap .signing)))
  let height ← currentHeight
  let cfg := (← node).config
  if lock > min (height + cfg.maxClientLockDelta) Config.u32Max then
    throw (.invalidParameters
      s!"lock height {lock} is more than {cfg.maxClientLockDelta} blocks after current height {height}")
  let params ← lift (SwapParams.make p.paymentHash c s lock height)
  let r ← lift (SwapRecord.make params (lock - cfg.maxClientLockDelta) (.client key (some p)) cfg.network)
  putRecord r
  pure ⟨r.address, r.witnessScript⟩

structure SignedRefund where
  tx : Transaction
  fee : Nat

def refund (deposit destination : String) (satPerVbyte confTarget : Nat) : NodeM SignedRefund := do
  let net := (← node).network
  let a ← lift (parseAddressFor net deposit)
  let d ← lift (parseAddressFor net destination)
  let r ← lift ((← node).index.findByAddress a)
  let key ← match r.role with
    | .client k _ => pure k
    | .service _ => throw (.invalidParameters s!"swap at {a.toText} was not created by this client")
  let height ← currentHeight
  lift (verifyLockExpired r height)
  let rate ← resolveFeeRate satPerVbyte confTarget
  let builder : SettlementBuilder Id := ⟨(← get).chain.unspentOutputs⟩
  let settlement ← lift (builder.buildRefund r d rate height (← signer key)).run
  pure ⟨settlement.tx, settlement.fee⟩

end SubmarineSwap.Server
