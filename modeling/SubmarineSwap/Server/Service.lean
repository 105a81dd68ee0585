import SubmarineSwap.Server.Node

namespace SubmarineSwap.Server

open Simulation NodeM

structure ServiceInit where
  address : Address
  serviceKey : Secp256k1.PublicKey
  lockHeight : Nat

def serviceInit (hash clientKey : Bytes) : NodeM ServiceInit := do
  let h ← lift (parsePaymentHash hash)
  let c ← lift (Error.withContext "invalid client public key" (parsePublicKey clientKey))
  if (← node).index.contains h.bytes then
    throw (.raise .duplicateSwap s!"swap with hash {Bytes.toHex h.bytes} already exists")
  let height ← currentHeight
  let lock := height + (← node).config.lockDelta
  if lock > Config.u32Max then throw (.invalidParameters "lock height overflows")
  let (key, pk) ← withWallet "failed to derive service key" Wallet.deriveKey
  let params ← lift (SwapParams.make h c pk lock height)
  let r ← lift (SwapRecord.make params height (.service key) (← node).network)
  putRecord r
  pure ⟨r.address, pk, lock⟩

def serviceKey (r : SwapRecord) : Except Error String :=
  match r.role with
  | .service k => .ok k
  | .client .. =>
    .error (.invalidParameters s!"swap {Bytes.toHex r.hash} was not created by this service")

/-- The output script of a pay-to-witness-pubkey-hash address; all of them have its size. -/
def witnessPubKeyPlaceholder : Bytes := [0x00, 0x14] ++ List.replicate 20 0

def redeemFees (hash : Bytes) (satPerVbyte confTarget : Nat) : NodeM Nat := do
  let h ← lift (parsePaymentHash hash)
  let r ← lift ((← node).index.get h.bytes)
  let _ ← lift (serviceKey r)
  let rate ← resolveFeeRate satPerVbyte confTarget
  let utxos ← scanSwap r
  lift (redeemFee r witnessPubKeyPlaceholder rate utxos)

/-- Redeems the swap with a preimage and publishes the redeem; a failure to publish is a
broadcast error. -/
def redeemSwap (h : Bytes) (p : Preimage) (satPerVbyte confTarget : Nat) : NodeM Txid := do
  let r ← lift ((← node).index.get h)
  let key ← lift (serviceKey r)
  lift (verifyPreimage r p)
  let rate ← resolveFeeRate satPerVbyte confTarget
  let destination ← withWallet "failed to get redeem address" (Wallet.newAddress · .witnessPubKey)
  let builder : SettlementBuilder Id := ⟨(← get).chain.unspentOutputs⟩
  let settlement ← lift (builder.buildRedeem r p destination rate (← signer key)).run
  match (← get).broadcast settlement.tx with
  | .ok s => set s
  | .error e =>
    throw (.context s!"failed to publish redeem of {Bytes.toHex h}"
      (if e.kind = .broadcast then e else .wrap .broadcast e))
  pure settlement.tx.txid

def redeem (hash : Bytes) (satPerVbyte confTarget : Nat) : NodeM Txid := do
  let h ← lift (parsePaymentHash hash)
  let found ← lift (Error.withContext s!"failed to look up preimage for {Bytes.toHex h.bytes}"
    ((← node).lookUpPreimage h.bytes))
  match found with
  | some p => redeemSwap h.bytes p satPerVbyte confTarget
  | none => throw (.raise .notFound s!"no preimage known for hash {Bytes.toHex h.bytes}")

def redeemWithPreimage (hash : Bytes) (p : Preimage) (satPerVbyte confTarget : Nat) :
    NodeM Txid := do
  let h ← lift (parsePaymentHash hash)
  redeemSwap h.bytes p satPerVbyte confTarget

end SubmarineSwap.Server
