import SubmarineSwap.Swap.Record
import SubmarineSwap.Utxo
import SubmarineSwap.Fee
import SubmarineSwap.Transaction.Sighash
import SubmarineSwap.Secp256k1.Ecdsa
import SubmarineSwap.Scanner

namespace SubmarineSwap

open Secp256k1

/-- The size of the placeholder signature: the longest DER signature with its sighash byte. -/
def maxSignatureSize : Nat := 73

def settlementSequence : Nat := 0xfffffffd

inductive SettlementKind where
  | redeem
  | refund
  deriving DecidableEq, Repr

inductive SpendPath where
  | redeem (preimage : Preimage)
  | refund
  deriving DecidableEq

namespace SpendPath

def kind : SpendPath → SettlementKind
  | redeem _ => .redeem
  | refund => .refund

def selector : SpendPath → Bytes
  | redeem p => p.bytes
  | refund => []

def placeholderSelector : SpendPath → Bytes
  | redeem _ => List.replicate preimageSize 0
  | refund => []

def signerKey (r : SwapRecord) : SpendPath → PublicKey
  | redeem _ => r.params.serviceKey
  | refund => r.params.clientKey

end SpendPath

abbrev Signer := Bytes → Except Error Signature

/-- A signer as a settlement calls it, once for each input in turn; it may keep state between
calls, as a closure does. -/
abbrev SignerIn (m : Type → Type) := Bytes → m (Except Error Signature)

/-- Signs with a secret key. The signing error for a failed nonce search is never returned, since
one of the fallback nonces always signs. -/
def keySigner (sk : SecretKey) : Signer := fun msg =>
  (sign sk msg).elim (.error (.raise .signing "no valid nonce found")) .ok

structure Settlement where
  tx : Transaction
  kind : SettlementKind
  fee : Nat
  inputs : List Utxo

def Settlement.outputAmount (s : Settlement) : Nat :=
  s.tx.outputs.foldl (fun acc o => acc + o.value) 0

/-- The lock time of a settlement: zero for a redeem, the lock height for a refund, which must be
a block height. -/
def settlementLockTime (r : SwapRecord) : SpendPath → Except Error Nat
  | .redeem _ => .ok 0
  | .refund =>
    if r.lockHeight < lockTimeThreshold then .ok r.lockHeight
    else .error (.raise .transaction
      s!"invalid lock time value {r.lockHeight}, expected lock-by-blockheight (must be < 500000000)")

def unsignedSettlement (r : SwapRecord) (path : SpendPath) (destination : Bytes)
    (outpoints : List OutPoint) (value : Nat) : Except Error Transaction := do
  let lockTime ← settlementLockTime r path
  pure ⟨2, outpoints.map fun o => { previousOutput := o, sequence := settlementSequence }, [⟨value, destination⟩], lockTime⟩

def estimateWeight (r : SwapRecord) (path : SpendPath) (destination : Bytes) (n : Nat) :
    Except Error Nat := do
  let outpoints := (List.range n).map fun i => ⟨Txid.zero, i⟩
  let tx ← unsignedSettlement r path destination outpoints 0
  let witness := [List.replicate maxSignatureSize 0, path.placeholderSelector, r.witnessScript]
  let placeholder : Transaction := { tx with inputs := tx.inputs.map fun i => { i with witness := witness } }
  pure placeholder.weight

def noUnspentOutputs (r : SwapRecord) : Error :=
  .raise .insufficientFunds s!"no unspent outputs at swap address {r.address.toText}"

def redeemFee (r : SwapRecord) (destination : Bytes) (rate : Nat) (utxos : List Utxo) :
    Except Error Nat := do
  if utxos.isEmpty then throw (noUnspentOutputs r)
  let weight ← estimateWeight r (.redeem .zero) destination utxos.length
  feeForWeight rate weight

def verifyPreimage (r : SwapRecord) (p : Preimage) : Except Error Unit :=
  if p.hash = r.hash then .ok ()
  else .error (.raise .invalidPreimage s!"preimage does not match payment hash {Bytes.toHex r.hash}")

def verifyLockExpired (r : SwapRecord) (currentHeight : Nat) : Except Error Unit :=
  if currentHeight < r.lockHeight then
    .error (.raise .lockNotExpired
      s!"refund of {Bytes.toHex r.hash} is locked until height {r.lockHeight}, current height is {currentHeight}")
  else .ok ()

def insufficientDeposit (total fee dust : Nat) : Error :=
  .raise .insufficientFunds
    s!"deposit of {formatBitcoin total} cannot pay fee of {formatBitcoin fee} and leave at least {formatBitcoin dust}"

structure SettlementDraft where
  tx : Transaction
  fee : Nat

/-- Everything a settlement decides before it signs: it is refused without outputs to spend, when
their total overflows, when the fee computation overflows, and when what the fee leaves is dust. -/
def draftSettlement (r : SwapRecord) (path : SpendPath) (destination : Address) (rate : Nat)
    (utxos : List Utxo) : Except Error SettlementDraft := do
  if utxos.isEmpty then throw (noUnspentOutputs r)
  let script := destination.scriptPubKey
  let total ← totalAmount utxos
  let weight ← estimateWeight r path script utxos.length
  let fee ← feeForWeight rate weight
  let dust := OutputScript.minimalNonDust script
  if total < fee + dust then throw (insufficientDeposit total fee dust)
  let tx ← unsignedSettlement r path script (utxos.map (·.outpoint)) (total - fee)
  pure ⟨tx, fee⟩

section Signing

variable {m : Type → Type} [Monad m]

def inputMessage (r : SwapRecord) (tx : Transaction) (index : Nat) (utxo : Utxo) : Bytes :=
  (tx.segwitSighash index r.witnessScript utxo.amount).getD []

def signInput (r : SwapRecord) (path : SpendPath) (tx : Transaction) (signer : SignerIn m)
    (index : Nat) (utxo : Utxo) : ExceptT Error m (List Bytes) := do
  let msg := inputMessage r tx index utxo
  let sig ← ExceptT.mk (Error.withContext s!"failed to sign input {utxo.outpoint.toText}" <$> signer msg)
  unless verify (path.signerKey r) msg sig do
    throw (.context s!"failed to verify own signature for input {index}"
      (.raise .signing "signature failed verification"))
  pure [sig.der ++ [1], path.selector, r.witnessScript]

/-- The witnesses of the inputs spending `utxos`, the first of them input `first`, signed in
order; the first failure stops the loop. -/
def signInputs (r : SwapRecord) (path : SpendPath) (tx : Transaction) (signer : SignerIn m)
    (utxos : List Utxo) (first : Nat) : ExceptT Error m (List (List Bytes)) :=
  (utxos.zipIdx first).mapM fun (u, i) => signInput r path tx signer i u

/-- A signed settlement of all `utxos` to `destination`, if they pay the fee and leave at least
the destination's dust limit. Nothing is signed before the draft stands. -/
def buildSettlement (r : SwapRecord) (path : SpendPath) (destination : Address) (rate : Nat)
    (utxos : List Utxo) (signer : SignerIn m) : ExceptT Error m Settlement := do
  let draft ← draftSettlement r path destination rate utxos
  let witnesses ← signInputs r path draft.tx signer utxos 0
  pure ⟨draft.tx.withWitnesses witnesses, path.kind, draft.fee, utxos⟩

/-- A redeem with the preimage, which is checked before anything else. -/
def buildRedeem (r : SwapRecord) (p : Preimage) (destination : Address) (rate : Nat)
    (utxos : List Utxo) (signer : SignerIn m) : ExceptT Error m Settlement := do
  verifyPreimage r p
  buildSettlement r (.redeem p) destination rate utxos signer

def buildRefund (r : SwapRecord) (destination : Address) (rate currentHeight : Nat)
    (utxos : List Utxo) (signer : SignerIn m) : ExceptT Error m Settlement := do
  verifyLockExpired r currentHeight
  buildSettlement r .refund destination rate utxos signer

end Signing

structure SettlementBuilder (m : Type → Type) where
  /-- The chain's unspent outputs paying an address, confirmed at or after a height. -/
  unspentOutputs : Address → Nat → m (Except Error (List Utxo))

namespace SettlementBuilder

variable {m : Type → Type} [Monad m]

def scanSwap (b : SettlementBuilder m) (r : SwapRecord) : ExceptT Error m (List Utxo) :=
  ExceptT.mk (scanAnswer r.address r.creationHeight <$> b.unspentOutputs r.address r.creationHeight)

/-- A redeem of everything unspent at the swap's address. The preimage is checked before the
scan, so a wrong one costs no chain query. -/
def buildRedeem (b : SettlementBuilder m) (r : SwapRecord) (p : Preimage) (destination : Address)
    (rate : Nat) (signer : SignerIn m) : ExceptT Error m Settlement := do
  verifyPreimage r p
  let utxos ← b.scanSwap r
  SubmarineSwap.buildRedeem r p destination rate utxos signer

def buildRefund (b : SettlementBuilder m) (r : SwapRecord) (destination : Address)
    (rate currentHeight : Nat) (signer : SignerIn m) : ExceptT Error m Settlement := do
  verifyLockExpired r currentHeight
  let utxos ← b.scanSwap r
  SubmarineSwap.buildRefund r destination rate currentHeight utxos signer

end SettlementBuilder

end SubmarineSwap
