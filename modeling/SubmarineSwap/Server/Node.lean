import SubmarineSwap.Server.Config
import SubmarineSwap.Server.Locator
import SubmarineSwap.Swap.Index
import SubmarineSwap.Simulation.Chain
import SubmarineSwap.Simulation.Wallet
import SubmarineSwap.Scanner
import SubmarineSwap.Status

namespace SubmarineSwap.Server

open Simulation

structure Node where
  name : String
  config : Config
  policy : FeePolicy
  index : SwapIndex
  wallet : Wallet
  /-- The estimator's rate for every target; none makes it fail. -/
  feeRate : Option Nat
  /-- Revealed preimages by payment hash, the latest first. -/
  preimages : List (Bytes × Preimage) := []
  preimageFailure : Bool := false
  broadcastFailure : Option FailureMode := none
  /-- The ids of the transactions the broadcaster published, in order. -/
  published : List Txid := []
  lastRefund : Option Transaction := none

namespace Node

def create (name : String) (c : Config) (feeRate : Option Nat) : Except Error Node := do
  Error.withContext "invalid swap server config" c.validate
  let policy ← c.feePolicy
  pure { name := name
         config := c
         policy := policy
         index := { network := c.network }
         wallet := { name := name, network := c.network }
         feeRate := feeRate }

def network (n : Node) : Network := n.config.network

def estimator (n : Node) : FeeEstimator := fun _ =>
  match n.feeRate with
  | some r => .ok r
  | none => .error (.raise .chainQueryFailed "fee estimator has no data")

def preimageFor (n : Node) (hash : Bytes) : Option Preimage :=
  (n.preimages.find? (·.1 == hash)).map (·.2)

def reveal (n : Node) (hash : Bytes) (p : Preimage) : Node :=
  { n with preimages := (hash, p) :: n.preimages }

def lookUpPreimage (n : Node) (hash : Bytes) : Except Error (Option Preimage) :=
  if n.preimageFailure then .error (.raise .store "preimage database offline")
  else .ok (n.preimageFor hash)

end Node

/-- A node and the chain it shares with the other nodes. -/
structure Site where
  node : Node
  chain : Chain

namespace Site

/-- Publishes a transaction: it is confirmed on the chain, then recorded. A refusal of the
chain is a transaction error. -/
def broadcast (s : Site) (tx : Transaction) : Except Error Site :=
  match s.node.broadcastFailure with
  | some m => .error (m.error "broadcast")
  | none =>
    match s.chain.confirm tx with
    | .error why => .error (.raise .transaction why)
    | .ok c => .ok { node := { s.node with published := s.node.published ++ [tx.txid] }, chain := c }

end Site

abbrev NodeM := EStateM Error Site

namespace NodeM

def lift {α : Type} (r : Except Error α) : NodeM α :=
  match r with
  | .ok a => pure a
  | .error e => throw e

def node : NodeM Node := do pure (← get).node

def modifyNode (f : Node → Node) : NodeM Unit :=
  modify fun s => { s with node := f s.node }

/-- Runs a wallet call that changes the wallet; its errors are signing errors under `note`. -/
def withWallet {α : Type} (note : String) (call : Wallet → Except Error (α × Wallet)) :
    NodeM α := do
  match call (← node).wallet with
  | .ok (a, w) =>
    modifyNode fun n => { n with wallet := w }
    pure a
  | .error e => throw (.context note (.wrap .signing e))

def currentHeight : NodeM Nat := do lift (readHeight (← get).chain.currentHeight)

def scanSwap (r : SwapRecord) : NodeM (List Utxo) := do
  lift (scanAddress (← get).chain.unspentOutputs r.address r.creationHeight)

def spendingTransactions (r : SwapRecord) : NodeM (List Transaction) := do
  match (← get).chain.spendingTransactions r.address r.creationHeight with
  | .ok txs => pure txs
  | .error e => throw (.context s!"failed to find spends of {r.address.toText}" (asChainError e))

def resolveFeeRate (satPerVbyte confTarget : Nat) : NodeM Nat := do
  let pref ← lift (FeePreference.ofHints satPerVbyte confTarget)
  let n ← node
  lift (n.policy.resolve n.estimator pref)

def signer (key : String) : NodeM Signer := do
  let w := (← node).wallet
  pure fun msg => (w.sign key msg).mapError (.wrap .signing)

def locate : SwapLocator → NodeM SwapRecord
  | .hash h => do lift ((← node).index.get h.bytes)
  | .address a => do lift ((← node).index.findByAddress a)

def putRecord (r : SwapRecord) : NodeM Unit := do
  let ix ← lift ((← node).index.put r)
  modifyNode fun n => { n with index := ix }

end NodeM

structure UnspentAmount where
  total : Nat
  lockHeight : Nat
  utxos : List Utxo

open NodeM in
def unspentAmount (loc : SwapLocator) : NodeM UnspentAmount := do
  let r ← locate loc
  let utxos ← scanSwap r
  let total ← lift (totalAmount utxos)
  pure ⟨total, r.lockHeight, utxos⟩

open NodeM in
def status (loc : SwapLocator) : NodeM SwapStatus := do
  let r ← locate loc
  let unspent ← scanSwap r
  let spends ← spendingTransactions r
  lift (swapStatus r unspent spends)

end SubmarineSwap.Server
