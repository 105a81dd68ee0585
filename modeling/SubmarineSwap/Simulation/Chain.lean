import SubmarineSwap.Utxo
import SubmarineSwap.Address
import SubmarineSwap.Simulation.Failure

namespace SubmarineSwap.Simulation

structure ChainOutput where
  utxo : Utxo
  script : Bytes
  spent : Bool := false
  deriving DecidableEq, Repr

structure Chain where
  height : Nat
  outputs : List ChainOutput := []
  confirmed : List (Transaction × Nat) := []
  fundings : Nat := 0
  unspentFailure : Option FailureMode := none
  spendsFailure : Option FailureMode := none

namespace Chain

def maxHeight : Nat := 4294967295

def setHeight (c : Chain) (h : Nat) : Chain := { c with height := h }

/-- The chain `n` blocks later, held at the largest 32-bit height. -/
def mine (c : Chain) (n : Nat) : Chain := { c with height := min (c.height + n) maxHeight }

/-- The id of the `k`-th funding transaction: the SHA-256 of `k` in eight little-endian bytes. -/
def fundingTxid (k : Nat) : Txid := ⟨Hash.sha256 (Bytes.u64 k), Hash.sha256_length _⟩

def fund (c : Chain) (script : Bytes) (amount height : Nat) : Utxo × Chain :=
  let k := c.fundings + 1
  let u : Utxo := ⟨⟨fundingTxid k, 0⟩, amount, height⟩
  (u, { c with fundings := k, outputs := c.outputs ++ [{ utxo := u, script := script }] })

/-- The chain with the next funding number used up and nothing paid, as when a funding request
is refused after its number was drawn. -/
def skipFunding (c : Chain) : Chain := { c with fundings := c.fundings + 1 }

def spendInput (outputs : List ChainOutput) (i : TxIn) : Except String (List ChainOutput) :=
  match outputs.find? (·.utxo.outpoint == i.previousOutput) with
  | none => .error s!"unknown output {i.previousOutput.toText}"
  | some o =>
    if o.spent then .error s!"double spend of {i.previousOutput.toText}"
    else .ok (outputs.map fun o =>
      if o.utxo.outpoint == i.previousOutput then { o with spent := true } else o)

def created (tx : Transaction) (height : Nat) : List ChainOutput :=
  tx.outputs.zipIdx.map fun (o, i) => { utxo := ⟨⟨tx.txid, i⟩, o.value, height⟩, script := o.scriptPubKey }

def confirm (c : Chain) (tx : Transaction) : Except String Chain := do
  let outputs ← tx.inputs.foldlM spendInput c.outputs
  pure { c with outputs := outputs ++ created tx c.height, confirmed := c.confirmed ++ [(tx, c.height)] }

def currentHeight (c : Chain) : Except Error Nat :=
  match c.unspentFailure with
  | some m => .error (m.error "chain")
  | none => .ok c.height

def unspentOutputs (c : Chain) (a : Address) (fromHeight : Nat) : Except Error (List Utxo) :=
  match c.unspentFailure with
  | some m => .error (m.error "chain")
  | none =>
    .ok ((c.outputs.filter fun o => !o.spent && o.script == a.scriptPubKey && o.utxo.height ≥ fromHeight).map
      (·.utxo))

def pays (c : Chain) (script : Bytes) (op : OutPoint) : Bool :=
  c.outputs.any fun o => o.utxo.outpoint == op && o.script == script

def spendingTransactions (c : Chain) (a : Address) (fromHeight : Nat) :
    Except Error (List Transaction) :=
  match c.spendsFailure with
  | some m => .error (m.error "chain")
  | none =>
    .ok ((c.confirmed.filter fun (tx, h) =>
      h ≥ fromHeight && tx.inputs.any fun i => c.pays a.scriptPubKey i.previousOutput).map (·.1))

end Chain

end SubmarineSwap.Simulation
