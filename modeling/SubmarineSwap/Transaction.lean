import SubmarineSwap.Hash.Sha256

namespace SubmarineSwap

open Bytes

/-- A transaction id in the byte order the hash produces; it is written reversed. -/
structure Txid where
  bytes : Bytes
  length_eq : bytes.length = 32
  deriving DecidableEq, Repr

namespace Txid

def toText (t : Txid) : String := Bytes.toHex t.bytes.reverse

def ofText? (s : String) : Option Txid := do
  let bs ← Bytes.ofHex? s
  if h : bs.length = 32 then some ⟨bs.reverse, by rw [List.length_reverse, h]⟩ else none

def zero : Txid := ⟨List.replicate 32 0, List.length_replicate⟩

end Txid

structure OutPoint where
  txid : Txid
  vout : Nat
  deriving DecidableEq, Repr

def OutPoint.toText (o : OutPoint) : String := o.txid.toText ++ ":" ++ toString o.vout

structure TxIn where
  previousOutput : OutPoint
  scriptSig : Bytes := []
  sequence : Nat
  witness : List Bytes := []
  deriving DecidableEq, Repr

structure TxOut where
  value : Nat
  scriptPubKey : Bytes
  deriving DecidableEq, Repr

structure Transaction where
  version : Nat
  inputs : List TxIn
  outputs : List TxOut
  lockTime : Nat
  deriving DecidableEq, Repr

namespace Transaction

def encodeOutPoint (o : OutPoint) : Bytes := o.txid.bytes ++ u32 o.vout

def encodeInput (i : TxIn) : Bytes :=
  encodeOutPoint i.previousOutput ++ withLength i.scriptSig ++ u32 i.sequence

def encodeOutput (o : TxOut) : Bytes := u64 o.value ++ withLength o.scriptPubKey

def encodeWitness (w : List Bytes) : Bytes := compactSize w.length ++ w.flatMap withLength

def encodeInputs (tx : Transaction) : Bytes :=
  compactSize tx.inputs.length ++ tx.inputs.flatMap encodeInput

def encodeOutputs (tx : Transaction) : Bytes :=
  compactSize tx.outputs.length ++ tx.outputs.flatMap encodeOutput

/-- Whether the marker and flag are written: some witness is not empty, or there is no input. -/
def usesSegwit (tx : Transaction) : Bool :=
  tx.inputs.any (fun i => !i.witness.isEmpty) || tx.inputs.isEmpty

def encodeBase (tx : Transaction) : Bytes :=
  u32 tx.version ++ tx.encodeInputs ++ tx.encodeOutputs ++ u32 tx.lockTime

def encode (tx : Transaction) : Bytes :=
  if tx.usesSegwit then
    u32 tx.version ++ [0, 1] ++ tx.encodeInputs ++ tx.encodeOutputs
      ++ tx.inputs.flatMap (fun i => encodeWitness i.witness) ++ u32 tx.lockTime
  else tx.encodeBase

/-- Base size times three plus total size. -/
def weight (tx : Transaction) : Nat :=
  3 * tx.encodeBase.length + tx.encode.length

def txid (tx : Transaction) : Txid := ⟨Hash.sha256d tx.encodeBase, Hash.sha256d_length _⟩

/-- The transaction with the witnesses given in order to its inputs; inputs past the last witness
are dropped. -/
def withWitnesses (tx : Transaction) (witnesses : List (List Bytes)) : Transaction :=
  { tx with inputs := (tx.inputs.zip witnesses).map fun (i, w) => { i with witness := w } }

end Transaction

end SubmarineSwap
