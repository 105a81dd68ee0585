import SubmarineSwap.Transaction

namespace SubmarineSwap.Transaction

open Bytes

abbrev Reader := StateT Bytes Option

def readBytes (n : Nat) : Reader Bytes := do
  let bs ← get
  if bs.length < n then failure
  set (bs.drop n)
  pure (bs.take n)

def readLE (n : Nat) : Reader Nat := toNatLE <$> readBytes n

/-- A compact size in its shortest form. -/
def readCompactSize : Reader Nat := do
  let first ← readLE 1
  if first < 0xfd then pure first
  else
    let (width, least) := if first = 0xfd then (2, 0xfd) else if first = 0xfe then (4, 0x10000)
      else (8, 0x100000000)
    let n ← readLE width
    if n < least then failure else pure n

def readVarBytes : Reader Bytes := do readBytes (← readCompactSize)

def readMany {α : Type} (item : Reader α) : Nat → Reader (List α)
  | 0 => pure []
  | n + 1 => do
    let a ← item
    let rest ← readMany item n
    pure (a :: rest)

def readTxid : Reader Txid := do
  let bs ← get
  if h : 32 ≤ bs.length then
    set (bs.drop 32)
    pure ⟨bs.take 32, List.length_take_of_le h⟩
  else failure

def readInput : Reader TxIn := do
  let txid ← readTxid
  let vout ← readLE 4
  let scriptSig ← readVarBytes
  let sequence ← readLE 4
  pure { previousOutput := ⟨txid, vout⟩, scriptSig, sequence }

def readOutput : Reader TxOut := do
  let value ← readLE 8
  let script ← readVarBytes
  pure ⟨value, script⟩

def readWitness : Reader (List Bytes) := do readMany readVarBytes (← readCompactSize)

def readTransaction : Reader Transaction := do
  let version ← readLE 4
  let inputs ← readMany readInput (← readCompactSize)
  if inputs.isEmpty then
    let flag ← readLE 1
    if flag ≠ 1 then failure
    let inputs ← readMany readInput (← readCompactSize)
    let outputs ← readMany readOutput (← readCompactSize)
    let witnesses ← readMany readWitness inputs.length
    if !inputs.isEmpty && witnesses.all List.isEmpty then failure
    let lockTime ← readLE 4
    pure ⟨version, (inputs.zip witnesses).map fun (i, w) => { i with witness := w }, outputs, lockTime⟩
  else
    let outputs ← readMany readOutput (← readCompactSize)
    let lockTime ← readLE 4
    pure ⟨version, inputs, outputs, lockTime⟩

def decode? (bs : Bytes) : Option Transaction :=
  match readTransaction.run bs with
  | some (tx, []) => some tx
  | _ => none

end SubmarineSwap.Transaction
