import SubmarineSwap.Transaction

namespace SubmarineSwap.Transaction

open Bytes

def sighashAll : Nat := 1

/-- What input `index` signs: the double SHA-256 of the BIP143 preimage for spending `amount`
under `scriptCode`; `none` when there is no such input. -/
def segwitSighash (tx : Transaction) (index : Nat) (scriptCode : Bytes) (amount : Nat) :
    Option Bytes := do
  let input ← tx.inputs[index]?
  let prevouts := Hash.sha256d (tx.inputs.flatMap fun i => encodeOutPoint i.previousOutput)
  let sequences := Hash.sha256d (tx.inputs.flatMap fun i => u32 i.sequence)
  let outputs := Hash.sha256d (tx.outputs.flatMap encodeOutput)
  pure (Hash.sha256d (u32 tx.version ++ prevouts ++ sequences ++ encodeOutPoint input.previousOutput
    ++ withLength scriptCode ++ u64 amount ++ u32 input.sequence ++ outputs ++ u32 tx.lockTime
    ++ u32 sighashAll))

end SubmarineSwap.Transaction
