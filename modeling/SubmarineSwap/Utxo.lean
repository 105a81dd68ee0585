import SubmarineSwap.Transaction
import SubmarineSwap.Error
import SubmarineSwap.Amount

namespace SubmarineSwap

structure Utxo where
  outpoint : OutPoint
  amount : Nat
  height : Nat
  deriving DecidableEq, Repr

def totalAmount (utxos : List Utxo) : Except Error Nat :=
  match checkedSum (utxos.map (·.amount)) with
  | some t => .ok t
  | none => .error (.raise .transaction "total UTXO amount overflows")

end SubmarineSwap
