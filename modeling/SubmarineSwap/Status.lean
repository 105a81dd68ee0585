import SubmarineSwap.Settlement

namespace SubmarineSwap

inductive SwapStatus where
  | initialized
  | funded (amount : Nat)
  | redeemed (txid : Txid)
  | refunded (txid : Txid)
  deriving DecidableEq, Repr

def SwapStatus.isSettled : SwapStatus → Bool
  | .redeemed _ | .refunded _ => true
  | _ => false

def classifyInput (r : SwapRecord) (input : TxIn) : Option SettlementKind :=
  match input.witness with
  | [_, sel, script] =>
    if script ≠ r.witnessScript then none
    else if sel = [] then some .refund
    else if sel.length = preimageSize ∧ Hash.sha256 sel = r.hash then some .redeem
    else none
  | _ => none

/-- How a transaction settles the swap: as its first input that settles it does. -/
def classifySpend (r : SwapRecord) (tx : Transaction) : Option SettlementKind :=
  tx.inputs.findSome? (classifyInput r)

def swapStatus (r : SwapRecord) (unspent : List Utxo) (spends : List Transaction) :
    Except Error SwapStatus :=
  match spends.findSome? fun tx => (classifySpend r tx).map fun k => (k, tx.txid) with
  | some (.redeem, t) => .ok (.redeemed t)
  | some (.refund, t) => .ok (.refunded t)
  | none => if unspent.isEmpty then .ok .initialized else .funded <$> totalAmount unspent

end SubmarineSwap
