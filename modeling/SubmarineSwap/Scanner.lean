import SubmarineSwap.Utxo
import SubmarineSwap.Address

namespace SubmarineSwap

/-- A failure of the chain as a failed chain query; one already of that kind is kept. -/
def asChainError (e : Error) : Error :=
  if e.kind = .chainQueryFailed then e else .wrap .chainQueryFailed e

/-- The sort key: height, transaction id read as a big-endian number, output index. -/
def Utxo.scanKey (u : Utxo) : Nat × Nat × Nat :=
  (u.height, Bytes.toNatBE u.outpoint.txid.bytes, u.outpoint.vout)

def scanKeyLe (a b : Nat × Nat × Nat) : Bool :=
  a.1 < b.1 || (a.1 == b.1 && (a.2.1 < b.2.1 || (a.2.1 == b.2.1 && a.2.2 ≤ b.2.2)))

def firstPerOutpoint (utxos : List Utxo) : List Utxo :=
  utxos.foldl (fun acc u => if acc.any (·.outpoint == u.outpoint) then acc else acc ++ [u]) []

def scanResult (found : List Utxo) (fromHeight : Nat) : List Utxo :=
  (firstPerOutpoint (found.filter (·.height ≥ fromHeight))).mergeSort
    fun a b => scanKeyLe a.scanKey b.scanKey

abbrev UnspentQuery := Address → Nat → Except Error (List Utxo)

/-- What a scan of `a` from `fromHeight` reports, given the chain's answer: a failure as a failed
chain query that names the address and the height. -/
def scanAnswer (a : Address) (fromHeight : Nat) : Except Error (List Utxo) → Except Error (List Utxo)
  | .error e => .error (.context s!"failed to scan {a.toText} from height {fromHeight}" (asChainError e))
  | .ok found => .ok (scanResult found fromHeight)

def scanAddress (chain : UnspentQuery) (a : Address) (fromHeight : Nat) : Except Error (List Utxo) :=
  scanAnswer a fromHeight (chain a fromHeight)

def readHeight (height : Except Error Nat) : Except Error Nat :=
  match height with
  | .error e => .error (.context "failed to get current height" (asChainError e))
  | .ok h => .ok h

end SubmarineSwap
