import SubmarineSwap.Json.Value
import SubmarineSwap.Swap.Record
import SubmarineSwap.Status

namespace SubmarineSwap

open JsonValue

def ErrorKind.label : ErrorKind → String
  | .invalidParameters => "InvalidParameters"
  | .duplicateSwap => "DuplicateSwap"
  | .notFound => "NotFound"
  | .invalidPreimage => "InvalidPreimage"
  | .lockNotExpired => "LockNotExpired"
  | .insufficientFunds => "InsufficientFunds"
  | .feeEstimationUnavailable => "FeeEstimationUnavailable"
  | .chainQueryFailed => "ChainQueryFailed"
  | .signing => "Signing"
  | .store => "Store"
  | .broadcast => "Broadcast"
  | .permissionDenied => "PermissionDenied"
  | .transaction => "Transaction"
  | .subscription => "Subscription"

def Error.toJson (e : Error) : JsonValue :=
  object [("error", str e.kind.label), ("message", str e.message), ("retryable", bool e.retryable)]

def badInput (why : String) : JsonValue :=
  object [("error", str "bad_input"), ("message", str why)]

def hexJson (bs : Bytes) : JsonValue := str (Bytes.toHex bs)

def SwapRole.toJson : SwapRole → JsonValue
  | .service k => object [("role", str "service"), ("key", str k)]
  | .client k p =>
    object [("role", str "client"), ("key", str k), ("preimage", opt (hexJson ·.bytes) p)]

def SwapParams.toJson (p : SwapParams) (n : Network) : List (String × JsonValue) :=
  [("hash", hexJson p.hash.bytes), ("client_pk", hexJson p.clientKey.serialize),
    ("service_pk", hexJson p.serviceKey.serialize), ("lock_height", nat p.lockHeight),
    ("witness_script", hexJson p.witnessScript),
    ("script_pubkey", hexJson (p.address n).scriptPubKey), ("address", str (p.address n).toText)]

def SwapRecord.toJson (r : SwapRecord) : JsonValue :=
  object (r.params.toJson r.network ++
    [("creation_height", nat r.creationHeight), ("role", r.role.toJson)])

def okJson : JsonValue := object [("ok", bool true)]

def Utxo.toJson (u : Utxo) : JsonValue :=
  object [("txid", str u.outpoint.txid.toText), ("vout", nat u.outpoint.vout), ("amount", nat u.amount),
    ("height", nat u.height)]

def SettlementKind.name : SettlementKind → String
  | .redeem => "redeem"
  | .refund => "refund"

def Settlement.toJson (s : Settlement) : JsonValue :=
  object [("txid", str s.tx.txid.toText), ("hex", hexJson s.tx.encode), ("weight", nat s.tx.weight),
    ("lock_time", nat s.tx.lockTime), ("n_inputs", nat s.tx.inputs.length), ("kind", str s.kind.name),
    ("fee", nat s.fee), ("output_amount", nat s.outputAmount), ("inputs", array (s.inputs.map Utxo.toJson))]

def SwapStatus.toJson (st : SwapStatus) : JsonValue :=
  let settled := ("is_settled", bool st.isSettled)
  match st with
  | .initialized => object [("status", str "initialized"), settled]
  | .funded a => object [("status", str "funded"), ("amount", nat a), settled]
  | .redeemed t => object [("status", str "redeemed"), ("txid", str t.toText), settled]
  | .refunded t => object [("status", str "refunded"), ("txid", str t.toText), settled]

end SubmarineSwap
