
namespace SubmarineSwap

inductive ErrorKind where
  | invalidParameters
  | duplicateSwap
  | notFound
  | invalidPreimage
  | lockNotExpired
  | insufficientFunds
  | feeEstimationUnavailable
  | chainQueryFailed
  | signing
  | store
  | broadcast
  | permissionDenied
  | transaction
  | subscription
  deriving DecidableEq, Repr

namespace ErrorKind

def text : ErrorKind → String
  | invalidParameters => "invalid parameters"
  | duplicateSwap => "duplicate swap"
  | notFound => "not found"
  | invalidPreimage => "invalid preimage"
  | lockNotExpired => "lock not expired"
  | insufficientFunds => "insufficient funds"
  | feeEstimationUnavailable => "fee estimation unavailable"
  | chainQueryFailed => "chain query failed"
  | signing => "signing error"
  | store => "store error"
  | broadcast => "broadcast error"
  | permissionDenied => "permission denied"
  | transaction => "transaction error"
  | subscription => "subscription error"

/-- Whether trying the same call again later may succeed. -/
def retryable : ErrorKind → Bool
  | feeEstimationUnavailable | chainQueryFailed | lockNotExpired | broadcast => true
  | _ => false

end ErrorKind

/-- An error: a kind with a detail, a kind around an inner error, or a context note around an
error, which keeps the inner kind. -/
inductive Error where
  | raise (kind : ErrorKind) (detail : String)
  | wrap (kind : ErrorKind) (inner : Error)
  | context (note : String) (inner : Error)
  deriving DecidableEq, Repr

namespace Error

def kind : Error → ErrorKind
  | raise k _ => k
  | wrap k _ => k
  | context _ e => e.kind

/-- Contexts outermost first, each followed by `": "`, then the kind's text, `": "` and the
detail or the inner error's message. -/
def message : Error → String
  | raise k d => k.text ++ ": " ++ d
  | wrap k e => k.text ++ ": " ++ e.message
  | context n e => n ++ ": " ++ e.message

def retryable (e : Error) : Bool := e.kind.retryable

def invalidParameters (detail : String) : Error := raise .invalidParameters detail

def withContext {α : Type} (note : String) : Except Error α → Except Error α
  | .error e => .error (context note e)
  | .ok a => .ok a

@[simp] theorem kind_context (n : String) (e : Error) : (context n e).kind = e.kind := rfl

end Error

end SubmarineSwap
