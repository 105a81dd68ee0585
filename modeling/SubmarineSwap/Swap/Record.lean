import SubmarineSwap.Swap.Params

namespace SubmarineSwap

inductive SwapRole where
  | service (key : String)
  | client (key : String) (preimage : Option Preimage)
  deriving DecidableEq

def SwapRole.key : SwapRole → String
  | .service k => k
  | .client k _ => k

structure SwapRecord where
  params : SwapParams
  creationHeight : Nat
  role : SwapRole
  network : Network
  deriving DecidableEq

namespace SwapRecord

def make (params : SwapParams) (creationHeight : Nat) (role : SwapRole) (network : Network) :
    Except Error SwapRecord :=
  if params.lockHeight ≤ creationHeight then
    .error (.invalidParameters
      s!"lock height {params.lockHeight} is not after creation height {creationHeight}")
  else .ok ⟨params, creationHeight, role, network⟩

def hash (r : SwapRecord) : Bytes := r.params.hash.bytes

def lockHeight (r : SwapRecord) : Nat := r.params.lockHeight

def witnessScript (r : SwapRecord) : Bytes := r.params.witnessScript

def address (r : SwapRecord) : Address := r.params.address r.network

def scriptPubKey (r : SwapRecord) : Bytes := r.address.scriptPubKey

end SwapRecord

end SubmarineSwap
