import SubmarineSwap.Error

namespace SubmarineSwap.Server

inductive Permission where
  | onchainRead
  | onchainWrite
  | offchainWrite
  deriving DecidableEq, Repr

namespace Permission

def all : List Permission := [onchainRead, onchainWrite, offchainWrite]

def name : Permission → String
  | onchainRead => "onchain:read"
  | onchainWrite => "onchain:write"
  | offchainWrite => "offchain:write"

def parse (s : String) : Except Error Permission :=
  match all.find? (·.name == s) with
  | some p => .ok p
  | none => .error (.invalidParameters s!"unknown permission: {s}")

end Permission

inductive Operation where
  | clientInit
  | serviceInit
  | clientWatch
  | unspentAmount
  | redeemFees
  | redeem
  | refund
  | swapStatus
  deriving DecidableEq, Repr

namespace Operation

def all : List Operation :=
  [clientInit, serviceInit, clientWatch, unspentAmount, redeemFees, redeem, refund, swapStatus]

def name : Operation → String
  | clientInit => "ClientInit"
  | serviceInit => "ServiceInit"
  | clientWatch => "ClientWatch"
  | unspentAmount => "UnspentAmount"
  | redeemFees => "RedeemFees"
  | redeem => "Redeem"
  | refund => "Refund"
  | swapStatus => "SwapStatus"

def ofName? (s : String) : Option Operation := all.find? (·.name == s)

def required : Operation → List Permission
  | clientInit | serviceInit => [.offchainWrite]
  | clientWatch | unspentAmount | redeemFees | swapStatus => [.onchainRead]
  | redeem | refund => [.onchainWrite]

end Operation

structure Credentials where
  granted : List Permission

/-- Credentials from permission names; the first unknown name is refused. -/
def Credentials.parse (names : List String) : Except Error Credentials :=
  Credentials.mk <$> names.mapM Permission.parse

def authorize (c : Credentials) (op : Operation) : Except Error Unit :=
  let missing := op.required.filter (· ∉ c.granted)
  if missing.isEmpty then .ok ()
  else .error (.raise .permissionDenied
    (op.name ++ " requires " ++ ", ".intercalate (missing.map Permission.name)))

end SubmarineSwap.Server
