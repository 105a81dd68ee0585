import SubmarineSwap.Error

namespace SubmarineSwap.Simulation

inductive FailureMode where
  | chainQuery
  | store
  | signing
  | broadcast
  | notFound
  | other
  deriving DecidableEq, Repr

namespace FailureMode

def ofName (s : String) : FailureMode :=
  match s with
  | "chain_query" => chainQuery
  | "store" => store
  | "signing" => signing
  | "broadcast" => broadcast
  | "not_found" => notFound
  | _ => other

def error (subject : String) : FailureMode → Error
  | chainQuery => .raise .chainQueryFailed (subject ++ " unavailable")
  | store => .raise .store (subject ++ " backend down")
  | signing => .raise .signing (subject ++ " refused")
  | broadcast => .raise .broadcast (subject ++ " rejected")
  | notFound => .raise .notFound (subject ++ " missing")
  | other => .raise .invalidParameters (subject ++ " failed")

end FailureMode

end SubmarineSwap.Simulation
