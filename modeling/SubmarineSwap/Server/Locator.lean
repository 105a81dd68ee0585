import SubmarineSwap.Swap.Preimage
import SubmarineSwap.Address

namespace SubmarineSwap.Server

def parseAddressFor (n : Network) (s : String) : Except Error Address :=
  match Address.parseFor n s with
  | .ok a => .ok a
  | .error e => .error (.context s!"invalid address {s}" (.invalidParameters e.message))

inductive SwapLocator where
  | hash (h : PaymentHash)
  | address (a : Address)
  deriving DecidableEq, Repr

/-- A non-empty hash wins; otherwise the address is read. -/
def SwapLocator.ofRequest (hash : Bytes) (address : String) (n : Network) : Except Error SwapLocator :=
  if !hash.isEmpty then SwapLocator.hash <$> parsePaymentHash hash
  else SwapLocator.address <$> parseAddressFor n address

end SubmarineSwap.Server
