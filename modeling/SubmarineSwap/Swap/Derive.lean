import SubmarineSwap.Swap.Params

namespace SubmarineSwap

structure SwapScript where
  witnessScript : Bytes
  address : Address

def SwapScript.ofParams (p : SwapParams) (n : Network) : SwapScript :=
  ⟨p.witnessScript, p.address n⟩

def deriveSwap (hash clientKey serviceKey : Bytes) (lockHeight currentHeight : Nat) (n : Network) :
    Except Error (SwapParams × SwapScript) := do
  let p ← SwapParams.ofSlices hash clientKey serviceKey lockHeight currentHeight
  pure (p, SwapScript.ofParams p n)

end SubmarineSwap
