
namespace SubmarineSwap

def satPerBitcoin : Nat := 100000000

def maxU64 : Nat := 18446744073709551615

/-- An amount written in bitcoin, e.g. `0.00010000 BTC` or `0 BTC`. -/
def formatBitcoin (sat : Nat) : String :=
  let whole := toString (sat / satPerBitcoin)
  let frac := sat % satPerBitcoin
  if frac = 0 then whole ++ " BTC"
  else
    let digits := toString frac
    whole ++ "." ++ String.ofList (List.replicate (8 - digits.length) '0') ++ digits ++ " BTC"

def checkedSum (amounts : List Nat) : Option Nat :=
  amounts.foldlM (fun acc a => if acc + a ≤ maxU64 then some (acc + a) else none) 0

end SubmarineSwap
