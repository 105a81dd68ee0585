
namespace SubmarineSwap

inductive Network where
  | bitcoin
  | testnet
  | testnet4
  | signet
  | regtest
  deriving DecidableEq, Repr

namespace Network

def all : List Network := [bitcoin, testnet, testnet4, signet, regtest]

def name : Network → String
  | bitcoin => "bitcoin"
  | testnet => "testnet"
  | testnet4 => "testnet4"
  | signet => "signet"
  | regtest => "regtest"

def ofName? (s : String) : Option Network :=
  all.find? (·.name == s)

def hrp : Network → String
  | bitcoin => "bc"
  | testnet | testnet4 | signet => "tb"
  | regtest => "bcrt"

def isMain : Network → Bool
  | bitcoin => true
  | _ => false

theorem ofName_name (n : Network) : ofName? n.name = some n := by
  cases n <;> rfl

end Network

end SubmarineSwap
