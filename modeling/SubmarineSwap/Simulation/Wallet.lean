import SubmarineSwap.Settlement
import SubmarineSwap.Address

namespace SubmarineSwap.Simulation

open Secp256k1

inductive AddressKind where
  | witnessPubKey
  | nestedWitnessPubKey
  deriving DecidableEq, Repr

inductive WalletFailure where
  | derive
  | address
  | publicKey
  | sign
  | wrongKey
  deriving DecidableEq, Repr

namespace WalletFailure

def name : WalletFailure → String
  | derive => "derive"
  | address => "address"
  | publicKey => "public_key"
  | sign => "sign"
  | wrongKey => "wrong_key"

def all : List WalletFailure := [derive, address, publicKey, sign, wrongKey]

def ofName? (s : String) : Option WalletFailure := all.find? (·.name == s)

def refusal (f : WalletFailure) : Error := .raise .store s!"wallet cannot {f.name}"

end WalletFailure

structure Wallet where
  name : String
  network : Network
  derived : Nat := 0
  failure : Option WalletFailure := none

namespace Wallet

def keyName (w : Wallet) (n : Nat) : String := w.name ++ "/" ++ toString n

/-- The secret behind a key name: the SHA-256 of the name, when it is a valid scalar. -/
def secretOf (key : String) : Except Error SecretKey :=
  match SecretKey.ofBytes? (Hash.sha256 key.toUTF8.toList) with
  | some sk => .ok sk
  | none => .error (.raise .signing s!"no valid secret for key {key}")

def knows (w : Wallet) (key : String) : Bool := (List.range w.derived).any (w.keyName · == key)

def secret (w : Wallet) (key : String) : Except Error SecretKey :=
  if w.knows key then secretOf key else .error (.raise .signing s!"unknown key {key}")

def check (w : Wallet) (f : WalletFailure) : Except Error Unit :=
  if w.failure = some f then .error f.refusal else .ok ()

def deriveKey (w : Wallet) : Except Error ((String × PublicKey) × Wallet) := do
  w.check .derive
  let key := w.keyName w.derived
  let sk ← secretOf key
  pure ((key, sk.publicKey), { w with derived := w.derived + 1 })

def newAddress (w : Wallet) (kind : AddressKind) : Except Error (Address × Wallet) := do
  w.check .address
  let ((_, pk), w') ← w.deriveKey
  match kind with
  | .witnessPubKey => pure (Address.p2wpkh w.network pk, w')
  | .nestedWitnessPubKey => pure (Address.p2shP2wpkh w.network pk, w')

def publicKey (w : Wallet) (key : String) : Except Error PublicKey := do
  w.check .publicKey
  pure (← w.secret key).publicKey

/-- Signs a digest with a key, or with the secret of the name `wrong` when told to. -/
def sign (w : Wallet) (key : String) (msg : Bytes) : Except Error Signature := do
  w.check .sign
  let sk ← if w.failure = some .wrongKey then secretOf "wrong" else w.secret key
  keySigner sk msg

end Wallet

end SubmarineSwap.Simulation
