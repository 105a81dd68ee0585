import SubmarineSwap.Address.Bech32
import SubmarineSwap.Address.Base58
import SubmarineSwap.Hash.Ripemd160
import SubmarineSwap.Network
import SubmarineSwap.Secp256k1.Key

namespace SubmarineSwap

inductive SegwitHrp where
  | mainnet
  | testnets
  | regtest
  deriving DecidableEq, Repr

namespace SegwitHrp

def text : SegwitHrp → String
  | mainnet => "bc"
  | testnets => "tb"
  | regtest => "bcrt"

def ofText? (s : String) : Option SegwitHrp :=
  [mainnet, testnets, regtest].find? (·.text == s)

def ofNetwork : Network → SegwitHrp
  | .bitcoin => mainnet
  | .testnet | .testnet4 | .signet => testnets
  | .regtest => regtest

end SegwitHrp

/-- An address: a key hash or script hash with its main-or-test flag, or a witness program. -/
inductive Address where
  | p2pkh (main : Bool) (hash : Bytes)
  | p2sh (main : Bool) (hash : Bytes)
  | segwit (hrp : SegwitHrp) (version : Nat) (program : Bytes)
  deriving DecidableEq, Repr

inductive AddressError where
  | base58
  | legacyTooLong
  | legacyPayloadLength
  | legacyPrefix
  | unknownHrp
  | wrongNetwork
  deriving DecidableEq, Repr

def AddressError.message : AddressError → String
  | .base58 => "base58 error"
  | .legacyTooLong => "legacy address base58 string"
  | .legacyPayloadLength => "legacy address base58 data"
  | .legacyPrefix => "legacy address base58 prefix"
  | .unknownHrp => "tried to parse an unknown hrp"
  | .wrongNetwork => "validation error"

namespace Address

def maxLegacyLength : Nat := 50

/-- Reads an address of any network: a valid segwit string first, else base58check with a
21-byte payload whose first byte is one of the four legacy prefixes. -/
def parse (s : String) : Except AddressError Address :=
  match Bech32.decodeSegwit? s with
  | some w =>
    match SegwitHrp.ofText? w.hrp with
    | some hrp => .ok (segwit hrp w.version w.program)
    | none => .error .unknownHrp
  | none =>
    if s.utf8ByteSize > maxLegacyLength then .error .legacyTooLong
    else
      match Base58.decodeCheck? s with
      | none => .error .base58
      | some data =>
        if data.length ≠ 21 then .error .legacyPayloadLength
        else
          let hash := data.drop 1
          match data.headD 0 with
          | 0 => .ok (p2pkh true hash)
          | 111 => .ok (p2pkh false hash)
          | 5 => .ok (p2sh true hash)
          | 196 => .ok (p2sh false hash)
          | _ => .error .legacyPrefix

/-- Whether the address belongs to the network: segwit by its prefix, legacy by main or test. -/
def isValidFor (a : Address) (n : Network) : Bool :=
  match a with
  | p2pkh main _ | p2sh main _ => main == n.isMain
  | segwit hrp _ _ => hrp == SegwitHrp.ofNetwork n

def parseFor (n : Network) (s : String) : Except AddressError Address := do
  let a ← parse s
  if a.isValidFor n then pure a else throw .wrongNetwork

/-- The standard text of the address; segwit addresses are written in lowercase. -/
def toText : Address → String
  | p2pkh main hash => Base58.encodeCheck ((if main then 0 else 111) :: hash)
  | p2sh main hash => Base58.encodeCheck ((if main then 5 else 196) :: hash)
  | segwit hrp version program => Bech32.encodeSegwit hrp.text version program

def scriptPubKey : Address → Bytes
  | p2pkh _ hash => [0x76, 0xa9, 0x14] ++ hash ++ [0x88, 0xac]
  | p2sh _ hash => [0xa9, 0x14] ++ hash ++ [0x87]
  | segwit _ version program =>
    (if version = 0 then 0 else (0x50 + version).toUInt8) :: program.length.toUInt8 :: program

def p2wsh (n : Network) (script : Bytes) : Address :=
  segwit (SegwitHrp.ofNetwork n) 0 (Hash.sha256 script)

def p2wpkh (n : Network) (pk : Secp256k1.PublicKey) : Address :=
  segwit (SegwitHrp.ofNetwork n) 0 (Hash.hash160 pk.serialize)

def p2shP2wpkh (n : Network) (pk : Secp256k1.PublicKey) : Address :=
  p2sh n.isMain (Hash.hash160 ([0x00, 0x14] ++ Hash.hash160 pk.serialize))

end Address

end SubmarineSwap
