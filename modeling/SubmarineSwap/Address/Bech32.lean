import SubmarineSwap.Bytes

namespace SubmarineSwap.Bech32

def charset : List Char := "qpzry9x8gf2tvdw0s3jn54khce6mua7l".toList

/-- The two checksum variants, told apart by the constant the checksum is masked with. -/
inductive Variant where
  | bech32
  | bech32m
  deriving DecidableEq

def Variant.constant : Variant → Nat
  | .bech32 => 1
  | .bech32m => 0x2bc830a3

def generators : List Nat := [0x3b6a57b2, 0x26508e6d, 0x1ea119fa, 0x3d4233dd, 0x2a1462b3]

def polymodStep (chk v : Nat) : Nat :=
  let top := chk >>> 25
  let base := ((chk &&& 0x1ffffff) <<< 5) ^^^ v
  (List.range 5).foldl (fun acc i => if (top >>> i) % 2 = 1 then acc ^^^ generators.getD i 0 else acc) base

def polymod (values : List Nat) : Nat := values.foldl polymodStep 1

def hrpExpand (hrp : List Char) : List Nat :=
  hrp.map (·.toNat >>> 5) ++ [0] ++ hrp.map (·.toNat &&& 31)

def checksum (variant : Variant) (hrp : List Char) (data : List Nat) : List Nat :=
  let pm := polymod (hrpExpand hrp ++ data ++ [0, 0, 0, 0, 0, 0]) ^^^ variant.constant
  (List.range 6).map fun i => (pm >>> (5 * (5 - i))) &&& 31

def hasChecksum (variant : Variant) (hrp : List Char) (dataWithChecksum : List Nat) : Bool :=
  polymod (hrpExpand hrp ++ dataWithChecksum) == variant.constant

/-- Regroups bits, most significant first, from `fromBits`-bit to `toBits`-bit values; a last
incomplete group is padded with zeros. -/
def regroup (fromBits toBits : Nat) (values : List Nat) : List Nat × Nat × Nat :=
  values.foldl
    (fun (out, acc, bits) v =>
      let acc := (acc <<< fromBits) ||| v
      let bits := bits + fromBits
      let n := bits / toBits
      let rest := bits % toBits
      let groups := (List.range n).map fun i => (acc >>> (rest + toBits * (n - 1 - i))) % Nat.pow 2 toBits
      (out ++ groups, acc % Nat.pow 2 rest, rest))
    ([], 0, 0)

def toGroups (bs : Bytes) : List Nat :=
  let (out, acc, bits) := regroup 8 5 (bs.map (·.toNat))
  if bits = 0 then out else out ++ [(acc <<< (5 - bits)) % 32]

/-- 5-bit groups as bytes; fails unless at most four padding bits remain and they are zero. -/
def ofGroups? (groups : List Nat) : Option Bytes :=
  let (out, acc, bits) := regroup 5 8 groups
  if bits ≥ 5 ∨ acc ≠ 0 then none else some (out.map (·.toUInt8))

def encodeSegwit (hrp : String) (version : Nat) (program : Bytes) : String :=
  let variant := if version = 0 then Variant.bech32 else Variant.bech32m
  let data := version :: toGroups program
  let groups := data ++ checksum variant hrp.toList data
  hrp ++ "1" ++ String.ofList (groups.map fun g => charset.getD g 'q')

structure Segwit where
  hrp : String
  version : Nat
  program : Bytes

def maxSegwitLength : Nat := 90

/-- Reads a segwit address string, checking its case, length, checksum variant, padding and
program size. -/
def decodeSegwit? (s : String) : Option Segwit := do
  let cs := s.toList
  guard (cs.length ≤ maxSegwitLength)
  guard (!(cs.any Char.isUpper && cs.any Char.isLower))
  let lower := cs.map Char.toLower
  let sep ← (List.range lower.length).reverse.find? fun i => lower.getD i ' ' == '1'
  let hrp := lower.take sep
  let dataChars := lower.drop (sep + 1)
  guard (1 ≤ hrp.length ∧ hrp.length ≤ 83)
  guard (hrp.all fun c => 33 ≤ c.toNat ∧ c.toNat ≤ 126)
  let values ← dataChars.mapM fun c => charset.idxOf? c
  guard (values.length ≥ 7)
  let version := values.headD 0
  guard (version ≤ 16)
  let variant := if version = 0 then Variant.bech32 else Variant.bech32m
  guard (hasChecksum variant hrp values)
  let program ← ofGroups? ((values.drop 1).take (values.length - 7))
  guard (2 ≤ program.length ∧ program.length ≤ 40)
  guard (version ≠ 0 ∨ program.length = 20 ∨ program.length = 32)
  pure ⟨String.ofList hrp, version, program⟩

end SubmarineSwap.Bech32
