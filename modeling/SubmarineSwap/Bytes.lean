
namespace SubmarineSwap

abbrev Bytes := List UInt8

namespace Bytes

def hexDigit (n : Nat) : Char :=
  if n < 10 then Char.ofNat (48 + n) else Char.ofNat (87 + n)

def hexValue? (c : Char) : Option Nat :=
  if '0' ≤ c ∧ c ≤ '9' then some (c.toNat - 48)
  else if 'a' ≤ c ∧ c ≤ 'f' then some (c.toNat - 87)
  else if 'A' ≤ c ∧ c ≤ 'F' then some (c.toNat - 55)
  else none

def toHex (bs : Bytes) : String :=
  String.ofList (bs.flatMap fun b => [hexDigit (b.toNat / 16), hexDigit (b.toNat % 16)])

def ofHexChars? : List Char → Option Bytes
  | [] => some []
  | [_] => none
  | hi :: lo :: rest => do
    let h ← hexValue? hi
    let l ← hexValue? lo
    let tail ← ofHexChars? rest
    pure ((h * 16 + l).toUInt8 :: tail)

def ofHex? (s : String) : Option Bytes :=
  ofHexChars? s.toList

def ofNatLE (width n : Nat) : Bytes :=
  (List.range width).map fun i => (n / Nat.pow 256 i % 256).toUInt8

def ofNatBE (width n : Nat) : Bytes :=
  (ofNatLE width n).reverse

def toNatLE (bs : Bytes) : Nat :=
  bs.foldr (fun b acc => b.toNat + 256 * acc) 0

def toNatBE (bs : Bytes) : Nat :=
  bs.foldl (fun acc b => 256 * acc + b.toNat) 0

def u32 (n : Nat) : Bytes := ofNatLE 4 n

def u64 (n : Nat) : Bytes := ofNatLE 8 n

/-- The compact-size prefix of a count: one byte below 253, else a marker and 2, 4 or 8 bytes. -/
def compactSize (n : Nat) : Bytes :=
  if n < 253 then [n.toUInt8]
  else if n < 0x10000 then 0xfd :: ofNatLE 2 n
  else if n < 0x100000000 then 0xfe :: ofNatLE 4 n
  else 0xff :: ofNatLE 8 n

def withLength (bs : Bytes) : Bytes :=
  compactSize bs.length ++ bs

/-- Consecutive pieces of `size` bytes; the last may be shorter. -/
def chunks (size : Nat) (bs : Bytes) : List Bytes :=
  if _h : size = 0 ∨ bs = [] then []
  else bs.take size :: chunks size (bs.drop size)
termination_by bs.length
decreasing_by
  have : bs.length ≠ 0 := by simp_all
  simp only [List.length_drop]
  omega

theorem ofNatLE_length (width n : Nat) : (ofNatLE width n).length = width := by
  simp [ofNatLE]

theorem ofNatBE_length (width n : Nat) : (ofNatBE width n).length = width := by
  simp [ofNatBE, ofNatLE_length]

theorem compactSize_length (n : Nat) :
    (compactSize n).length =
      if n < 253 then 1 else if n < 0x10000 then 3 else if n < 0x100000000 then 5 else 9 := by
  unfold compactSize
  split
  · rfl
  · split
    · simp [ofNatLE_length]
    · split <;> simp [ofNatLE_length]

end Bytes

end SubmarineSwap
