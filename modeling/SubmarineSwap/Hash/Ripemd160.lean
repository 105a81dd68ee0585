import SubmarineSwap.Hash.Sha256

namespace SubmarineSwap.Hash

open Bytes

def ripemdLeftOrder : Array Nat := #[
  0, 1, 2, 3, 4, 5, 6, 7, 8, 9, 10, 11, 12, 13, 14, 15,
  7, 4, 13, 1, 10, 6, 15, 3, 12, 0, 9, 5, 2, 14, 11, 8,
  3, 10, 14, 4, 9, 15, 8, 1, 2, 7, 0, 6, 13, 11, 5, 12,
  1, 9, 11, 10, 0, 8, 12, 4, 13, 3, 7, 15, 14, 5, 6, 2,
  4, 0, 5, 9, 7, 12, 2, 10, 14, 1, 3, 8, 11, 6, 15, 13]

def ripemdRightOrder : Array Nat := #[
  5, 14, 7, 0, 9, 2, 11, 4, 13, 6, 15, 8, 1, 10, 3, 12,
  6, 11, 3, 7, 0, 13, 5, 10, 14, 15, 8, 12, 4, 9, 1, 2,
  15, 5, 1, 3, 7, 14, 6, 9, 11, 8, 12, 2, 10, 0, 4, 13,
  8, 6, 4, 1, 3, 11, 15, 0, 5, 12, 2, 13, 9, 7, 10, 14,
  12, 15, 10, 4, 1, 5, 8, 7, 6, 2, 13, 14, 0, 3, 9, 11]

def ripemdLeftShift : Array UInt32 := #[
  11, 14, 15, 12, 5, 8, 7, 9, 11, 13, 14, 15, 6, 7, 9, 8,
  7, 6, 8, 13, 11, 9, 7, 15, 7, 12, 15, 9, 11, 7, 13, 12,
  11, 13, 6, 7, 14, 9, 13, 15, 14, 8, 13, 6, 5, 12, 7, 5,
  11, 12, 14, 15, 14, 15, 9, 8, 9, 14, 5, 6, 8, 6, 5, 12,
  9, 15, 5, 11, 6, 8, 13, 12, 5, 12, 13, 14, 11, 8, 5, 6]

def ripemdRightShift : Array UInt32 := #[
  8, 9, 9, 11, 13, 15, 15, 5, 7, 7, 8, 11, 14, 14, 12, 6,
  9, 13, 15, 7, 12, 8, 9, 11, 7, 7, 12, 7, 6, 15, 13, 11,
  9, 7, 15, 11, 8, 6, 6, 14, 12, 13, 5, 14, 13, 13, 7, 5,
  15, 5, 8, 11, 14, 14, 6, 14, 6, 9, 12, 9, 12, 5, 15, 8,
  8, 5, 12, 9, 12, 5, 14, 6, 8, 13, 6, 5, 15, 13, 11, 11]

def ripemdLeftConst : Array UInt32 := #[0x00000000, 0x5a827999, 0x6ed9eba1, 0x8f1bbcdc, 0xa953fd4e]
def ripemdRightConst : Array UInt32 := #[0x50a28be6, 0x5c4dd124, 0x6d703ef3, 0x7a6d76e9, 0x00000000]

def rotl (x : UInt32) (n : UInt32) : UInt32 := (x <<< n) ||| (x >>> (32 - n))

def ripemdMix (r : Nat) (x y z : UInt32) : UInt32 :=
  match r with
  | 0 => x ^^^ y ^^^ z
  | 1 => (x &&& y) ||| (~~~x &&& z)
  | 2 => (x ||| ~~~y) ^^^ z
  | 3 => (x &&& z) ||| (y &&& ~~~z)
  | _ => x ^^^ (y ||| ~~~z)

structure RipemdLine where
  a : UInt32
  b : UInt32
  c : UInt32
  d : UInt32
  e : UInt32

def ripemdStep (t : RipemdLine) (r : Nat) (x k s : UInt32) : RipemdLine :=
  let v := rotl (t.a + ripemdMix r t.b t.c t.d + x + k) s + t.e
  ⟨t.e, v, t.b, rotl t.c 10, t.d⟩

def wordsLE (block : Bytes) : Array UInt32 :=
  ((chunks 4 block).map fun w => (toNatLE w).toUInt32).toArray

def ripemdCompress (h : RipemdLine) (block : Bytes) : RipemdLine :=
  let x := wordsLE block
  let left := (List.range 80).foldl
    (fun t j => ripemdStep t (j / 16) (x.getD (ripemdLeftOrder.getD j 0) 0)
      (ripemdLeftConst.getD (j / 16) 0) (ripemdLeftShift.getD j 0)) h
  let right := (List.range 80).foldl
    (fun t j => ripemdStep t (4 - j / 16) (x.getD (ripemdRightOrder.getD j 0) 0)
      (ripemdRightConst.getD (j / 16) 0) (ripemdRightShift.getD j 0)) h
  ⟨h.b + left.c + right.d, h.c + left.d + right.e, h.d + left.e + right.a,
    h.e + left.a + right.b, h.a + left.b + right.c⟩

def ripemd160 (msg : Bytes) : Bytes :=
  let init : RipemdLine := ⟨0x67452301, 0xefcdab89, 0x98badcfe, 0x10325476, 0xc3d2e1f0⟩
  let h := (chunks 64 (padMessage false msg)).foldl ripemdCompress init
  [h.a, h.b, h.c, h.d, h.e].flatMap fun w => ofNatLE 4 w.toNat

def hash160 (msg : Bytes) : Bytes := ripemd160 (sha256 msg)

theorem ripemd160_length (msg : Bytes) : (ripemd160 msg).length = 20 := by
  simp [ripemd160, ofNatLE_length]

end SubmarineSwap.Hash
