import SubmarineSwap.Bytes

namespace SubmarineSwap

inductive ScriptItem where
  | op (code : UInt8)
  | push (data : Bytes)
  deriving DecidableEq, Repr

namespace ScriptItem

/-- An opcode is its byte; a push is its length (with a `PUSHDATA` marker past 75 bytes) and the
data. -/
def encode : ScriptItem → Bytes
  | op c => [c]
  | push d =>
    if d.length < 0x4c then d.length.toUInt8 :: d
    else if d.length < 0x100 then 0x4c :: d.length.toUInt8 :: d
    else if d.length < 0x10000 then 0x4d :: Bytes.ofNatLE 2 d.length ++ d
    else 0x4e :: Bytes.ofNatLE 4 d.length ++ d

end ScriptItem

def encodeScript (items : List ScriptItem) : Bytes :=
  items.flatMap ScriptItem.encode

/-- The minimal little-endian script number of a positive value: a zero byte is appended when
the top bit of the last byte is set, since that bit is the sign. -/
def scriptNumber (n : Nat) : Bytes :=
  let digits := (Bytes.ofNatLE 8 n).reverse.dropWhile (· == 0) |>.reverse
  if digits.getLastD 0 ≥ 0x80 then digits ++ [0] else digits

/-- Pushes a number: zero and 1 to 16 have their own opcodes, others are pushed as minimal
script numbers. -/
def pushInt (n : Nat) : ScriptItem :=
  if n = 0 then .op 0
  else if n ≤ 16 then .op (0x50 + n).toUInt8
  else .push (scriptNumber n)

namespace OutputScript

/-- A witness program: 4 to 42 bytes, a version opcode (0 or 1 to 16), then one push of the rest. -/
def isWitnessProgram (s : Bytes) : Bool :=
  match s with
  | v :: len :: _ =>
    4 ≤ s.length && s.length ≤ 42 && 2 ≤ len.toNat && len.toNat ≤ 40 && s.length - 2 == len.toNat
      && (v == 0 || (0x51 ≤ v && v ≤ 0x60))
  | _ => false

def isOpReturn (s : Bytes) : Bool := s.headD 1 == 0x6a && !s.isEmpty

def spendCost (s : Bytes) : Nat :=
  if isWitnessProgram s then 67 else 148

/-- The dust limit: three satoshi per byte of the output and of the input that spends it,
nothing for an unspendable output. -/
def minimalNonDust (s : Bytes) : Nat :=
  if isOpReturn s then 0
  else 3000 * (spendCost s + 8 + (Bytes.withLength s).length) / 1000

end OutputScript

end SubmarineSwap
