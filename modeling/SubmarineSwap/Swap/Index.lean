import SubmarineSwap.Swap.Stored

namespace SubmarineSwap

structure SwapIndex where
  network : Network
  entries : List (Bytes × Bytes) := []

namespace SwapIndex

def lookup (ix : SwapIndex) (key : Bytes) : Option Bytes :=
  (ix.entries.find? fun e => e.1 == key).map Prod.snd

/-- Stores `value` under `key` unless the key is taken; tells whether it was stored. -/
def insertIfAbsent (ix : SwapIndex) (key value : Bytes) : SwapIndex × Bool :=
  if (ix.lookup key).isSome then (ix, false)
  else ({ ix with entries := ix.entries ++ [(key, value)] }, true)

def put (ix : SwapIndex) (r : SwapRecord) : Except Error SwapIndex :=
  let (ix', inserted) := ix.insertIfAbsent r.hash r.encode
  if inserted then .ok ix'
  else .error (.raise .duplicateSwap s!"swap with hash {Bytes.toHex r.hash} already exists")

def decode (ix : SwapIndex) (value : Bytes) : Except Error SwapRecord :=
  match SwapRecord.decode ix.network value with
  | .ok r => .ok r
  | .error why => .error (.context "corrupt swap record" (.raise .store why))

/-- The record stored under `hash`, which must be that record's own hash. -/
def get (ix : SwapIndex) (hash : Bytes) : Except Error SwapRecord := do
  let some value := ix.lookup hash
    | throw (.raise .notFound s!"no swap with hash {Bytes.toHex hash}")
  let r ← ix.decode value
  if r.hash != hash then
    throw (.raise .store
      s!"record stored under {Bytes.toHex hash} belongs to swap {Bytes.toHex r.hash}")
  pure r

def contains (ix : SwapIndex) (hash : Bytes) : Bool := (ix.lookup hash).isSome

/-- The first record that reads and has deposit address `a`. -/
def findByAddress (ix : SwapIndex) (a : Address) : Except Error SwapRecord :=
  match ix.entries.findSome? fun e =>
      match ix.decode e.2 with
      | .ok r => if r.address = a then some r else none
      | .error _ => none with
  | some r => .ok r
  | none => .error (.raise .notFound s!"no swap with address {a.toText}")

def creationHeight (ix : SwapIndex) (a : Address) : Except Error (Nat × Nat) := do
  let r ← ix.findByAddress a
  pure (r.creationHeight, r.lockHeight)

end SwapIndex

end SubmarineSwap
