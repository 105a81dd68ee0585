import SubmarineSwap.Json.Value
import SubmarineSwap.Bytes
import SubmarineSwap.Amount

namespace SubmarineSwap.Field

abbrev Decoded := Except String

def need (o : JsonValue) (k : String) : Decoded JsonValue :=
  match o.get? k with
  | some v => .ok v
  | none => .error s!"missing field {k}"

def asString (k : String) : JsonValue → Decoded String
  | .string s => .ok s
  | _ => .error s!"field {k} must be a string"

def asU64 (k : String) : JsonValue → Decoded Nat
  | .number (.ofNat n) 0 => if n ≤ maxU64 then .ok n else .error s!"field {k} must be an unsigned 64-bit integer"
  | _ => .error s!"field {k} must be an unsigned 64-bit integer"

def asU32 (k : String) (v : JsonValue) : Decoded Nat := do
  let n ← asU64 k v
  if n < 4294967296 then pure n else throw s!"field {k} must fit in 32 bits"

def asBytes (k : String) (v : JsonValue) : Decoded Bytes := do
  let s ← asString k v
  match Bytes.ofHex? s with
  | some bs => pure bs
  | none => throw s!"field {k} is not hex"

def asBytes32 (k : String) (v : JsonValue) : Decoded Bytes := do
  let bs ← asBytes k v
  if bs.length = 32 then pure bs else throw s!"field {k} must be 32 bytes"

def asArray (k : String) : JsonValue → Decoded (List JsonValue)
  | .array items => .ok items
  | _ => .error s!"field {k} must be an array"

def req {α : Type} (f : String → JsonValue → Decoded α) (o : JsonValue) (k : String) :
    Decoded α :=
  need o k >>= f k

def opt {α : Type} (f : String → JsonValue → Decoded α) (o : JsonValue) (k : String) (d : α) :
    Decoded α :=
  match o.get? k with
  | some v => f k v
  | none => .ok d

def maybe {α : Type} (f : String → JsonValue → Decoded α) (o : JsonValue) (k : String) :
    Decoded (Option α) :=
  match o.get? k with
  | some v => some <$> f k v
  | none => .ok none

/-- An optional field read by `f`, where a value `f` refuses counts as no value at all. -/
def loose {α : Type} (f : String → JsonValue → Decoded α) (o : JsonValue) (k : String) :
    Option α :=
  match o.get? k with
  | some v => (f k v).toOption
  | none => none

end SubmarineSwap.Field
