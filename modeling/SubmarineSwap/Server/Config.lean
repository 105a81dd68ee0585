import SubmarineSwap.Toml.Parse
import SubmarineSwap.Json.Unexpected
import SubmarineSwap.Fee
import SubmarineSwap.Network

namespace SubmarineSwap.Server

open Toml JsonText

structure Config where
  network : Network := .regtest
  lockDelta : Nat := 72
  maxClientLockDelta : Nat := 1008
  defaultConfTarget : Nat := 6
  maxFeeRateSatPerVb : Nat := 10000
  subscriberQueueSize : Nat := 64
  deriving DecidableEq, Repr

namespace Config

def keys : List String :=
  ["network", "lock_delta", "max_client_lock_delta", "default_conf_target",
    "max_fee_rate_sat_per_vb", "subscriber_queue_size"]

def networkNames : List String := Network.all.map Network.name

abbrev Checked := Except (String × Option Span)

def unexpectedOf : Node → Unexpected
  | .string s _ => .string s
  | .integer n _ => .signed n
  | .float f _ => .float f
  | .boolean b _ => .bool b
  | .datetime _ => .map
  | .array .. => .seq
  | .inlineTable .. => .map
  | .table .. => .map
  | .tables .. => .seq

def unsignedOf (expected : String) (max : Nat) : Node → Checked Nat
  | .integer v _ =>
    if 0 ≤ v ∧ v ≤ max then .ok v.toNat
    else .error ("invalid value: " ++ (Unexpected.signed v).plainText ++ ", expected " ++ expected,
      none)
  | other =>
    .error ("invalid type: " ++ (unexpectedOf other).plainText ++ ", expected " ++ expected, none)

def variantOf (name : String) (span : Option Span) : Checked Network :=
  match Network.ofName? name with
  | some n => .ok n
  | none => .error (unknownVariant name networkNames, span)

/-- The value under a variant name must be empty, as the networks carry no data. An array of
tables is refused as an array, any other array or table as a table. -/
def unitContent : Node → Checked Unit
  | .tables items sp => if items.isEmpty then .ok () else .error ("expected empty array", sp)
  | .array items sp => if items.isEmpty then .ok () else .error ("expected empty table", some sp)
  | .table es _ _ sp => if es.isEmpty then .ok () else .error ("expected empty table", sp)
  | .inlineTable es _ _ sp => if es.isEmpty then .ok () else .error ("expected empty table", sp)
  | other => .error ("expected table, found " ++ other.typeName, other.span?)

/-- A network: its name as a string, or a table whose one key names it. -/
def networkOf (n : Node) : Checked Network :=
  let r : Checked Network := match n with
    | .string s sp => variantOf s (some sp)
    | .inlineTable es _ _ sp | .table es _ _ sp =>
      match es with
      | [] => .error ("wanted exactly 1 element, found 0 elements", sp)
      | [(k, v)] => do
        let net ← variantOf k.name (some k.span)
        unitContent v
        pure net
      | _ => .error ("wanted exactly 1 element, more than 1 element", sp)
    | other => .error ("wanted string or table", other.span?)
  r.mapError fun (m, s) => (m, s <|> n.span?)

def u32Max : Nat := 4294967295

def set (c : Config) (k : Key) (n : Node) : Except TomlError Config :=
  let placed {α : Type} (r : Checked α) : Except TomlError α :=
    r.mapError fun (m, s) => ⟨m, s <|> n.span? <|> some k.span⟩
  if k.name = "network" then do pure { c with network := ← placed (networkOf n) }
  else if k.name = "lock_delta" then do
    pure { c with lockDelta := ← placed (unsignedOf "u32" u32Max n) }
  else if k.name = "max_client_lock_delta" then do
    pure { c with maxClientLockDelta := ← placed (unsignedOf "u32" u32Max n) }
  else if k.name = "default_conf_target" then do
    pure { c with defaultConfTarget := ← placed (unsignedOf "u32" u32Max n) }
  else if k.name = "max_fee_rate_sat_per_vb" then do
    pure { c with maxFeeRateSatPerVb := ← placed (unsignedOf "u64" maxU64 n) }
  else if k.name = "subscriber_queue_size" then do
    pure { c with subscriberQueueSize := ← placed (unsignedOf "usize" maxU64 n) }
  else .error ⟨unknownField k.name keys, some k.span⟩

def ofTable (root : Table) : Except TomlError Config :=
  root.entries.foldlM (fun c (k, n) => c.set k n) {}

/-- The fee policy: the ceiling in sat/kwu, refused when it overflows 64 bits. -/
def feePolicy (c : Config) : Except Error FeePolicy :=
  match rateOfSatPerVbyte c.maxFeeRateSatPerVb with
  | some rate => .ok ⟨rate, c.defaultConfTarget⟩
  | none =>
    .error (.invalidParameters s!"max fee rate of {c.maxFeeRateSatPerVb} sat/vB overflows")

def validate (c : Config) : Except Error Unit := do
  if c.lockDelta = 0 then throw (.invalidParameters "lock_delta must be positive")
  if c.maxClientLockDelta = 0 then
    throw (.invalidParameters "max_client_lock_delta must be positive")
  if ¬(1 ≤ c.defaultConfTarget ∧ c.defaultConfTarget ≤ maxConfTarget) then
    throw (.invalidParameters s!"default_conf_target must be within 1..={maxConfTarget}")
  if c.subscriberQueueSize = 0 then
    throw (.invalidParameters "subscriber_queue_size must be positive")
  let _ ← c.feePolicy

def ofToml (text : String) : Except Error Config := do
  let c ← match Toml.parse text >>= ofTable with
    | .ok c => pure c
    | .error e =>
      throw (.context "failed to parse config" (.invalidParameters (e.render text)))
  c.validate
  pure c

end Config

end SubmarineSwap.Server
