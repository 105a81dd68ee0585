import SubmarineSwap.Swap.Record
import SubmarineSwap.Json.Decode
import SubmarineSwap.Json.Value

namespace SubmarineSwap

open JsonText JsonValue

def hexArray (n : Nat) (s : String) : Except String Bytes :=
  if s.utf8ByteSize ≠ 2 * n then .error "failed to parse hex"
  else match Bytes.ofHex? s with
    | some bs => .ok bs
    | none => .error "failed to parse hex digit"

def Preimage.ofHexText (s : String) : Except String Preimage := do
  let bs ← hexArray preimageSize s
  if h : bs.length = preimageSize then pure ⟨bs, h⟩ else throw "failed to parse hex"

def PaymentHash.ofHexText (s : String) : Except String PaymentHash := do
  let bs ← hexArray preimageSize s
  if h : bs.length = preimageSize then pure ⟨bs, h⟩ else throw "failed to parse hex"

def Secp256k1.PublicKey.ofHexText (s : String) : Except String Secp256k1.PublicKey :=
  let malformed := Except.error "malformed public key"
  if s.utf8ByteSize % 2 = 1 ∨ s.utf8ByteSize > 130 then malformed
  else match Bytes.ofHex? s with
    | some bs =>
      if bs.length = 33 ∨ bs.length = 65 then
        match Secp256k1.PublicKey.parse? bs with
        | some pk => .ok pk
        | none => malformed
      else malformed
    | none => malformed

/-- A preimage read as a JSON string of hexadecimal; the string is read first, so a bad digit
or length is reported without a place. -/
def readPreimage : Reader Preimage := do
  ofChecked (Preimage.ofHexText (← readStr "a string" pure))

namespace StoredRecord

inductive RoleTag where
  | service
  | client

def roleVariants : List String := ["service", "client"]

def readRoleTag : Reader RoleTag :=
  readStr "variant identifier" fun s =>
    if s = "service" then .ok .service
    else if s = "client" then .ok .client
    else .error (unknownVariant s roleVariants)

def roleExpected : String := "internally tagged enum SwapRole"

def roleEntries (depth : Nat) : Nat → Bool → Option RoleTag → List (String × Content) →
    Reader (RoleTag × Content)
  | 0, _, _, _ => custom (missingField "role")
  | fuel + 1, first, tag, acc => do
    match ← nextKey first with
    | none =>
      match tag with
      | some t => pure (t, .map acc.reverse)
      | none => custom (missingField "role")
    | some k =>
      if k = "role" then
        if tag.isSome then custom (duplicateField "role")
        colon
        let t ← readRoleTag
        roleEntries depth fuel false (some t) acc
      else
        colon
        let v ← content depth
        roleEntries depth fuel false tag ((k, v) :: acc)

def roleItems (depth : Nat) : Reader (RoleTag × Content) := do
  if !(← nextElement true) then custom (missingField "role")
  let t ← readRoleTag
  let rest ← content.items depth (← size) false
  pure (t, .seq rest)

def readTagged (depth : Nat) : Reader (RoleTag × Content) :=
  readCompound depth roleExpected roleItems fun d => do roleEntries d (← size) true none []

def keyOf (c : Content) : Except String String :=
  match c with
  | .string s => .ok s
  | other => .error (invalidType other.unexpected "a string")

def preimageOf (c : Content) : Except String (Option Preimage) :=
  match c with
  | .null => .ok none
  | .string s => some <$> Preimage.ofHexText s
  | other => .error (invalidType other.unexpected "a string")

def serviceOfEntries : List (String × Content) → Option String → Except String SwapRole
  | [], some k => .ok (.service k)
  | [], none => .error (missingField "key")
  | (name, v) :: rest, key =>
    if name = "key" then
      if key.isSome then .error (duplicateField "key")
      else do serviceOfEntries rest (some (← keyOf v))
    else serviceOfEntries rest key

/-- A client role from its entries: one `key`, at most one `preimage`, absent meaning none. -/
def clientOfEntries : List (String × Content) → Option String → Option (Option Preimage) →
    Except String SwapRole
  | [], some k, p => .ok (.client k (p.getD none))
  | [], none, _ => .error (missingField "key")
  | (name, v) :: rest, key, p =>
    if name = "key" then
      if key.isSome then .error (duplicateField "key")
      else do clientOfEntries rest (some (← keyOf v)) p
    else if name = "preimage" then
      if p.isSome then .error (duplicateField "preimage")
      else do clientOfEntries rest key (some (← preimageOf v))
    else clientOfEntries rest key p

def roleOf : RoleTag → Content → Except String SwapRole
  | .service, .map entries => serviceOfEntries entries none
  | .client, .map entries => clientOfEntries entries none none
  | .service, .seq items =>
    match items with
    | [] => .error (invalidLength 0 (withElements "struct variant SwapRole::Service" 1))
    | k :: rest => do
      let key ← keyOf k
      if rest.isEmpty then pure (.service key)
      else .error (invalidLength (1 + rest.length) (elementsInSequence 1))
  | .client, .seq items =>
    let expected := withElements "struct variant SwapRole::Client" 2
    match items with
    | [] => .error (invalidLength 0 expected)
    | [k] => do
      let _ ← keyOf k
      .error (invalidLength 1 expected)
    | k :: p :: rest => do
      let key ← keyOf k
      let preimage ← preimageOf p
      if rest.isEmpty then pure (.client key preimage)
      else .error (invalidLength (2 + rest.length) (elementsInSequence 2))
  | _, other => .error (invalidType other.unexpected roleExpected)

def readRole (depth : Nat) : Reader SwapRole := do
  let (tag, rest) ← readTagged depth
  ofChecked (roleOf tag rest)

def readHash : Reader PaymentHash := readStr "an ASCII hex string" PaymentHash.ofHexText

def readPublicKey : Reader Secp256k1.PublicKey :=
  readStr "an ASCII hex string representing a public key" Secp256k1.PublicKey.ofHexText

structure Fields where
  hash : Option PaymentHash := none
  clientKey : Option Secp256k1.PublicKey := none
  serviceKey : Option Secp256k1.PublicKey := none
  lockHeight : Option Nat := none
  creationHeight : Option Nat := none
  role : Option SwapRole := none

/-- Reads one field's value into the fields, refusing a second value for it. -/
def readField (depth : Nat) (name : String) (acc : Fields) : Reader Fields := do
  let once {β : Type} (seen : Option β) : Reader Unit :=
    if seen.isSome then custom (duplicateField name) else colon
  if name = "hash" then
    once acc.hash
    pure { acc with hash := some (← readHash) }
  else if name = "client_pk" then
    once acc.clientKey
    pure { acc with clientKey := some (← readPublicKey) }
  else if name = "service_pk" then
    once acc.serviceKey
    pure { acc with serviceKey := some (← readPublicKey) }
  else if name = "lock_height" then
    once acc.lockHeight
    pure { acc with lockHeight := some (← readU32) }
  else if name = "creation_height" then
    once acc.creationHeight
    pure { acc with creationHeight := some (← readU32) }
  else if name = "role" then
    once acc.role
    pure { acc with role := some (← readRole depth) }
  else
    colon
    skipValue
    pure acc

def readEntries (depth : Nat) : Nat → Bool → Fields → Reader Fields
  | 0, _, acc => pure acc
  | fuel + 1, first, acc => do
    match ← nextKey first with
    | none => pure acc
    | some name => readEntries depth fuel false (← readField depth name acc)

/-- The record the fields make on a network, or the first field that is missing. -/
def Fields.finish (n : Network) (f : Fields) : Except String SwapRecord :=
  match f.hash, f.clientKey, f.serviceKey, f.lockHeight, f.creationHeight, f.role with
  | some h, some c, some s, some l, some ch, some r => .ok ⟨⟨h, c, s, l⟩, ch, r, n⟩
  | none, _, _, _, _, _ => .error (missingField "hash")
  | _, none, _, _, _, _ => .error (missingField "client_pk")
  | _, _, none, _, _, _ => .error (missingField "service_pk")
  | _, _, _, none, _, _ => .error (missingField "lock_height")
  | _, _, _, _, none, _ => .error (missingField "creation_height")
  | _, _, _, _, _, none => .error (missingField "role")

def recordExpected : String := withElements "struct StoredRecord" 6

/-- The next element of a record array, or the length error naming how many came before. -/
def element {β : Type} (index : Nat) (x : Reader β) : Reader β := do
  if !(← nextElement (index = 0)) then custom (invalidLength index recordExpected)
  x

def readItems (n : Network) (depth : Nat) : Reader SwapRecord := do
  let h ← element 0 readHash
  let c ← element 1 readPublicKey
  let s ← element 2 readPublicKey
  let l ← element 3 readU32
  let ch ← element 4 readU32
  let r ← element 5 (readRole depth)
  pure ⟨⟨h, c, s, l⟩, ch, r, n⟩

def read (n : Network) (depth : Nat) : Reader SwapRecord :=
  readCompound depth "struct StoredRecord" (readItems n) fun d => do
    ofChecked (Fields.finish n (← readEntries d (← size) true {}))

end StoredRecord

def SwapRole.stored : SwapRole → JsonValue
  | .service k => object [("role", str "service"), ("key", str k)]
  | .client k p =>
    object [("role", str "client"), ("key", str k),
      ("preimage", opt (fun q => str (Bytes.toHex q.bytes)) p)]

def SwapRecord.stored (r : SwapRecord) : JsonValue :=
  let hex (bs : Bytes) := str (Bytes.toHex bs)
  object [("hash", hex r.params.hash.bytes), ("client_pk", hex r.params.clientKey.serialize),
    ("service_pk", hex r.params.serviceKey.serialize), ("lock_height", nat r.params.lockHeight),
    ("creation_height", nat r.creationHeight), ("role", r.role.stored)]

def SwapRecord.encode (r : SwapRecord) : Bytes := r.stored.render.toUTF8.toList

def SwapRecord.decode (n : Network) (bs : Bytes) : Except String SwapRecord :=
  decodeBytes (StoredRecord.read n maxDepth) bs

def Preimage.toJson (p : Preimage) : String := quote (Bytes.toHex p.bytes)

def Preimage.ofJson (text : String) : Except String Preimage :=
  decodeBytes readPreimage text.toUTF8.toList

end SubmarineSwap
