import SubmarineSwap.Bytes

namespace SubmarineSwap.JsonText

structure ReadError where
  message : String
  offset : Option Nat := none
  deriving Repr

def place (input : Array UInt8) (i : Nat) : Nat × Nat :=
  let before := input.toList.take i
  let line := 1 + before.count 10
  let lastBreak := ((List.range before.length).filter fun j => before.getD j 0 == 10).getLast?
  (line, match lastBreak with | some j => i - (j + 1) | none => i)

def ReadError.render (input : Array UInt8) (e : ReadError) : String :=
  match e.offset with
  | none => e.message
  | some i =>
    let (line, column) := place input i
    s!"{e.message} at line {line} column {column}"

/-- A reader over a byte array; the state is the number of bytes consumed, which an error keeps. -/
abbrev Reader := ReaderT (Array UInt8) (EStateM ReadError Nat)

inductive JsonNumber where
  | unsigned (n : Nat)
  | negative (n : Nat)
  | float (f : Float)
  deriving Repr

/-- A value read without a target type, as an internally tagged enum buffers it. -/
inductive Content where
  | null
  | bool (b : Bool)
  | number (n : JsonNumber)
  | string (s : String)
  | seq (items : List Content)
  | map (entries : List (String × Content))
  deriving Repr, Inhabited

variable {α : Type}

def peek : Reader (Option UInt8) := do return (← read)[← get]?

def eat : Reader Unit := modify (· + 1)

def size : Reader Nat := do return (← read).size

def fail (msg : String) : Reader α := do throw { message := msg, offset := some (← get) }

def failAhead (msg : String) : Reader α := do
  throw { message := msg, offset := some (min (← size) ((← get) + 1)) }

def custom (msg : String) : Reader α := throw { message := msg }

/-- Runs a reader and returns its error instead of raising it; the position stays where the
reader stopped. -/
def attempt (x : Reader α) : Reader (Except ReadError α) :=
  tryCatch (Except.ok <$> x) fun e => pure (.error e)

def placed (x : Reader α) : Reader α := do
  match ← attempt x with
  | .ok a => pure a
  | .error e => if e.offset.isSome then throw e else throw { e with offset := some (← get) }

/-- Runs `body`, then `finish` whatever happened; the error of `body` wins over that of `finish`. -/
def withEnd (body : Reader α) (finish : Reader Unit) : Reader α := do
  match ← attempt body with
  | .ok a => finish; pure a
  | .error e => let _ ← attempt finish; throw e

def isBlank (c : UInt8) : Bool := c == 0x20 || c == 0x0a || c == 0x09 || c == 0x0d

def isDigit (c : UInt8) : Bool := 0x30 ≤ c && c ≤ 0x39

def skipBlanks : Reader (Option UInt8) := do
  go (← size)
where
  go : Nat → Reader (Option UInt8)
    | 0 => peek
    | fuel + 1 => do
      match ← peek with
      | some c => if isBlank c then do eat; go fuel else pure (some c)
      | none => pure none

def expectIdent : List UInt8 → Reader Unit
  | [] => pure ()
  | c :: rest => do
    match ← peek with
    | none => fail "EOF while parsing a value"
    | some d => eat; if d == c then expectIdent rest else fail "expected ident"

def hexDigitValue (c : UInt8) : Option Nat :=
  Bytes.hexValue? (Char.ofNat c.toNat)

/-- Four hexadecimal digits of a `\u` escape. All four bytes are taken before any is looked at,
so a bad digit is reported after the fourth. -/
def hexEscape : Reader Nat := do
  let start ← get
  if start + 4 > (← size) then
    set (← size)
    fail "EOF while parsing a string"
  let bytes := ((← read).extract start (start + 4)).toList
  set (start + 4)
  match bytes.foldlM (fun n c => (16 * n + ·) <$> hexDigitValue c) 0 with
  | some n => pure n
  | none => fail "invalid escape"

def nextOrEof : Reader UInt8 := do
  match ← peek with
  | some c => eat; pure c
  | none => fail "EOF while parsing a string"

def peekOrEof : Reader UInt8 := do
  match ← peek with
  | some c => pure c
  | none => fail "EOF while parsing a string"

def utf8 (code : Nat) : List UInt8 := (Char.ofNat code).toString.toUTF8.toList

def unicodeEscape : Reader Nat := do
  let n ← hexEscape
  if 0xdc00 ≤ n ∧ n ≤ 0xdfff then fail "lone leading surrogate in hex escape"
  else if n < 0xd800 ∨ n > 0xdbff then pure n
  else
    if (← peekOrEof) != 0x5c then eat; fail "unexpected end of hex escape"
    eat
    if (← peekOrEof) != 0x75 then eat; fail "unexpected end of hex escape"
    eat
    let n2 ← hexEscape
    if n2 < 0xdc00 ∨ n2 > 0xdfff then fail "lone leading surrogate in hex escape"
    pure (((n - 0xd800) * 0x400 + (n2 - 0xdc00)) + 0x10000)

def escape : Reader (List UInt8) := do
  let c ← nextOrEof
  match c with
  | 0x22 => pure [0x22]
  | 0x5c => pure [0x5c]
  | 0x2f => pure [0x2f]
  | 0x62 => pure [8]
  | 0x66 => pure [12]
  | 0x6e => pure [10]
  | 0x72 => pure [13]
  | 0x74 => pure [9]
  | 0x75 => utf8 <$> unicodeEscape
  | _ => fail "invalid escape"

def stringBody : Reader String := do
  let bytes ← go (← size) []
  match String.fromUTF8? (ByteArray.mk bytes.toArray) with
  | some s => pure s
  | none => fail "invalid unicode code point"
where
  go : Nat → List UInt8 → Reader (List UInt8)
    | 0, _ => fail "EOF while parsing a string"
    | fuel + 1, acc => do
      match ← peek with
      | none => fail "EOF while parsing a string"
      | some 0x22 => eat; pure acc.reverse
      | some 0x5c => eat; let e ← escape; go fuel (e.reverse ++ acc)
      | some c =>
        eat
        if c < 0x20 then fail "control character (\\u0000-\\u001F) found while parsing a string"
        else go fuel (c :: acc)

def skipStringBody : Reader Unit := do go (← size)
where
  go : Nat → Reader Unit
    | 0 => fail "EOF while parsing a string"
    | fuel + 1 => do
      match ← peek with
      | none => fail "EOF while parsing a string"
      | some 0x22 => eat
      | some 0x5c =>
        eat
        let c ← nextOrEof
        if c == 0x75 then let _ ← hexEscape; go fuel
        else if [0x22, 0x5c, 0x2f, 0x62, 0x66, 0x6e, 0x72, 0x74].contains c then go fuel
        else fail "invalid escape"
      | some c =>
        if c < 0x20 then fail "control character (\\u0000-\\u001F) found while parsing a string"
        else do eat; go fuel

def digitsInto (acc : Nat) : Reader (Nat × Nat) := do
  go (← size) acc 0
where
  go : Nat → Nat → Nat → Reader (Nat × Nat)
    | 0, acc, n => pure (acc, n)
    | fuel + 1, acc, n => do
      match ← peek with
      | some c => if isDigit c then do eat; go fuel (10 * acc + (c - 0x30).toNat) (n + 1) else pure (acc, n)
      | none => pure (acc, n)

def maxU64 : Nat := 18446744073709551615

def overflows (significand digit : Nat) : Bool :=
  significand ≥ maxU64 / 10 && (significand > maxU64 / 10 || digit > maxU64 % 10)

/-- Digits beyond what 64 bits hold are dropped; the exponent keeps their count. -/
def skipDigits : Reader Nat := do
  let (_, n) ← digitsInto 0
  pure n

def pow10 (k : Nat) : Float := Float.ofScientific 1 false k

/-- The double of `significand * 10 ^ exponent`, computed as the significand's double scaled by
one power of ten (at most 308, repeated downwards); `none` when the result overflows. -/
def scaledFloat (significand : Nat) (exponent : Int) : Option Float :=
  go 4 (Float.ofNat significand) exponent
where
  go : Nat → Float → Int → Option Float
    | 0, f, _ => some (f * 0)
    | fuel + 1, f, e =>
      if e.natAbs ≤ 308 then
        if e ≥ 0 then
          let g := f * pow10 e.toNat
          if g.isInf then none else some g
        else some (f / pow10 e.natAbs)
      else if f == 0 then some f
      else if e ≥ 0 then none
      else go fuel (f / pow10 308) (e + 308)

def fromParts (negative : Bool) (significand : Nat) (exponent : Int) : Reader JsonNumber :=
  match scaledFloat significand exponent with
  | some f => pure (.float (if negative then -f else f))
  | none => fail "number out of range"

/-- The exponent part after `e` or `E`; an exponent beyond 32 bits makes the number zero, or is
out of range for a nonzero significand and a positive exponent. -/
def exponentPart (negative : Bool) (significand : Nat) (start : Int) : Reader JsonNumber := do
  eat
  let positiveExp ← match ← peek with
    | some 0x2b => do eat; pure true
    | some 0x2d => do eat; pure false
    | _ => pure true
  match ← peek with
  | none => fail "EOF while parsing a value"
  | some c =>
    eat
    if !isDigit c then fail "invalid number"
    match ← go (← size) (c - 0x30).toNat with
    | some e => fromParts negative significand (if positiveExp then start + e else start - e)
    | none =>
      if significand ≠ 0 ∧ positiveExp then fail "number out of range"
      let _ ← skipDigits
      pure (.float (if negative then -0.0 else 0.0))
where
  go : Nat → Nat → Reader (Option Nat)
    | 0, e => pure (some e)
    | fuel + 1, e => do
      match ← peek with
      | some c =>
        if !isDigit c then pure (some e)
        else do
          eat
          let e' := 10 * e + (c - 0x30).toNat
          if e' > 2147483647 then pure none else go fuel e'
      | none => pure (some e)

def fractionPart (negative : Bool) (significand : Nat) (start : Int) : Reader JsonNumber := do
  eat
  let (sig, count, overflowed) ← go (← size) significand 0
  if count = 0 ∧ !overflowed then
    match ← peek with
    | some _ => failAhead "invalid number"
    | none => failAhead "EOF while parsing a value"
  if overflowed then let _ ← skipDigits
  match ← peek with
  | some 0x65 | some 0x45 => exponentPart negative sig (start - count)
  | _ => fromParts negative sig (start - count)
where
  go : Nat → Nat → Nat → Reader (Nat × Nat × Bool)
    | 0, sig, n => pure (sig, n, false)
    | fuel + 1, sig, n => do
      match ← peek with
      | some c =>
        if !isDigit c then pure (sig, n, false)
        else if overflows sig (c - 0x30).toNat then pure (sig, n, true)
        else do eat; go fuel (10 * sig + (c - 0x30).toNat) (n + 1)
      | none => pure (sig, n, false)

def numberTail (negative : Bool) (significand : Nat) : Reader JsonNumber := do
  match ← peek with
  | some 0x2e => fractionPart negative significand 0
  | some 0x65 | some 0x45 => exponentPart negative significand 0
  | _ =>
    if !negative then pure (.unsigned significand)
    else if significand = 0 ∨ significand > 9223372036854775808 then fromParts true significand 0
    else pure (.negative significand)

def longInteger (negative : Bool) (significand : Nat) : Reader JsonNumber := do
  let extra ← skipDigits
  match ← peek with
  | some 0x2e => fractionPart negative significand extra
  | some 0x65 | some 0x45 => exponentPart negative significand extra
  | _ => fromParts negative significand extra

def integer (negative : Bool) : Reader JsonNumber := do
  match ← peek with
  | none => fail "EOF while parsing a value"
  | some c =>
    eat
    if c == 0x30 then
      match ← peek with
      | some d => if isDigit d then failAhead "invalid number" else numberTail negative 0
      | none => numberTail negative 0
    else if isDigit c then
      let (sig, overflowed) ← go (← size) (c - 0x30).toNat
      if overflowed then longInteger negative sig else numberTail negative sig
    else fail "invalid number"
where
  go : Nat → Nat → Reader (Nat × Bool)
    | 0, sig => pure (sig, false)
    | fuel + 1, sig => do
      match ← peek with
      | some c =>
        if !isDigit c then pure (sig, false)
        else if overflows sig (c - 0x30).toNat then pure (sig, true)
        else do eat; go fuel (10 * sig + (c - 0x30).toNat)
      | none => pure (sig, false)

/-- Checks a number without keeping it; a byte that cannot go on the number is reported after
it is taken. -/
def skipNumber : Reader Unit := do
  let c := (← peek).getD 0
  if c == 0x30 then
    eat
    if isDigit ((← peek).getD 0) then failAhead "invalid number"
  else if isDigit c then
    eat
    let _ ← skipDigits
  else failAhead "invalid number"
  if (← peek) == some 0x2e then
    eat
    if (← skipDigits) = 0 then failAhead "invalid number"
  if (← peek) == some 0x65 || (← peek) == some 0x45 then
    eat
    if (← peek) == some 0x2b || (← peek) == some 0x2d then eat
    let d := (← peek).getD 0
    if isDigit d then eat else failAhead "invalid number"
    let _ ← skipDigits

def nextElement (first : Bool) : Reader Bool := do
  let c ← match ← skipBlanks with
    | some 0x5d => return false
    | some 0x2c => if first then pure (some 0x2c) else do eat; skipBlanks
    | some c => if first then pure (some c) else failAhead "expected `,` or `]`"
    | none => failAhead "EOF while parsing a list"
  match c with
  | some 0x5d => failAhead "trailing comma"
  | some _ => pure true
  | none => failAhead "EOF while parsing a value"

def nextKey (first : Bool) : Reader (Option String) := do
  let c ← match ← skipBlanks with
    | some 0x7d => return none
    | some 0x2c => if first then pure (some 0x2c) else do eat; skipBlanks
    | some c => if first then pure (some c) else failAhead "expected `,` or `\x7d`"
    | none => failAhead "EOF while parsing an object"
  match c with
  | some 0x22 => eat; some <$> stringBody
  | some 0x7d => failAhead "trailing comma"
  | some _ => failAhead "key must be a string"
  | none => failAhead "EOF while parsing a value"

def colon : Reader Unit := do
  match ← skipBlanks with
  | some 0x3a => eat
  | some _ => failAhead "expected `:`"
  | none => failAhead "EOF while parsing an object"

def endList : Reader Unit := do
  match ← skipBlanks with
  | some 0x5d => eat
  | some 0x2c =>
    eat
    match ← skipBlanks with
    | some 0x5d => failAhead "trailing comma"
    | _ => failAhead "trailing characters"
  | some _ => failAhead "trailing characters"
  | none => failAhead "EOF while parsing a list"

def endObject : Reader Unit := do
  match ← skipBlanks with
  | some 0x7d => eat
  | some 0x2c => failAhead "trailing comma"
  | some _ => failAhead "trailing characters"
  | none => failAhead "EOF while parsing an object"

def endOfInput : Reader Unit := do
  match ← skipBlanks with
  | some _ => failAhead "trailing characters"
  | none => pure ()

def maxDepth : Nat := 128

/-- Any value. An array or object may be opened while `depth` exceeds one, and lowers it. -/
def content (depth : Nat) : Reader Content :=
  placed do
    match ← skipBlanks with
    | none => failAhead "EOF while parsing a value"
    | some 0x6e => eat; expectIdent [0x75, 0x6c, 0x6c]; pure .null
    | some 0x74 => eat; expectIdent [0x72, 0x75, 0x65]; pure (.bool true)
    | some 0x66 => eat; expectIdent [0x61, 0x6c, 0x73, 0x65]; pure (.bool false)
    | some 0x2d => eat; .number <$> integer true
    | some 0x22 => eat; .string <$> stringBody
    | some c =>
      if isDigit c then .number <$> integer false
      else if c == 0x5b || c == 0x7b then
        match depth with
        | 0 | 1 => failAhead "recursion limit exceeded"
        | d + 2 =>
          if c == 0x5b then do eat; withEnd (Content.seq <$> items (d + 1) (← size) true) endList
          else do eat; withEnd (Content.map <$> entries (d + 1) (← size) true) endObject
      else failAhead "expected value"
where
  items (d : Nat) : Nat → Bool → Reader (List Content)
    | 0, _ => pure []
    | fuel + 1, first => do
      if !(← nextElement first) then return []
      let v ← content d
      return v :: (← items d fuel false)
  entries (d : Nat) : Nat → Bool → Reader (List (String × Content))
    | 0, _ => pure []
    | fuel + 1, first => do
      match ← nextKey first with
      | none => return []
      | some k =>
        colon
        let v ← content d
        return (k, v) :: (← entries d fuel false)

def skipValue : Reader Unit := do
  let fuel := 4 * (← size) + 4
  value fuel []
where
  value : Nat → List UInt8 → Reader Unit
    | 0, _ => pure ()
    | fuel + 1, stack => do
      match ← skipBlanks with
      | none => failAhead "EOF while parsing a value"
      | some c =>
        if c == 0x6e then do eat; expectIdent [0x75, 0x6c, 0x6c]; after fuel stack
        else if c == 0x74 then do eat; expectIdent [0x72, 0x75, 0x65]; after fuel stack
        else if c == 0x66 then do eat; expectIdent [0x61, 0x6c, 0x73, 0x65]; after fuel stack
        else if c == 0x2d then do eat; skipNumber; after fuel stack
        else if isDigit c then do skipNumber; after fuel stack
        else if c == 0x22 then do eat; skipStringBody; after fuel stack
        else if c == 0x5b || c == 0x7b then do eat; opened fuel c stack
        else failAhead "expected value"
  opened : Nat → UInt8 → List UInt8 → Reader Unit
    | 0, _, _ => pure ()
    | fuel + 1, frame, stack => do
      match ← skipBlanks with
      | some c =>
        if (c == 0x5d && frame == 0x5b) || (c == 0x7d && frame == 0x7b) then do eat; after fuel stack
        else member fuel frame stack
      | none => failAhead (if frame == 0x5b then "EOF while parsing a list" else "EOF while parsing an object")
  member : Nat → UInt8 → List UInt8 → Reader Unit
    | 0, _, _ => pure ()
    | fuel + 1, frame, stack => do
      if frame == 0x7b then
        match ← skipBlanks with
        | some 0x22 => eat
        | some _ => failAhead "key must be a string"
        | none => failAhead "EOF while parsing an object"
        skipStringBody
        match ← skipBlanks with
        | some 0x3a => eat
        | some _ => failAhead "expected `:`"
        | none => failAhead "EOF while parsing an object"
      value fuel (frame :: stack)
  after : Nat → List UInt8 → Reader Unit
    | 0, _ => pure ()
    | _, [] => pure ()
    | fuel + 1, frame :: stack => do
      match ← skipBlanks with
      | some 0x2c => eat; member fuel frame stack
      | some c =>
        if (c == 0x5d && frame == 0x5b) || (c == 0x7d && frame == 0x7b) then do eat; after fuel stack
        else failAhead (if frame == 0x5b then "expected `,` or `]`" else "expected `,` or `\x7d`")
      | none => failAhead (if frame == 0x5b then "EOF while parsing a list" else "EOF while parsing an object")

def runReader (x : Reader α) (input : Array UInt8) : Except String α :=
  match (x.run input).run 0 with
  | .ok a _ => .ok a
  | .error e _ => .error (e.render input)

end SubmarineSwap.JsonText
