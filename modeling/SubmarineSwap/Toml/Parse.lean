import SubmarineSwap.Bytes
import SubmarineSwap.Toml.Document

namespace SubmarineSwap

namespace Toml

/-- A failed read: where it stopped, what was being read (innermost first), what was expected,
its cause, and whether it is committed. -/
structure Failure where
  offset : Nat
  labels : List String := []
  expected : List String := []
  cause : Option String := none
  committed : Bool := false

def Failure.message (f : Failure) : String :=
  String.intercalate "\n" ((f.labels.head?.map fun l => "invalid " ++ l).toList ++
    (if f.expected.isEmpty then [] else ["expected " ++ String.intercalate ", " f.expected]) ++
    f.cause.toList)

/-- A reader of the text; a failure drops the position, so an alternative starts afresh. -/
abbrev Parser := ReaderT (Array UInt8) (StateT Nat (Except Failure))

variable {α β : Type}

def peek : Parser (Option UInt8) := do return (← read)[← get]?

def peekAt (k : Nat) : Parser (Option UInt8) := do return (← read)[(← get) + k]?

def skip (n : Nat) : Parser Unit := modify (· + n)

def size : Parser Nat := do return (← read).size

def miss : Parser α := do throw { offset := ← get }

def labelled (l : String) (p : Parser α) : Parser α :=
  tryCatch p fun f => throw { f with labels := f.labels ++ [l] }

def expecting (e : List String) (p : Parser α) : Parser α :=
  tryCatch p fun f => throw { f with expected := f.expected ++ e }

def commit (p : Parser α) : Parser α :=
  tryCatch p fun f => throw { f with committed := true }

def optional (p : Parser α) : Parser (Option α) :=
  tryCatch (some <$> p) fun f => if f.committed then throw f else pure none

def orElse (p q : Parser α) : Parser α :=
  tryCatch p fun f => if f.committed then throw f else q

def byte (c : UInt8) : Parser Unit := do
  if (← peek) == some c then skip 1 else miss

def literal (cs : List UInt8) : Parser Unit := do
  let bytes ← read
  let i ← get
  if (List.range cs.length).all (fun k => bytes[i + k]? == cs[k]?) then skip cs.length else miss

def takeUpTo (limit : Nat) (p : UInt8 → Bool) : Parser (List UInt8) := go limit []
where
  go : Nat → List UInt8 → Parser (List UInt8)
    | 0, acc => pure acc.reverse
    | fuel + 1, acc => do
      match ← peek with
      | some c => if p c then do skip 1; go fuel (c :: acc) else pure acc.reverse
      | none => pure acc.reverse

def takeWhile (p : UInt8 → Bool) : Parser (List UInt8) := do takeUpTo (← size) p

def decode (bs : List UInt8) : String := (String.fromUTF8? (ByteArray.mk bs.toArray)).getD ""

def isBlank (c : UInt8) : Bool := c == 0x20 || c == 0x09

def isDigit (c : UInt8) : Bool := 0x30 ≤ c && c ≤ 0x39

def isHexDigit (c : UInt8) : Bool :=
  isDigit c || (0x41 ≤ c && c ≤ 0x46) || (0x61 ≤ c && c ≤ 0x66)

def isBareKeyChar (c : UInt8) : Bool :=
  isDigit c || (0x41 ≤ c && c ≤ 0x5a) || (0x61 ≤ c && c ≤ 0x7a) || c == 0x2d || c == 0x5f

def isCommentChar (c : UInt8) : Bool := c == 0x09 || (0x20 ≤ c && c ≤ 0x7e) || c ≥ 0x80

def isBasicChar (c : UInt8) : Bool :=
  isBlank c || c == 0x21 || (0x23 ≤ c && c ≤ 0x5b) || (0x5d ≤ c && c ≤ 0x7e) || c ≥ 0x80

def isLiteralChar (c : UInt8) : Bool :=
  c == 0x09 || (0x20 ≤ c && c ≤ 0x26) || (0x28 ≤ c && c ≤ 0x7e) || c ≥ 0x80

def blanks : Parser Unit := do let _ ← takeWhile isBlank

def comment : Parser Unit := do
  byte 0x23
  let _ ← takeWhile isCommentChar

def newline : Parser Unit := do
  match ← peek with
  | some 0x0a => skip 1
  | some 0x0d => skip 1; byte 0x0a
  | _ => miss

def lineEnding : Parser Unit :=
  orElse newline do if (← peek).isNone then pure () else miss

def lineTrailing : Parser Unit := do
  blanks
  let _ ← optional comment
  lineEnding

def blankLines : Parser Unit := do go (← size)
where
  go : Nat → Parser Unit
    | 0 => pure ()
    | fuel + 1 => do
      blanks
      match ← peek with
      | some 0x23 => comment; newline; go fuel
      | some 0x0a | some 0x0d => newline; go fuel
      | _ => pure ()

def hexValue (bs : List UInt8) : Nat :=
  bs.foldl (fun acc c => 16 * acc + (Bytes.hexValue? (Char.ofNat c.toNat)).getD 0) 0

def hexCode (n : Nat) : Parser (List UInt8) := do
  let start ← get
  let ds ← takeUpTo n isHexDigit
  if ds.length ≠ n then throw { offset := start }
  let v := hexValue ds
  if v ≥ 0x110000 ∨ (0xd800 ≤ v ∧ v ≤ 0xdfff) then
    throw { offset := start, cause := some StructureError.outOfRange.message }
  pure (Char.ofNat v).toString.toUTF8.toList

def escapeLetters : List String :=
  ["`b`", "`f`", "`n`", "`r`", "`t`", "`u`", "`U`", "`\\`", "`\"`"]

def escapeSequence : Parser (List UInt8) := do
  match ← peek with
  | none => miss
  | some c =>
    skip 1
    match c with
    | 0x62 => pure [8]
    | 0x66 => pure [12]
    | 0x6e => pure [10]
    | 0x72 => pure [13]
    | 0x74 => pure [9]
    | 0x75 => commit (labelled "unicode 4-digit hex code" (hexCode 4))
    | 0x55 => commit (labelled "unicode 8-digit hex code" (hexCode 8))
    | 0x5c => pure [0x5c]
    | 0x22 => pure [0x22]
    | _ =>
      let here ← get
      throw { offset := here, labels := ["escape sequence"], expected := escapeLetters
              committed := true }

def escaped : Parser (List UInt8) := do
  byte 0x5c
  escapeSequence

def basicString : Parser String := do
  byte 0x22
  let body ← go (← size) []
  commit (labelled "basic string" (byte 0x22))
  pure (decode body)
where
  go : Nat → List UInt8 → Parser (List UInt8)
    | 0, acc => pure acc
    | fuel + 1, acc => do
      let run ← takeWhile isBasicChar
      if !run.isEmpty then go fuel (acc ++ run)
      else match ← optional escaped with
        | some e => go fuel (acc ++ e)
        | none => pure acc

def literalString : Parser String :=
  labelled "literal string" do
    byte 0x27
    let body ← takeWhile isLiteralChar
    commit (byte 0x27)
    pure (decode body)

def lineContinuation : Parser Unit := do
  byte 0x5c
  blanks
  newline
  go (← size)
where
  go : Nat → Parser Unit
    | 0 => pure ()
    | fuel + 1 => do
      match ← peek with
      | some 0x20 | some 0x09 => skip 1; go fuel
      | some 0x0a | some 0x0d => newline; go fuel
      | _ => pure ()

def runOf (c : UInt8) : Parser Nat := do
  let bytes ← read
  let i ← get
  pure (((List.range (bytes.size - i)).takeWhile fun k => bytes[i + k]? == some c).length)

/-- The body of a multi-line string closed by three `quote`s: one or two quotes may stand inside
it, and up to two more right before the closing three. -/
def multilineBody (quote : UInt8) (plain : UInt8 → Bool) (escapes : Bool) :
    Parser (List UInt8) := do go (← size) []
where
  go : Nat → List UInt8 → Parser (List UInt8)
    | 0, acc => pure acc
    | fuel + 1, acc => do
      let run ← takeWhile plain
      if !run.isEmpty then go fuel (acc ++ run) else
      match ← peek with
      | some c =>
        if c == quote then do
          let n ← runOf quote
          if n ≥ 3 then
            let extra := min (n - 3) 2
            skip extra
            pure (acc ++ List.replicate extra quote)
          else if (← peekAt n).isSome then do
            skip n
            go fuel (acc ++ List.replicate n quote)
          else pure acc
        else if c == 0x0a || c == 0x0d then
          match ← optional newline with
          | some () => go fuel (acc ++ [0x0a])
          | none => pure acc
        else if c == 0x5c && escapes then
          match ← optional lineContinuation with
          | some () => go fuel acc
          | none =>
            match ← optional escaped with
            | some e => go fuel (acc ++ e)
            | none => pure acc
        else pure acc
      | none => pure acc

def multilineBasicString : Parser String :=
  labelled "multiline basic string" do
    literal [0x22, 0x22, 0x22]
    let _ ← optional newline
    let body ← commit (multilineBody 0x22 isBasicChar true)
    commit (literal [0x22, 0x22, 0x22])
    pure (decode body)

def multilineLiteralString : Parser String :=
  labelled "multiline literal string" do
    literal [0x27, 0x27, 0x27]
    let _ ← optional newline
    let body ← commit (multilineBody 0x27 (fun c => isLiteralChar c && c != 0x27) false)
    commit (literal [0x27, 0x27, 0x27])
    pure (decode body)

def string : Parser String := do
  if (← runOf 0x22) ≥ 3 then multilineBasicString
  else if (← peek) == some 0x22 then basicString
  else if (← runOf 0x27) ≥ 3 then multilineLiteralString
  else literalString

def simpleKey : Parser Key := do
  let start ← get
  let name ← match ← peek with
    | some 0x22 => basicString
    | some 0x27 => literalString
    | _ => do
      let bs ← takeWhile isBareKeyChar
      if bs.isEmpty then miss else pure (decode bs)
  pure ⟨name, ⟨start, ← get⟩⟩

def maxKeyParts : Nat := 79

/-- Keys joined by dots, blanks allowed around each. A key of more than `maxKeyParts` parts fails
softly where it starts, as too deep to assemble. -/
def dottedKey : Parser (List Key) := do
  let start ← get
  let keys ← labelled "key" do
    blanks
    let first ← simpleKey
    blanks
    go (← size) [first]
  if keys.length > maxKeyParts then
    throw { offset := start, cause := some StructureError.recursionLimit.message }
  pure keys
where
  go : Nat → List Key → Parser (List Key)
    | 0, acc => pure acc.reverse
    | fuel + 1, acc => do
      match ← optional (do byte 0x2e; blanks; let k ← simpleKey; blanks; pure k) with
      | some k => go fuel (k :: acc)
      | none => pure acc.reverse

def digitsAfter (digit : UInt8 → Bool) : Parser Unit := do go (← size)
where
  go : Nat → Parser Unit
    | 0 => pure ()
    | fuel + 1 => do
      match ← peek with
      | some c =>
        if digit c then do skip 1; go fuel
        else if c == 0x5f then do
          skip 1
          let here ← get
          if ((← peek).map digit).getD false then do skip 1; go fuel
          else throw { offset := here, expected := ["digit"], committed := true }
        else pure ()
      | none => pure ()

def decimalInteger : Parser Unit :=
  labelled "integer" do
    if (← peek) == some 0x2b || (← peek) == some 0x2d then skip 1
    match ← peek with
    | some c =>
      if c == 0x30 then skip 1
      else if isDigit c then do skip 1; digitsAfter isDigit
      else miss
    | none => miss

def digitRun : Parser Unit := do
  match ← peek with
  | some c => if isDigit c then do skip 1; digitsAfter isDigit else miss
  | none => miss

def exponentPart : Parser Unit := do
  if (← peek) == some 0x65 || (← peek) == some 0x45 then skip 1 else miss
  if (← peek) == some 0x2b || (← peek) == some 0x2d then skip 1
  commit digitRun

def fractionPart : Parser Unit := do
  byte 0x2e
  commit (expecting ["digit"] digitRun)

def text (start stop : Nat) : Parser String := do
  return decode ((← read).extract start stop).toList

def numberParts (s : String) : Bool × List Char :=
  let cs := s.toList.filter (· != '_')
  match cs with
  | '-' :: rest => (true, rest)
  | '+' :: rest => (false, rest)
  | _ => (false, cs)

def digitValue (cs : List Char) : Nat := cs.foldl (fun acc c => 10 * acc + (c.toNat - 48)) 0

/-- The double nearest to a decimal written with digits, a fraction and an exponent. -/
def decimalFloat (s : String) : Float :=
  let (negative, cs) := numberParts s
  let mantissa := cs.takeWhile fun c => c != 'e' && c != 'E'
  let exponentText := (cs.dropWhile fun c => c != 'e' && c != 'E').drop 1
  let whole := mantissa.takeWhile (· != '.')
  let fraction := (mantissa.dropWhile (· != '.')).drop 1
  let m := digitValue (whole ++ fraction)
  let e : Int := match exponentText with
    | '-' :: ds => -(digitValue ds : Int)
    | '+' :: ds => digitValue ds
    | ds => digitValue ds
  let e := e - fraction.length
  let digits := (Nat.toDigits 10 m).length
  let magnitude : Float :=
    if m = 0 then 0
    else if e + digits > 310 then Float.ofScientific 1 false 400
    else if e + digits < -330 then 0
    else if e ≥ 0 then Float.ofScientific m false e.toNat
    else Float.ofScientific m true (-e).toNat
  if negative then -magnitude else magnitude

def floatValue : Parser Float :=
  labelled "floating-point number" do
    orElse
      (do
        let start ← get
        decimalInteger
        if (← peek) == some 0x2e then do
          fractionPart
          if (← peek) == some 0x65 || (← peek) == some 0x45 then exponentPart
        else exponentPart
        let f := decimalFloat (← text start (← get))
        if f == Float.ofScientific 1 false 400 then throw { offset := start, committed := true }
        pure f)
      (do
        let negative ← match ← peek with
          | some 0x2d => do skip 1; pure true
          | some 0x2b => do skip 1; pure false
          | _ => pure false
        let f ← orElse (do literal [0x69, 0x6e, 0x66]; pure (Float.ofScientific 1 false 400))
          (do literal [0x6e, 0x61, 0x6e]; pure (0.0 / 0.0))
        pure (if negative then -f else f))

def i64Max : Int := 9223372036854775807

/-- An integer within 64 bits, written in decimal or after `0x`, `0o` or `0b`. -/
def integerValue : Parser Int := do
  let start ← get
  let prefixed (marker : UInt8) (digit : UInt8 → Bool) (base : Nat) (name : String) :
      Parser Int := commit do
    labelled name do
      skip 2
      match ← peek with
      | some c => if digit c then do skip 1; digitsAfter digit else miss
      | none => miss
    let ds := ((← text (start + 2) (← get)).toList.filter (· != '_'))
    let v := ds.foldl (fun acc c => base * acc + (Bytes.hexValue? c).getD 0) 0
    let _ := marker
    if (v : Int) > i64Max then
      throw { offset := start, cause := some "number too large to fit in target type" }
    pure v
  if (← peek) == some 0x30 then
    match ← peekAt 1 with
    | some 0x78 => return (← prefixed 0x78 isHexDigit 16 "hexadecimal integer")
    | some 0x6f => return (← prefixed 0x6f (fun c => 0x30 ≤ c && c ≤ 0x37) 8 "octal integer")
    | some 0x62 => return (← prefixed 0x62 (fun c => c == 0x30 || c == 0x31) 2 "binary integer")
    | _ => pure ()
  decimalInteger
  let (negative, ds) := numberParts (← text start (← get))
  let v : Int := if negative then -(digitValue ds : Int) else digitValue ds
  if v > i64Max then
    throw { offset := start, cause := some "number too large to fit in target type", committed := true }
  if v < -i64Max - 1 then
    throw { offset := start, cause := some "number too small to fit in target type", committed := true }
  pure v

/-- Exactly `n` digits with a value in `[lo, hi]`; out of range is reported at their start. -/
def digitsInRange (n lo hi : Nat) : Parser Nat := do
  let start ← get
  let ds ← takeUpTo n isDigit
  if ds.length ≠ n then throw { offset := start }
  let v := ds.foldl (fun acc c => 10 * acc + (c - 0x30).toNat) 0
  if v < lo ∨ v > hi then throw { offset := start, cause := some StructureError.outOfRange.message }
  pure v

/-- A time of day: hours and a colon, then, committed, minutes, seconds and an optional
fraction; a point without digits after it is left unread. -/
def partialTime : Parser Unit := do
  let _ ← digitsInRange 2 0 23
  byte 0x3a
  commit do
    let _ ← digitsInRange 2 0 59
    byte 0x3a
    let _ ← digitsInRange 2 0 60
    let _ ← optional do
      byte 0x2e
      let ds ← takeWhile isDigit
      if ds.isEmpty then miss

/-- `Z`, or a sign and then, committed, hours and minutes. -/
def timeOffset : Parser Unit :=
  labelled "time offset" do
    match ← peek with
    | some 0x5a | some 0x7a => skip 1
    | some 0x2b | some 0x2d =>
      skip 1
      commit do
        let _ ← digitsInRange 2 0 23
        byte 0x3a
        let _ ← digitsInRange 2 0 59
    | _ => miss

def daysIn (year month : Nat) : Nat :=
  if month = 2 then (if year % 4 = 0 ∧ (year % 100 ≠ 0 ∨ year % 400 = 0) then 29 else 28)
  else if month = 4 ∨ month = 6 ∨ month = 9 ∨ month = 11 then 30 else 31

def fullDate : Parser Unit := do
  let year ← digitsInRange 4 0 9999
  byte 0x2d
  let month ← commit (digitsInRange 2 1 12)
  commit (byte 0x2d)
  let _ ← commit (digitsInRange 2 1 (daysIn year month))
  let _ ← optional do
    match ← peek with
    | some 0x54 | some 0x74 | some 0x20 => skip 1
    | _ => miss
    partialTime
    let _ ← optional timeOffset

def dateTime : Parser Unit := orElse (labelled "date-time" fullDate) (labelled "time" partialTime)

def stringExpected : List String := ["`\"`", "`'`"]

def noValue (start : Nat) (committed : Bool) : Parser α :=
  throw { offset := start, labels := ["string"], expected := stringExpected, committed }

def maxNesting : Nat := 79

def inlineDescend (f : Table → Except StructureError Table) :
    List Key → List Key → Table → Except StructureError Table
  | _, [], t => f t
  | seen, k :: rest, t =>
    match t.lookup k.name with
    | none => do
      let child ← inlineDescend f (seen ++ [k]) rest { implicit := true, dotted := true }
      pure (t.append k (.inlineTable child.entries child.implicit child.dotted child.span))
    | some (.inlineTable es imp dot sp) => do
      if !imp then throw (.duplicateKey k.name none)
      let child ← inlineDescend f (seen ++ [k]) rest ⟨es, imp, dot, sp⟩
      pure (t.replace k.name (.inlineTable child.entries child.implicit child.dotted child.span))
    | some v => throw (.extendWrongType ((seen ++ [k]).map Key.name) v.typeName)

def inlineEntries (pairs : List (List Key × Key × Node)) : Except StructureError Table :=
  let step (t : Table) (pair : List Key × Key × Node) : Except StructureError Table :=
    let (path, key, v) := pair
    inlineDescend (fun u => do
      if u.dotted == path.isEmpty then throw (.duplicateKey key.name none)
      if (u.lookup key.name).isSome then throw (.duplicateKey key.name none)
      pure (u.append key v)) [] path t
  pairs.foldlM step {}

mutual

def value : Nat → Parser Node
  | depth => do
    let start ← get
    match ← peek with
    | none => miss
    | some c =>
      if c == 0x22 || c == 0x27 then return .string (← string) ⟨start, ← get⟩
      if c == 0x5b then return (← array depth)
      if c == 0x7b then return (← inlineTable depth)
      if c == 0x2b || c == 0x2d || isDigit c then
        return (← orElse (do dateTime; pure (.datetime ⟨start, ← get⟩))
          (orElse (do let f ← floatValue; pure (.float f ⟨start, ← get⟩))
            (do let n ← integerValue; pure (.integer n ⟨start, ← get⟩))))
      if c == 0x5f then
        throw { offset := start, labels := ["integer"], expected := ["leading digit"] }
      if c == 0x2e then
        throw { offset := start, labels := ["floating-point number"], expected := ["leading digit"] }
      if c == 0x74 then
        if (← optional (literal [0x74, 0x72, 0x75, 0x65])).isSome then
          return .boolean true ⟨start, ← get⟩
        noValue start true
      if c == 0x66 then
        if (← optional (literal [0x66, 0x61, 0x6c, 0x73, 0x65])).isSome then
          return .boolean false ⟨start, ← get⟩
        noValue start true
      if c == 0x69 then
        if (← optional (literal [0x69, 0x6e, 0x66])).isSome then
          return .float (Float.ofScientific 1 false 400) ⟨start, ← get⟩
        noValue start false
      if c == 0x6e then
        if (← optional (literal [0x6e, 0x61, 0x6e])).isSome then
          return .float (0.0 / 0.0) ⟨start, ← get⟩
        noValue start false
      noValue start false

def array : Nat → Parser Node
  | 0 => do
    let here ← get
    throw { offset := here, cause := some StructureError.recursionLimit.message, committed := true }
  | depth + 1 => do
    let start ← get
    skip 1
    let items ← commit do
      if (← peek) == some 0x5d then pure [] else
      let items ← match ← optional (arrayItem depth) with
        | none => pure []
        | some first => do
          let items ← arrayRest depth (← size) [first]
          let _ ← optional (byte 0x2c)
          pure items
      blankLines
      pure items
    commit (expecting ["`]`"] (labelled "array" (byte 0x5d)))
    pure (.array items ⟨start, ← get⟩)

def arrayItem : Nat → Parser Node
  | depth => do
    blankLines
    let v ← value depth
    blankLines
    pure v

def arrayRest : Nat → Nat → List Node → Parser (List Node)
  | _, 0, acc => pure acc.reverse
  | depth, fuel + 1, acc => do
    match ← optional (do byte 0x2c; arrayItem depth) with
    | some v => arrayRest depth fuel (v :: acc)
    | none => pure acc.reverse

def inlineTable : Nat → Parser Node
  | 0 => do
    let here ← get
    throw { offset := here, cause := some StructureError.recursionLimit.message, committed := true }
  | depth + 1 => do
    let start ← get
    skip 1
    let afterOpen ← get
    let pairs ← commit do
      let pairs ← match ← optional (inlinePair depth) with
        | none => pure []
        | some first => inlineRest depth (← size) [first]
      blanks
      pure pairs
    let t ← match inlineEntries pairs with
      | .ok t => pure t
      | .error e => throw { offset := afterOpen, cause := some e.message, committed := true }
    commit (expecting ["`\x7d`"] (labelled "inline table" (byte 0x7d)))
    pure (.inlineTable t.entries false false (some ⟨start, ← get⟩))

def inlinePair : Nat → Parser (List Key × Key × Node)
  | depth => do
    let path ← dottedKey
    commit do
      expecting ["`.`", "`=`"] (byte 0x3d)
      blanks
      let v ← value depth
      blanks
      pure (path.dropLast, path.getLast?.getD default, v)

def inlineRest : Nat → Nat → List (List Key × Key × Node) → Parser (List (List Key × Key × Node))
  | _, 0, acc => pure acc.reverse
  | depth, fuel + 1, acc => do
    match ← optional (do byte 0x2c; inlinePair depth) with
    | some p => inlineRest depth fuel (p :: acc)
    | none => pure acc.reverse

end

structure Assembly where
  root : Table := {}
  current : Table := {}
  path : List Key := []
  inArray : Bool := false
  deriving Inhabited

/-- Applies `f` to the table at `path` below `t`, making implicit tables on the way; `dotted`
tells whether the path comes from a dotted key. -/
def descend (f : Table → Except StructureError (Table × β)) (dotted : Bool) :
    List Key → List Key → Table → Except StructureError (Table × β)
  | _, [], t => f t
  | seen, k :: rest, t =>
    match t.lookup k.name with
    | none => do
      let (child, b) ← descend f dotted (seen ++ [k]) rest { implicit := true, dotted }
      pure (t.append k child.toNode, b)
    | some (.table es imp dot sp) => do
      if dotted && !imp then throw (.duplicateKey k.name none)
      let (child, b) ← descend f dotted (seen ++ [k]) rest ⟨es, imp, dot, sp⟩
      pure (t.replace k.name child.toNode, b)
    | some (.tables items sp) =>
      match items.reverse with
      | .table es imp dot sp' :: earlier => do
        let (child, b) ← descend f dotted (seen ++ [k]) rest ⟨es, imp, dot, sp'⟩
        pure (t.replace k.name (.tables (earlier.reverse ++ [child.toNode]) sp), b)
      | _ => throw (.duplicateKey k.name none)
    | some v => throw (.extendWrongType ((seen ++ [k]).map Key.name) v.typeName)

def spanOfTables (items : List Node) : Option Span :=
  match items.head?.bind Node.span?, items.getLast?.bind Node.span? with
  | some a, some b => some ⟨a.start, b.stop⟩
  | _, _ => none

namespace Assembly

def keyval (a : Assembly) (path : List Key) (key : Key) (v : Node) :
    Except StructureError Assembly := do
  let current := match a.current.span, v.span? with
    | some s, some t => { a.current with span := some ⟨s.start, t.stop⟩ }
    | _, _ => a.current
  let (current, ()) ← descend (fun t => do
      if t.dotted == path.isEmpty then throw (.duplicateKey key.name none)
      if (t.lookup key.name).isSome then
        throw (.duplicateKey key.name (some (a.path.map Key.name)))
      pure (t.append key v, ())) true [] path current
  pure { a with current }

def finish (a : Assembly) : Except StructureError Assembly := do
  let table := a.current
  let a' := { a with current := {}, path := [] }
  match a.path.getLast? with
  | none => pure { a' with root := table }
  | some key =>
    let parent := a.path.dropLast
    let duplicate := StructureError.duplicateKey (keyText key.name) (some (parent.map Key.name))
    let (root, ()) ← descend (fun p =>
      match p.lookup key.name, a.inArray with
      | none, true => pure (p.append key (.tables [table.toNode] table.span), ())
      | some (.tables items _), true =>
        let items := items ++ [table.toNode]
        pure (p.replace key.name (.tables items (spanOfTables items)), ())
      | none, false => pure (p.append key table.toNode, ())
      | some (.table _ true _ _), false => pure (p.replace key.name table.toNode, ())
      | _, _ => throw duplicate) false [] parent a.root
    pure { a' with root }

def openTable (a : Assembly) (path : List Key) (span : Span) : Except StructureError Assembly := do
  let a ← a.finish
  let key := path.getLast?.getD default
  let parent := path.dropLast
  let (root, reopened) ← descend (fun p =>
    match p.lookup key.name with
    | some (.table es true false sp) => pure (p.remove key.name, some (Table.mk es true false sp))
    | some _ => throw (.duplicateKey (keyText key.name) (some (parent.map Key.name)))
    | none => pure (p, none)) false [] parent a.root
  let current := { (reopened.getD {}) with implicit := false, dotted := false, span := some span }
  pure { a with root, current, path, inArray := false }

def openArrayTable (a : Assembly) (path : List Key) (span : Span) :
    Except StructureError Assembly := do
  let a ← a.finish
  let key := path.getLast?.getD default
  let parent := path.dropLast
  let (root, ()) ← descend (fun p =>
    match p.lookup key.name with
    | none => pure (p.append key (.tables [] none), ())
    | some (.tables _ _) => pure (p, ())
    | some _ => throw (.duplicateKey (keyText key.name) (some (parent.map Key.name)))) false [] parent a.root
  pure { a with root, current := { span := some span }, path, inArray := true }

end Assembly

def settle (start : Nat) (labels : List String) : Except StructureError Assembly → Parser Assembly
  | .ok a => pure a
  | .error e => throw { offset := start, labels, cause := some e.message, committed := true }

def header (a : Assembly) : Parser Assembly :=
  labelled "table header" do
    let start ← get
    if (← peekAt 1) == some 0x5b then
      skip 2
      let path ← commit dottedKey
      commit (expecting ["`.`", "`]]`"] (literal [0x5d, 0x5d]))
      let span : Span := ⟨start, ← get⟩
      commit (expecting ["newline", "`#`"] lineTrailing)
      settle start [] (a.openArrayTable path span)
    else
      skip 1
      let path ← commit dottedKey
      commit (expecting ["`.`", "`]`"] (byte 0x5d))
      let span : Span := ⟨start, ← get⟩
      commit (expecting ["newline", "`#`"] lineTrailing)
      settle start [] (a.openTable path span)

def keyvalLine (a : Assembly) : Parser Assembly := do
  let start ← get
  let path ← dottedKey
  let v ← commit do
    expecting ["`.`", "`=`"] (byte 0x3d)
    blanks
    let v ← value maxNesting
    expecting ["newline", "`#`"] lineTrailing
    pure v
  settle start [] (a.keyval path.dropLast (path.getLast?.getD default) v)

def lines : Nat → Assembly → Parser Assembly
  | 0, a => pure a
  | fuel + 1, a => do
    match ← peek with
    | none => pure a
    | some c =>
      let a ←
        if c == 0x23 then do commit (do comment; lineEnding); pure a
        else if c == 0x5b then commit (header a)
        else if c == 0x0a then do skip 1; pure a
        else if c == 0x0d then do
          if (← peekAt 1) == some 0x0a then do skip 2; pure a else miss
        else commit (keyvalLine a)
      blanks
      lines fuel a

def document : Parser Assembly := do
  literal [0xef, 0xbb, 0xbf] <|> pure ()
  blanks
  lines ((← size) + 1) {}

def charSpan (bytes : Array UInt8) (offset : Nat) : Span :=
  let lead := bytes[offset]?.getD 0
  let width := if offset ≥ bytes.size then 0
    else if lead < 0x80 then 1 else if lead < 0xe0 then 2 else if lead < 0xf0 then 3 else 4
  ⟨offset, offset + width⟩

def parse (text : String) : Except TomlError Table :=
  let bytes := text.toUTF8.toList.toArray
  match (document.run bytes).run 0 with
  | .error f => .error ⟨f.message, some (charSpan bytes f.offset)⟩
  | .ok (a, _) =>
    match a.finish with
    | .ok a => .ok a.root
    | .error e => .error ⟨e.message, none⟩

end Toml

end SubmarineSwap
