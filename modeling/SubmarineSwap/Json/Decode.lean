import SubmarineSwap.Json.Reader
import SubmarineSwap.Json.Unexpected

namespace SubmarineSwap.JsonText

variable {α : Type}

def JsonNumber.unexpected : JsonNumber → Unexpected
  | .unsigned n => .unsigned n
  | .negative n => .signed (-(n : Int))
  | .float f => .float f

def Content.unexpected : Content → Unexpected
  | .null => .null
  | .bool b => .bool b
  | .number n => n.unexpected
  | .string s => .string s
  | .seq _ => .seq
  | .map _ => .map

/-- The value ahead, read only to describe it; arrays and objects are not entered. -/
def unexpectedAhead : Reader Unexpected := do
  match ← peek with
  | some 0x6e => eat; expectIdent [0x75, 0x6c, 0x6c]; pure .null
  | some 0x74 => eat; expectIdent [0x72, 0x75, 0x65]; pure (.bool true)
  | some 0x66 => eat; expectIdent [0x61, 0x6c, 0x73, 0x65]; pure (.bool false)
  | some 0x2d => eat; JsonNumber.unexpected <$> integer true
  | some 0x22 => eat; .string <$> stringBody
  | some 0x5b => pure .seq
  | some 0x7b => pure .map
  | some c => if isDigit c then JsonNumber.unexpected <$> integer false else failAhead "expected value"
  | none => failAhead "expected value"

def refuse (expected : String) : Reader α := do
  custom (invalidType (← unexpectedAhead) expected)

def ofChecked : Except String α → Reader α
  | .ok a => pure a
  | .error m => custom m

def readStr (expected : String) (check : String → Except String α) : Reader α :=
  placed do
    match ← skipBlanks with
    | none => failAhead "EOF while parsing a value"
    | some 0x22 => eat; ofChecked (check (← stringBody))
    | some _ => refuse expected

def readNumber (expected : String) (check : JsonNumber → Except String α) : Reader α :=
  placed do
    match ← skipBlanks with
    | none => failAhead "EOF while parsing a value"
    | some 0x2d => eat; ofChecked (check (← integer true))
    | some c => if isDigit c then ofChecked (check (← integer false)) else refuse expected

def u32Of : JsonNumber → Except String Nat
  | .unsigned n => if n < 4294967296 then .ok n else .error (invalidValue (.unsigned n) "u32")
  | .negative n => .error (invalidValue (.signed (-(n : Int))) "u32")
  | .float f => .error (invalidType (.float f) "u32")

def readU32 : Reader Nat := readNumber "u32" u32Of

/-- An array or an object, read by `ofSeq` or `ofMap` between its brackets; both are handed the
depth left inside. Closing brackets are read even after an error inside. -/
def readCompound (depth : Nat) (expected : String) (ofSeq ofMap : Nat → Reader α) : Reader α :=
  placed do
    match ← skipBlanks with
    | none => failAhead "EOF while parsing a value"
    | some 0x5b =>
      if depth ≤ 1 then failAhead "recursion limit exceeded"
      else do eat; withEnd (ofSeq (depth - 1)) endList
    | some 0x7b =>
      if depth ≤ 1 then failAhead "recursion limit exceeded"
      else do eat; withEnd (ofMap (depth - 1)) endObject
    | some _ => refuse expected

/-- A whole input holding one value read by `x`, and nothing after it but blanks. -/
def readAll (x : Reader α) : Reader α := do
  let a ← x
  endOfInput
  pure a

def decodeBytes (x : Reader α) (input : Bytes) : Except String α :=
  runReader (readAll x) input.toArray

end SubmarineSwap.JsonText
