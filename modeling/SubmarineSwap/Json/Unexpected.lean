import SubmarineSwap.Json.Value
import SubmarineSwap.Text.GraphemeExtend

namespace SubmarineSwap.JsonText

inductive Unexpected where
  | null
  | bool (b : Bool)
  | unsigned (n : Nat)
  | signed (n : Int)
  | float (f : Float)
  | string (s : String)
  | seq
  | map

/-- A double in plain decimal digits, never with an exponent, `.0` after an integer. -/
def plainFloatText (f : Float) : String :=
  if f.isNaN then "NaN"
  else if f.isInf then (if f > 0 then "inf" else "-inf")
  else
  let sign := if f.toBits.toNat ≥ 9223372036854775808 then "-" else ""
  let b := Decimal.Binary.ofFloat f
  let zeros (m : Nat) := String.ofList (List.replicate m '0')
  if b.mantissa = 0 then sign ++ "0.0" else
  let (digits, k) := Decimal.shortest .up b
  let ds := Nat.toDigits 10 digits
  let n : Int := ds.length
  let body :=
    if 0 ≤ k then String.ofList ds ++ zeros k.toNat ++ ".0"
    else if 0 < n + k then
      String.ofList (ds.take (n + k).toNat) ++ "." ++ String.ofList (ds.drop (n + k).toNat)
    else "0." ++ zeros (-(n + k)).toNat ++ String.ofList ds
  sign ++ body

/-- A character as a debug text of a string writes it. -/
def debugEscape (c : Char) : String :=
  if c = '"' then "\\\"" else if c = '\\' then "\\\\"
  else if c = '\n' then "\\n" else if c = '\r' then "\\r" else if c = '\t' then "\\t"
  else if c = '\x00' then "\\0"
  else if Text.isGraphemeExtend c || !Text.isPrintable c then
    "\\u" ++ "\x7b" ++ String.ofList (Nat.toDigits 16 c.toNat) ++ "\x7d"
  else c.toString

def debugQuoted (s : String) : String :=
  "\"" ++ String.join (s.toList.map debugEscape) ++ "\""

def Unexpected.describe (double : Float → String) : Unexpected → String
  | .null => "null"
  | .bool b => "boolean `" ++ toString b ++ "`"
  | .unsigned n => "integer `" ++ toString n ++ "`"
  | .signed n => "integer `" ++ toString n ++ "`"
  | .float f => "floating point `" ++ double f ++ "`"
  | .string s => "string " ++ debugQuoted s
  | .seq => "sequence"
  | .map => "map"

def Unexpected.text (u : Unexpected) : String := u.describe floatText

def Unexpected.plainText (u : Unexpected) : String := u.describe plainFloatText

def invalidType (u : Unexpected) (expected : String) : String :=
  "invalid type: " ++ u.text ++ ", expected " ++ expected

def invalidValue (u : Unexpected) (expected : String) : String :=
  "invalid value: " ++ u.text ++ ", expected " ++ expected

def invalidLength (n : Nat) (expected : String) : String :=
  "invalid length " ++ toString n ++ ", expected " ++ expected

def quoted (name : String) : String := "`" ++ name ++ "`"

/-- The alternatives a name could have been: one, two joined by `or`, or a list. -/
def oneOf : List String → String
  | [a] => quoted a
  | [a, b] => quoted a ++ " or " ++ quoted b
  | names => "one of " ++ String.intercalate ", " (names.map quoted)

def unknownVariant (name : String) (variants : List String) : String :=
  if variants.isEmpty then "unknown variant " ++ quoted name ++ ", there are no variants"
  else "unknown variant " ++ quoted name ++ ", expected " ++ oneOf variants

def unknownField (name : String) (fields : List String) : String :=
  if fields.isEmpty then "unknown field " ++ quoted name ++ ", there are no fields"
  else "unknown field " ++ quoted name ++ ", expected " ++ oneOf fields

def missingField (name : String) : String := "missing field " ++ quoted name

def duplicateField (name : String) : String := "duplicate field " ++ quoted name

def elementsInSequence (n : Nat) : String :=
  if n = 1 then "1 element in sequence" else toString n ++ " elements in sequence"

def withElements (what : String) (n : Nat) : String :=
  what ++ " with " ++ toString n ++ (if n = 1 then " element" else " elements")

end SubmarineSwap.JsonText
