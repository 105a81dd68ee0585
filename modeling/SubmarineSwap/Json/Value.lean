import SubmarineSwap.Decimal.Shortest

namespace SubmarineSwap

/-- The shortest text of a double that reads back, positional between 10^-5 and 10^16. -/
def floatText (f : Float) : String :=
  let sign := if f.toBits.toNat ≥ 9223372036854775808 then "-" else ""
  let b := Decimal.Binary.ofFloat f
  if b.mantissa = 0 then sign ++ "0.0" else
  let (digits, k) := Decimal.shortest .even b
  let ds := (Nat.toDigits 10 digits)
  let n : Int := ds.length
  let kk := n + k
  let zeros (m : Nat) := String.ofList (List.replicate m '0')
  let body :=
    if 0 ≤ k ∧ kk ≤ 16 then String.ofList ds ++ zeros k.toNat ++ ".0"
    else if 0 < kk ∧ kk ≤ 16 then
      String.ofList (ds.take kk.toNat) ++ "." ++ String.ofList (ds.drop kk.toNat)
    else if -5 < kk ∧ kk ≤ 0 then "0." ++ zeros (-kk).toNat ++ String.ofList ds
    else
      let exponent := (if kk - 1 ≥ 0 then "e+" else "e") ++ toString (kk - 1)
      if n = 1 then String.ofList ds ++ exponent
      else String.ofList (ds.take 1) ++ "." ++ String.ofList (ds.drop 1) ++ exponent
  sign ++ body

inductive JsonValue where
  | null
  | bool (b : Bool)
  | number (mantissa : Int) (exponent : Nat)
  | float (f : Float)
  | string (s : String)
  | array (items : List JsonValue)
  | object (fields : List (String × JsonValue))
  deriving Repr, Inhabited

namespace JsonValue

def nat (n : Nat) : JsonValue := number n 0

def str (s : String) : JsonValue := string s

def opt {α : Type} (f : α → JsonValue) : Option α → JsonValue
  | some a => f a
  | none => null

/-- The value of a field; a missing field and an explicit `null` are both absent. -/
def get? (v : JsonValue) (key : String) : Option JsonValue :=
  match v with
  | object fields =>
    match fields.find? (·.1 == key) with
    | some (_, null) => none
    | some (_, x) => some x
    | none => none
  | _ => none

def hex4 (n : Nat) : String :=
  String.ofList ((List.range 4).reverse.map fun i =>
    let d := n / Nat.pow 16 i % 16
    if d < 10 then Char.ofNat (48 + d) else Char.ofNat (87 + d))

def escapeChar (c : Char) : String :=
  if c = '"' then "\\\""
  else if c = '\\' then "\\\\"
  else if c = '\n' then "\\n"
  else if c = '\r' then "\\r"
  else if c = '\t' then "\\t"
  else if c.toNat = 8 then "\\b"
  else if c.toNat = 12 then "\\f"
  else if c.toNat < 0x20 then "\\u" ++ hex4 c.toNat
  else c.toString

def quote (s : String) : String :=
  "\"" ++ String.join (s.toList.map escapeChar) ++ "\""

def renderNumber (mantissa : Int) (exponent : Nat) : String :=
  if exponent = 0 then toString mantissa
  else
    let digits := toString mantissa.natAbs
    let digits := String.ofList (List.replicate (exponent + 1 - digits.length) '0') ++ digits
    let whole := digits.dropEnd exponent
    let frac := digits.takeEnd exponent
    (if mantissa < 0 then "-" else "") ++ whole.toString ++ "." ++ frac.toString

mutual

def render : JsonValue → String
  | null => "null"
  | bool b => if b then "true" else "false"
  | number m e => renderNumber m e
  | float f => floatText f
  | string s => quote s
  | array items => "[" ++ renderItems items ++ "]"
  | object fields => "\x7b" ++ renderFields fields ++ "\x7d"

def renderItems : List JsonValue → String
  | [] => ""
  | [v] => render v
  | v :: rest => render v ++ "," ++ renderItems rest

def renderFields : List (String × JsonValue) → String
  | [] => ""
  | [(k, v)] => quote k ++ ":" ++ render v
  | (k, v) :: rest => quote k ++ ":" ++ render v ++ "," ++ renderFields rest

end

end JsonValue

end SubmarineSwap
