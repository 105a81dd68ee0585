
namespace SubmarineSwap.Toml

structure Span where
  start : Nat
  stop : Nat
  deriving DecidableEq, Repr, Inhabited

structure Key where
  name : String
  span : Span
  deriving Repr, Inhabited

def isBareChar (c : Char) : Bool :=
  ('0' ≤ c && c ≤ '9') || ('A' ≤ c && c ≤ 'Z') || ('a' ≤ c && c ≤ 'z') || c == '-' || c == '_'

def needsEscapeCode (c : Char) : Bool := (c.toNat ≤ 0x1f && c != '\t') || c.toNat == 0x7f

def hex4Upper (n : Nat) : String :=
  let ds := (Nat.toDigits 16 n).map Char.toUpper
  String.ofList (List.replicate (4 - ds.length) '0' ++ ds)

def escapeKeyChar (c : Char) : String :=
  if c.toNat = 8 then "\\b" else if c = '\t' then "\\t" else if c = '\n' then "\\n"
  else if c.toNat = 12 then "\\f" else if c = '\r' then "\\r" else if c = '"' then "\\\""
  else if c = '\\' then "\\\\"
  else if c.toNat ≤ 0x1f || c.toNat = 0x7f then "\\u" ++ hex4Upper c.toNat
  else c.toString

/-- Whether a quoted key is written in single quotes: it needs no escape there. -/
def singleQuoted (cs : List Char) : Bool :=
  (cs.any fun c => c == '\\' || c == '"') && !(cs.any fun c => c == '\'' || needsEscapeCode c)

/-- A key written back as TOML writes a key whose text it did not keep. -/
def keyText (name : String) : String :=
  let cs := name.toList
  if !cs.isEmpty && cs.all isBareChar then name
  else if singleQuoted cs then "'" ++ name ++ "'"
  else "\"" ++ String.join (cs.map escapeKeyChar) ++ "\""

/-- A value or a table. A table made implicitly (as the parent of a header or dotted key) may
still be opened by a header; `dotted` marks tables made by dotted keys. -/
inductive Node where
  | string (s : String) (span : Span)
  | integer (n : Int) (span : Span)
  | float (f : Float) (span : Span)
  | boolean (b : Bool) (span : Span)
  | datetime (span : Span)
  | array (items : List Node) (span : Span)
  | inlineTable (entries : List (Key × Node)) (implicit dotted : Bool) (span : Option Span)
  | table (entries : List (Key × Node)) (implicit dotted : Bool) (span : Option Span)
  | tables (items : List Node) (span : Option Span)
  deriving Inhabited

namespace Node

def span? : Node → Option Span
  | string _ s | integer _ s | float _ s | boolean _ s | datetime s | array _ s => some s
  | inlineTable _ _ _ s | table _ _ _ s | tables _ s => s

def typeName : Node → String
  | string .. => "string"
  | integer .. => "integer"
  | float .. => "float"
  | boolean .. => "boolean"
  | datetime .. => "datetime"
  | array .. => "array"
  | inlineTable .. => "inline table"
  | table .. => "table"
  | tables .. => "array of tables"

end Node

structure Table where
  entries : List (Key × Node) := []
  implicit : Bool := false
  dotted : Bool := false
  span : Option Span := none
  deriving Inhabited

namespace Table

def toNode (t : Table) : Node := .table t.entries t.implicit t.dotted t.span

def lookup (t : Table) (name : String) : Option Node :=
  (t.entries.find? fun e => e.1.name == name).map Prod.snd

def append (t : Table) (k : Key) (n : Node) : Table := { t with entries := t.entries ++ [(k, n)] }

def replace (t : Table) (name : String) (n : Node) : Table :=
  { t with entries := t.entries.map fun e => if e.1.name == name then (e.1, n) else e }

def remove (t : Table) (name : String) : Table :=
  { t with entries := t.entries.filter fun e => e.1.name != name }

end Table

inductive StructureError where
  | duplicateKey (key : String) (table : Option (List String))
  | extendWrongType (key : List String) (actual : String)
  | outOfRange
  | recursionLimit

def StructureError.message : StructureError → String
  | .duplicateKey k none => "duplicate key `" ++ k ++ "`"
  | .duplicateKey k (some []) => "duplicate key `" ++ k ++ "` in document root"
  | .duplicateKey k (some t) =>
    "duplicate key `" ++ k ++ "` in table `" ++ String.intercalate "." t ++ "`"
  | .extendWrongType ks a =>
    "dotted key `" ++ String.intercalate "." ks ++ "` attempted to extend non-table type (" ++ a ++ ")"
  | .outOfRange => "value is out of range"
  | .recursionLimit => "recursion limit exceeded"

structure TomlError where
  message : String
  span : Option Span
  deriving Repr

/-- Line (from 0) and column (from 0, in characters) of a byte offset. An offset that falls inside
a character is counted in bytes from the line start. -/
def location (text : Array UInt8) (index : Nat) : Nat × Nat :=
  if text.size = 0 then (0, index) else
  let safe := min index (text.size - 1)
  let before := (text.toList.take safe)
  let lineStart := match (List.range safe).reverse.find? (fun j => before.getD j 0 == 10) with
    | some j => j + 1
    | none => 0
  let line := (before.take lineStart).count 10
  let piece := (text.toList.drop lineStart).take (safe + 1 - lineStart)
  let column := match String.fromUTF8? (ByteArray.mk piece.toArray) with
    | some s => s.length - 1
    | none => safe - lineStart
  (line, column + (index - safe))

def TomlError.render (text : String) (e : TomlError) : String :=
  match e.span with
  | none => e.message ++ "\n"
  | some span =>
    let bytes := text.toUTF8.toList.toArray
    let (line, column) := location bytes span.start
    let number := toString (line + 1)
    let content := ((text.splitOn "\n").drop line).headD ""
    let width := min (span.stop - span.start) (content.utf8ByteSize - column)
    let pad (n : Nat) := String.ofList (List.replicate n ' ')
    "TOML parse error at line " ++ number ++ ", column " ++ toString (column + 1) ++ "\n" ++
      pad (number.length + 1) ++ "|\n" ++
      number ++ " | " ++ content ++ "\n" ++
      pad (number.length + 1) ++ "|" ++ pad (column + 1) ++
      String.ofList (List.replicate (max 1 width) '^') ++ "\n" ++
      e.message ++ "\n"

end SubmarineSwap.Toml
