import SubmarineSwap.Json.Decode

namespace SubmarineSwap.JsonText

def JsonNumber.toValue : JsonNumber → JsonValue
  | .unsigned n => .number n 0
  | .negative n => .number (-(n : Int)) 0
  | .float f => .float f

/-- The fields with `(k, v)` added: it replaces the value of a field already named `k`, and
otherwise comes last. -/
def setField (fields : List (String × JsonValue)) (k : String) (v : JsonValue) :
    List (String × JsonValue) :=
  if fields.any (·.1 == k) then fields.map fun (k', v') => if k' == k then (k, v) else (k', v')
  else fields ++ [(k, v)]

mutual

def Content.toValue : Content → JsonValue
  | .null => .null
  | .bool b => .bool b
  | .number n => n.toValue
  | .string s => .string s
  | .seq items => .array (itemsToValue items)
  | .map entries => .object ((entriesToValue entries).foldl (fun fs (k, v) => setField fs k v) [])

def itemsToValue : List Content → List JsonValue
  | [] => []
  | c :: rest => c.toValue :: itemsToValue rest

def entriesToValue : List (String × Content) → List (String × JsonValue)
  | [] => []
  | (k, c) :: rest => (k, c.toValue) :: entriesToValue rest

end

def readValue (text : String) : Except String JsonValue :=
  Content.toValue <$> runReader (readAll (content maxDepth)) text.toUTF8.toList.toArray

end SubmarineSwap.JsonText
