import Mathlib
import SubmarineSwap.Proofs.Json.Literal
import SubmarineSwap.Proofs.Bytes
import SubmarineSwap.Swap.Stored

namespace SubmarineSwap

namespace Bytes

section HexDigits

theorem ascii_of_isHexDigit {c : Char} (hex : c.isHexDigit = true) : c.toNat < 128 := by
  simp only [Char.isHexDigit, Char.isDigit, Bool.or_eq_true, Bool.and_eq_true, decide_eq_true_eq] at hex
  rcases hex with (⟨-, below⟩ | ⟨-, below⟩) | ⟨-, below⟩ <;>
    simp [UInt32.le_iff_toNat_le] at below <;> omega

theorem ascii_of_hexValue? {c : Char} {v : Nat} (valued : hexValue? c = some v) : c.toNat < 128 := by
  unfold hexValue? at valued
  split_ifs at valued with digit lower upper
  · simp [Char.le_def, UInt32.le_iff_toNat_le] at digit
    omega
  · simp [Char.le_def, UInt32.le_iff_toNat_le] at lower
    omega
  · simp [Char.le_def, UInt32.le_iff_toNat_le] at upper
    omega

theorem hexDigits_ascii : ∀ n : Fin 128,
    (hexValue? (Char.ofNat n)).isSome = (Char.ofNat n).isHexDigit ∧
      hexValue? (Char.ofNat n).toLower = hexValue? (Char.ofNat n) ∧
      ∀ v ∈ hexValue? (Char.ofNat n), v < 16 ∧ hexDigit v = (Char.ofNat n).toLower ∧
        48 ≤ n.val ∧ (Char.ofNat n).utf8Size = 1 := by
  decide

theorem hexDigits_of_ascii {c : Char} (ascii : c.toNat < 128) :
    (hexValue? c).isSome = c.isHexDigit ∧ hexValue? c.toLower = hexValue? c ∧
      ∀ v ∈ hexValue? c, v < 16 ∧ hexDigit v = c.toLower ∧ 48 ≤ c.toNat ∧ c.utf8Size = 1 := by
  simpa only [Char.ofNat_toNat] using hexDigits_ascii ⟨c.toNat, ascii⟩

theorem hexValue?_isSome_iff (c : Char) : (hexValue? c).isSome ↔ c.isHexDigit = true := by
  constructor
  · intro valued
    obtain ⟨v, value⟩ := Option.isSome_iff_exists.mp valued
    rw [← (hexDigits_of_ascii (ascii_of_hexValue? value)).1]
    exact valued
  · intro hex
    rw [(hexDigits_of_ascii (ascii_of_isHexDigit hex)).1]
    exact hex

theorem hexValue?_of_isHexDigit {c : Char} (hex : c.isHexDigit = true) : ∃ v, hexValue? c = some v :=
  Option.isSome_iff_exists.mp ((hexValue?_isSome_iff c).mpr hex)

theorem hexValue?_toLower {c : Char} (hex : c.isHexDigit = true) : hexValue? c.toLower = hexValue? c :=
  (hexDigits_of_ascii (ascii_of_isHexDigit hex)).2.1

theorem hexDigit_of_hexValue? {c : Char} {v : Nat} (valued : hexValue? c = some v) :
    v < 16 ∧ hexDigit v = c.toLower ∧ 48 ≤ c.toNat ∧ c.utf8Size = 1 :=
  (hexDigits_of_ascii (ascii_of_hexValue? valued)).2.2 v valued

theorem hexDigit_table : ∀ d : Fin 16,
    ((hexDigit d).isDigit ∨ ('a' ≤ hexDigit d ∧ hexDigit d ≤ 'f')) ∧ (hexDigit d).isHexDigit = true ∧
      (hexDigit d).toLower = hexDigit d := by
  decide

theorem ofHexChars?_sound : ∀ {cs : List Char} {bs : Bytes}, ofHexChars? cs = some bs →
    (∀ c ∈ cs, c.isHexDigit = true) ∧
      bs.flatMap (fun b => [hexDigit (b.toNat / 16), hexDigit (b.toNat % 16)]) = cs.map Char.toLower
  | [], bs, read => by
    simp only [ofHexChars?, Option.some.injEq] at read
    subst read
    simp
  | [_], _, read => by simp [ofHexChars?] at read
  | hi :: lo :: rest, bs, read => by
    simp only [ofHexChars?, Option.bind_eq_bind, Option.bind_eq_some_iff, Option.pure_def,
      Option.some.injEq] at read
    obtain ⟨h, high, l, low, tail, restRead, rfl⟩ := read
    obtain ⟨digits, written⟩ := ofHexChars?_sound restRead
    obtain ⟨highBound, highDigit, -⟩ := hexDigit_of_hexValue? high
    obtain ⟨lowBound, lowDigit, -⟩ := hexDigit_of_hexValue? low
    -- the byte holds both digits: the high one above, the low one below
    have byte : (h * 16 + l).toUInt8.toNat = h * 16 + l := UInt8.toNat_ofNat_of_lt' (by change h * 16 + l < 256; omega)
    have upper : (h * 16 + l) / 16 = h := by omega
    have lower : (h * 16 + l) % 16 = l := by omega
    refine ⟨?_, ?_⟩
    · intro c member
      rcases List.mem_cons.mp member with rfl | member
      · exact (hexValue?_isSome_iff c).mp (by simp [high])
      rcases List.mem_cons.mp member with rfl | member
      · exact (hexValue?_isSome_iff c).mp (by simp [low])
      exact digits c member
    · simp only [List.flatMap_cons, byte, upper, lower, highDigit, lowDigit, written, List.map_cons,
        List.cons_append, List.nil_append]

theorem ofHexChars?_map_toLower : ∀ {cs : List Char}, (∀ c ∈ cs, c.isHexDigit = true) →
    ofHexChars? (cs.map Char.toLower) = ofHexChars? cs
  | [], _ => rfl
  | [_], _ => rfl
  | hi :: lo :: rest, hex => by
    have later : ∀ c ∈ rest, c.isHexDigit = true := fun c member =>
      hex c (List.mem_cons_of_mem _ (List.mem_cons_of_mem _ member))
    have rest' := ofHexChars?_map_toLower later
    simp only [List.map_cons, ofHexChars?, rest',
      hexValue?_toLower (hex hi List.mem_cons_self),
      hexValue?_toLower (hex lo (List.mem_cons_of_mem _ List.mem_cons_self))]

theorem length_toHex (bs : Bytes) : (toHex bs).toList.length = 2 * bs.length := by
  rw [toHex, String.toList_ofList]
  induction bs with
  | nil => rfl
  | cons b bs ih =>
    simp only [List.flatMap_cons, List.length_append, List.length_cons, List.length_nil, ih]
    omega

theorem mem_toHex {bs : Bytes} {c : Char} (member : c ∈ (toHex bs).toList) :
    ∃ d : Fin 16, c = hexDigit d := by
  rw [toHex, String.toList_ofList] at member
  obtain ⟨b, -, written⟩ := List.mem_flatMap.mp member
  have bound := UInt8.toNat_lt b
  rcases List.mem_cons.mp written with rfl | written
  · exact ⟨⟨b.toNat / 16, by omega⟩, rfl⟩
  rcases List.mem_singleton.mp written with rfl
  exact ⟨⟨b.toNat % 16, by omega⟩, rfl⟩

theorem toHex_lowercase (bs : Bytes) :
    ∀ c ∈ (toHex bs).toList, c.isDigit ∨ ('a' ≤ c ∧ c ≤ 'f') := by
  intro c member
  obtain ⟨d, rfl⟩ := mem_toHex member
  exact (hexDigit_table d).1

theorem toHex_isHexDigit (bs : Bytes) : ∀ c ∈ (toHex bs).toList, c.isHexDigit = true := by
  intro c member
  obtain ⟨d, rfl⟩ := mem_toHex member
  exact (hexDigit_table d).2.1

theorem toHex_map_toLower (bs : Bytes) : (toHex bs).toList.map Char.toLower = (toHex bs).toList := by
  have kept : ∀ c ∈ (toHex bs).toList, c.toLower = id c := by
    intro c member
    obtain ⟨d, rfl⟩ := mem_toHex member
    exact (hexDigit_table d).2.2
  rw [List.map_congr_left kept, List.map_id]

end HexDigits

end Bytes

section PreimageJson

open JsonText

theorem utf8ByteSize_of_hexDigits {s : String} (hex : ∀ c ∈ s.toList, c.isHexDigit = true) :
    s.utf8ByteSize = s.toList.length := by
  have counted : ∀ cs : List Char, (∀ c ∈ cs, c.isHexDigit = true) → String.utf8Len cs = cs.length := by
    intro cs
    induction cs with
    | nil => intro _; rfl
    | cons c cs ih =>
      intro hex
      obtain ⟨v, value⟩ := Bytes.hexValue?_of_isHexDigit (hex c List.mem_cons_self)
      rw [String.utf8Len_cons, ih fun c' member => hex c' (List.mem_cons_of_mem _ member),
        (Bytes.hexDigit_of_hexValue? value).2.2.2, List.length_cons]
  rw [← String.ofList_toList (s := s), String.utf8ByteSize_ofList, String.toList_ofList]
  exact counted s.toList hex

theorem quote_of_hexDigits {s : String} (hex : ∀ c ∈ s.toList, c.isHexDigit = true) :
    JsonValue.quote s = "\"" ++ s ++ "\"" := by
  have plain : s.toList.map JsonValue.escapeChar = s.toList.map Char.toString := by
    refine List.map_congr_left fun c member => ?_
    obtain ⟨v, value⟩ := Bytes.hexValue?_of_isHexDigit (hex c member)
    have printable := (Bytes.hexDigit_of_hexValue? value).2.2.1
    -- a digit is none of the characters that are escaped: the backslash has no value, the others
    -- are control characters or the quote, all below the digits
    have above : ∀ d : Char, d.toNat < 48 → c ≠ d := by
      rintro d below rfl
      omega
    have notBackslash : c ≠ '\\' := by
      rintro rfl
      rw [show Bytes.hexValue? '\\' = none by decide] at value
      cases value
    unfold JsonValue.escapeChar
    rw [if_neg (above '"' (by decide)), if_neg notBackslash, if_neg (above '\n' (by decide)),
      if_neg (above '\r' (by decide)), if_neg (above '\t' (by decide)), if_neg (by omega),
      if_neg (by omega), if_neg (by omega)]
  have joined : String.join (s.toList.map Char.toString) = s := by
    apply String.toList_injective
    rw [String.toList_join, List.flatMap_map]
    simp [Char.toString_eq_singleton]
  rw [JsonValue.quote, plain, joined]

theorem toJson_eq (p : Preimage) : p.toJson = "\"" ++ Bytes.toHex p.bytes ++ "\"" :=
  quote_of_hexDigits (Bytes.toHex_isHexDigit p.bytes)

theorem quoted_inj {s t : String} : "\"" ++ s ++ "\"" = "\"" ++ t ++ "\"" ↔ s = t := by
  constructor
  · intro same
    have lists := congrArg String.toList same
    simp only [String.toList_append] at lists
    exact String.toList_injective (by simpa using lists)
  · rintro rfl
    rfl

theorem Preimage.ofHexText_eq_ok {s : String} {p : Preimage} :
    Preimage.ofHexText s = .ok p ↔ s.toList.length = 64 ∧ (∀ c ∈ s.toList, c.isHexDigit = true) ∧
      Bytes.toHex p.bytes = String.ofList (s.toList.map Char.toLower) := by
  have continued : ∀ bs : Bytes, ((Except.ok bs : Except String Bytes) >>= fun bs : Bytes =>
      if h : bs.length = preimageSize then (pure (⟨bs, h⟩ : Preimage) : Except String Preimage)
      else throw "failed to parse hex") =
        if h : bs.length = preimageSize then .ok (⟨bs, h⟩ : Preimage) else .error "failed to parse hex" :=
    fun _ => rfl
  unfold Preimage.ofHexText hexArray
  constructor
  · intro read
    by_cases sized : s.utf8ByteSize = 2 * preimageSize
    · rw [if_neg (not_not.mpr sized)] at read
      cases decoded : Bytes.ofHex? s with
      | none =>
        rw [decoded] at read
        cases read
      | some bs =>
        rw [decoded, continued] at read
        by_cases full : bs.length = preimageSize
        · rw [dif_pos full] at read
          cases read
          obtain ⟨hex, written⟩ := Bytes.ofHexChars?_sound decoded
          have lowered : Bytes.toHex bs = String.ofList (s.toList.map Char.toLower) := by
            rw [Bytes.toHex, written]
          have counted := Bytes.length_toHex bs
          rw [lowered, String.toList_ofList, List.length_map, full] at counted
          exact ⟨counted, hex, lowered⟩
        · rw [dif_neg full] at read
          cases read
    · rw [if_pos sized] at read
      cases read
  · rintro ⟨counted, hex, lowered⟩
    have sized : s.utf8ByteSize = 2 * preimageSize := by
      rw [utf8ByteSize_of_hexDigits hex, counted]
      rfl
    -- the digits read as the preimage's bytes, whatever their case
    have decoded : Bytes.ofHex? s = some p.bytes := by
      rw [Bytes.ofHex?, ← Bytes.ofHexChars?_map_toLower hex, ← String.toList_ofList (l := s.toList.map _),
        ← lowered, ← Bytes.ofHex?, Bytes.ofHex?_toHex]
    rw [if_neg (not_not.mpr sized), decoded, continued, dif_pos p.length_eq]

theorem Preimage.ofJson_eq_ok {text : String} {p : Preimage} :
    Preimage.ofJson text = .ok p ↔
      ∃ pre lit post digits, text.toUTF8.toList = pre ++ lit ++ post ∧ (∀ b ∈ pre, Blank b) ∧
        StringLiteral lit digits ∧ (∀ b ∈ post, Blank b) ∧ Preimage.ofHexText digits = .ok p := by
  rw [Preimage.ofJson, readPreimage, decodeBytes_bind_ofChecked]
  constructor
  · rintro ⟨s, decoded, checked⟩
    obtain ⟨pre, lit, post, s', split, blanks, literal, trailing, same⟩ :=
      decodeBytes_readStr_eq_ok.mp decoded
    cases same
    exact ⟨pre, lit, post, _, split, blanks, literal, trailing, checked⟩
  · rintro ⟨pre, lit, post, digits, split, blanks, literal, trailing, checked⟩
    exact ⟨digits, decodeBytes_readStr_eq_ok.mpr ⟨pre, lit, post, digits, split, blanks, literal,
      trailing, rfl⟩, checked⟩

/-- A preimage's JSON is its lowercase hexadecimal string, and reads back as the preimage. -/
theorem preimage_json_round_trip :
    (∀ p : Preimage, p.toJson = "\"" ++ Bytes.toHex p.bytes ++ "\"" ∧
        (Bytes.toHex p.bytes).toList.length = 64 ∧
        (∀ c ∈ (Bytes.toHex p.bytes).toList, c.isDigit ∨ ('a' ≤ c ∧ c ≤ 'f')) ∧
        Bytes.ofHex? (Bytes.toHex p.bytes) = some p.bytes ∧ Preimage.ofJson p.toJson = .ok p) ∧
      ∀ (text : String) (p : Preimage), Preimage.ofJson text = .ok p ↔
        ∃ pre lit post digits, text.toUTF8.toList = pre ++ lit ++ post ∧ (∀ b ∈ pre, Blank b) ∧
          StringLiteral lit digits ∧ (∀ b ∈ post, Blank b) ∧ digits.toList.length = 64 ∧
          (∀ c ∈ digits.toList, c.isHexDigit = true) ∧
          p.toJson = "\"" ++ String.ofList (digits.toList.map Char.toLower) ++ "\"" := by
  refine ⟨fun p => ⟨toJson_eq p, ?length, Bytes.toHex_lowercase p.bytes, Bytes.ofHex?_toHex p.bytes,
    ?readsBack⟩, fun text p => ?characterized⟩
  case length =>
    rw [Bytes.length_toHex, p.length_eq]
    rfl
  case readsBack =>
    have digits : Preimage.ofHexText (Bytes.toHex p.bytes) = .ok p :=
      Preimage.ofHexText_eq_ok.mpr ⟨by rw [Bytes.length_toHex, p.length_eq]; rfl,
        Bytes.toHex_isHexDigit p.bytes, by rw [Bytes.toHex_map_toLower, String.ofList_toList]⟩
    have text : (pure (Bytes.toHex p.bytes) : Except String String) = .ok (Bytes.toHex p.bytes) := rfl
    have read : Reads readPreimage p.toJson.toUTF8.toList p [] := by
      unfold readPreimage
      exact Reads.bind_end (Reads.readStr text [])
        (by simpa only [digits, ofChecked] using Reads.pure p [])
    exact decodeBytes_of_reads read
  case characterized =>
    rw [Preimage.ofJson_eq_ok]
    simp only [Preimage.ofHexText_eq_ok, toJson_eq, quoted_inj, iff_self]

end PreimageJson

end SubmarineSwap
