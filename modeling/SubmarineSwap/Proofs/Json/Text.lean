import Mathlib
import SubmarineSwap.Json.Value
import SubmarineSwap.Proofs.Json.Reading

namespace SubmarineSwap.JsonText

open JsonValue

section Utf8

theorem byteArray_toList_loop (bs : ByteArray) (i : Nat) (r : List UInt8) :
    ByteArray.toList.loop bs i r = r.reverse ++ bs.data.toList.drop i := by
  induction h : bs.size - i generalizing i r with
  | zero =>
    rw [ByteArray.toList.loop]
    have beyond : ¬i < bs.size := by omega
    have empty : bs.data.toList.drop i = [] :=
      List.drop_eq_nil_of_le (by rw [Array.length_toList]; exact Nat.le_of_not_lt beyond)
    simp only [beyond, if_false, empty, List.append_nil]
  | succ n ih =>
    rw [ByteArray.toList.loop]
    have lt : i < bs.size := by omega
    have next : bs.data.toList.drop i = bs.data.toList[i] :: bs.data.toList.drop (i + 1) :=
      List.drop_eq_getElem_cons (by simpa using lt)
    simp only [lt, if_true]
    rw [ih (i + 1) _ (by omega), next]
    simp [ByteArray.get!, getElem!_pos bs.data i lt]

theorem byteArray_toList (bs : ByteArray) : bs.toList = bs.data.toList := by
  simp [ByteArray.toList, byteArray_toList_loop]

@[simp] theorem toByteArray_toList (s : String) :
    s.toByteArray.toList = s.toList.flatMap String.utf8EncodeChar := by
  rw [byteArray_toList, ← String.utf8Encode_toList, List.utf8Encode, List.toList_data_toByteArray]

theorem toUTF8_toList (s : String) : s.toUTF8.toList = s.toList.flatMap String.utf8EncodeChar :=
  toByteArray_toList s

theorem toUTF8_toList_append (s t : String) :
    (s ++ t).toUTF8.toList = s.toUTF8.toList ++ t.toUTF8.toList := by
  rw [toUTF8_toList, toUTF8_toList, toUTF8_toList, String.toList_append, List.flatMap_append]

theorem fromUTF8?_encoded (s : String) :
    String.fromUTF8? (ByteArray.mk (s.toList.flatMap String.utf8EncodeChar).toArray) = some s := by
  have same : ByteArray.mk (s.toList.flatMap String.utf8EncodeChar).toArray = s.toByteArray := by
    rw [← String.utf8Encode_toList, List.utf8Encode]
    ext1
    apply Array.toList_inj.mp
    rw [List.toList_data_toByteArray, List.toList_toArray]
  rw [same, String.fromUTF8?, dif_pos s.isValidUTF8]
  rfl

theorem utf8EncodeChar_of_lt {c : Char} (small : c.toNat < 0x80) :
    String.utf8EncodeChar c = [UInt8.ofNat c.toNat] := by
  have ascii : c.val.toNat ≤ 0x7f := Nat.le_of_lt_succ small
  simp only [String.utf8EncodeChar, ascii, if_true]
  rfl

theorem utf8EncodeChar_high {c : Char} (high : 0x80 ≤ c.toNat) :
    ∀ b ∈ String.utf8EncodeChar c, 0x80 ≤ b.toNat := by
  have wide : ¬c.val.toNat ≤ 0x7f := by simp only [Char.toNat] at high; omega
  have bound := c.val.toNat_lt
  simp only [String.utf8EncodeChar, wide, if_false]
  split_ifs <;> simp only [List.mem_cons, List.not_mem_nil, or_false] <;> intro b member <;>
    rcases member with rfl | rfl | rfl | rfl <;> simp [UInt8.toNat_ofNat] <;> omega

theorem utf8EncodeChar_plain {c : Char} (printable : 0x20 ≤ c.toNat) (notQuote : c ≠ '"')
    (notBackslash : c ≠ '\\') : ∀ b ∈ String.utf8EncodeChar c, 0x20 ≤ b.toNat ∧ b ≠ 0x22 ∧ b ≠ 0x5c := by
  intro b member
  by_cases small : c.toNat < 0x80
  · rw [utf8EncodeChar_of_lt small, List.mem_singleton] at member
    subst member
    have same : (UInt8.ofNat c.toNat).toNat = c.toNat := UInt8.toNat_ofNat_of_lt' (by
      change c.toNat < 256
      omega)
    -- a byte that is a quote or a backslash is the code of that character
    have code : ∀ d : Char, d.toNat < 0x80 → UInt8.ofNat c.toNat = UInt8.ofNat d.toNat → c = d := by
      intro d dSmall equal
      have codes := congrArg UInt8.toNat equal
      rw [same, UInt8.toNat_ofNat_of_lt' (by change d.toNat < 256; omega)] at codes
      exact Char.toNat_inj.mp codes
    exact ⟨by omega, fun quote => notQuote (code '"' (by decide) quote),
      fun backslash => notBackslash (code '\\' (by decide) backslash)⟩
  · have high := utf8EncodeChar_high (by omega) b member
    refine ⟨by omega, ?_, ?_⟩ <;> rintro rfl <;> simp at high

theorem utf8_toNat (c : Char) : utf8 c.toNat = String.utf8EncodeChar c := by
  rw [utf8, Char.ofNat_toNat, toUTF8_toList, Char.toString_eq_singleton, String.toList_singleton,
    List.flatMap_singleton]

end Utf8

section Escapes

variable {rest : Bytes}

def escapeLetters : List (UInt8 × Bytes) :=
  [(0x22, [0x22]), (0x5c, [0x5c]), (0x2f, [0x2f]), (0x62, [8]), (0x66, [12]), (0x6e, [10]),
    (0x72, [13]), (0x74, [9])]

theorem Reads.escape_letter {e : UInt8} {out : Bytes} (listed : (e, out) ∈ escapeLetters) :
    Reads escape [e] out rest := by
  unfold escape
  simp only [escapeLetters, List.mem_cons, Prod.mk.injEq, List.not_mem_nil, or_false] at listed
  rcases listed with ⟨rfl, rfl⟩ | ⟨rfl, rfl⟩ | ⟨rfl, rfl⟩ | ⟨rfl, rfl⟩ | ⟨rfl, rfl⟩ | ⟨rfl, rfl⟩ |
    ⟨rfl, rfl⟩ | ⟨rfl, rfl⟩ <;> exact Reads.bind (Reads.nextOrEof _ _) (Reads.pure _ rest) rfl

theorem Reads.hexEscape {h₁ h₂ h₃ h₄ : UInt8} {n : Nat}
    (digits : [h₁, h₂, h₃, h₄].foldlM (fun n c => (16 * n + ·) <$> hexDigitValue c) 0 = some n) :
    Reads JsonText.hexEscape [h₁, h₂, h₃, h₄] n rest := by
  intro input i ahead
  have fits : i + 4 ≤ input.size := by
    have counted := congrArg List.length ahead
    simp only [List.length_drop, Array.length_toList, List.length_append] at counted
    simp only [List.length_cons, List.length_nil] at counted
    omega
  have taken : (input.extract i (i + 4)).toList = [h₁, h₂, h₃, h₄] := by
    rw [Array.toList_extract, List.extract_eq_take_drop, ahead]
    simp
  refine ⟨i + 4, ?_, by rw [← List.drop_drop, ahead]; rfl⟩
  unfold JsonText.hexEscape
  rw [run_bind_of_ok (show (get : Reader Nat) input i = .ok i i from rfl),
    run_bind_of_ok (show size input i = .ok input.size i from rfl)]
  simp only [show ¬i + 4 > input.size by omega, if_false]
  rw [run_bind_of_ok (show (read : Reader (Array UInt8)) input i = .ok input i from rfl)]
  rw [taken, run_bind_of_ok (show (set (i + 4) : Reader Unit) input i = .ok () (i + 4) from rfl), digits]
  rfl

theorem hex4_eq (n : Nat) : hex4 n = String.ofList [Bytes.hexDigit (n / 4096 % 16),
    Bytes.hexDigit (n / 256 % 16), Bytes.hexDigit (n / 16 % 16), Bytes.hexDigit (n % 16)] := by
  simp [hex4, Bytes.hexDigit, List.range_succ]

theorem hexDigit_byte : ∀ d : Fin 16, (Bytes.hexDigit d).toNat < 0x80 ∧
    hexDigitValue (UInt8.ofNat (Bytes.hexDigit d).toNat) = some d := by
  decide

theorem hexDigit_bytes {d : Nat} (digit : d < 16) :
    String.utf8EncodeChar (Bytes.hexDigit d) = [UInt8.ofNat (Bytes.hexDigit d).toNat] ∧
      hexDigitValue (UInt8.ofNat (Bytes.hexDigit d).toNat) = some d := by
  obtain ⟨small, value⟩ := hexDigit_byte ⟨d, digit⟩
  exact ⟨utf8EncodeChar_of_lt small, value⟩

theorem Reads.hexEscape_hex4 {n : Nat} (small : n < 0x10000) :
    Reads JsonText.hexEscape (hex4 n).toUTF8.toList n rest := by
  obtain ⟨bytes₃, value₃⟩ := hexDigit_bytes (Nat.mod_lt (n / 4096) (show 16 > 0 by decide))
  obtain ⟨bytes₂, value₂⟩ := hexDigit_bytes (Nat.mod_lt (n / 256) (show 16 > 0 by decide))
  obtain ⟨bytes₁, value₁⟩ := hexDigit_bytes (Nat.mod_lt (n / 16) (show 16 > 0 by decide))
  obtain ⟨bytes₀, value₀⟩ := hexDigit_bytes (Nat.mod_lt n (show 16 > 0 by decide))
  rw [toUTF8_toList, hex4_eq, String.toList_ofList]
  simp only [List.flatMap_cons, List.flatMap_nil, bytes₃, bytes₂, bytes₁, bytes₀, List.cons_append,
    List.nil_append, List.append_nil]
  apply Reads.hexEscape
  simp only [List.foldlM_cons, List.foldlM_nil, value₃, value₂, value₁, value₀, Option.map_eq_map,
    Option.map_some, Option.bind_eq_bind, Option.bind_some, Option.pure_def, Option.some.injEq]
  omega

theorem Reads.unicodeEscape_hex4 {n : Nat} (below : n < 0xd800) :
    Reads unicodeEscape (hex4 n).toUTF8.toList n rest := by
  unfold unicodeEscape
  refine Reads.bind (Reads.hexEscape_hex4 (by omega)) ?_ (List.append_nil _)
  have notLow : ¬(0xdc00 ≤ n ∧ n ≤ 0xdfff) := by omega
  have notHigh : n < 0xd800 ∨ n > 0xdbff := .inl below
  simp only [notLow, notHigh, if_false, if_true]
  exact Reads.pure n rest

theorem Reads.escape_unicode {n : Nat} (below : n < 0xd800) :
    Reads escape (0x75 :: (hex4 n).toUTF8.toList) (utf8 n) rest := by
  unfold escape
  exact Reads.bind (Reads.nextOrEof 0x75 _) (Reads.map utf8 (Reads.unicodeEscape_hex4 below)) rfl

end Escapes

section Strings

variable {rest : Bytes}

theorem Reads.stringBody_go_escape {fuel : Nat} {acc ebs out more result : Bytes}
    (escaped : Reads escape ebs out (more ++ rest))
    (next : Reads (stringBody.go fuel (out.reverse ++ acc)) more result rest) :
    Reads (stringBody.go (fuel + 1) acc) (0x5c :: (ebs ++ more)) result rest := by
  unfold stringBody.go
  refine Reads.bind_nil (Reads.peek 0x5c rfl) ?_
  exact Reads.bind (Reads.eat 0x5c _) (Reads.bind escaped next rfl) rfl

theorem Reads.stringBody_go_plain {fuel : Nat} {acc bs more result : Bytes}
    (plain : ∀ b ∈ bs, 0x20 ≤ b.toNat ∧ b ≠ 0x22 ∧ b ≠ 0x5c)
    (next : Reads (stringBody.go fuel (bs.reverse ++ acc)) more result rest) :
    Reads (stringBody.go (fuel + bs.length) acc) (bs ++ more) result rest := by
  induction bs generalizing acc with
  | nil => simpa using next
  | cons b bs ih =>
    obtain ⟨printable, notQuote, notBackslash⟩ := plain b List.mem_cons_self
    have later := ih (fun b' member => plain b' (List.mem_cons_of_mem b member))
      (show Reads (stringBody.go fuel (bs.reverse ++ (b :: acc))) more result rest by simpa using next)
    rw [List.length_cons, ← Nat.add_assoc]
    unfold stringBody.go
    refine Reads.bind_nil (Reads.peek b rfl) ?_
    -- the byte is neither the closing quote nor a backslash, so it is taken as it is
    split
    · contradiction
    · rename_i same
      cases same
      exact absurd rfl notQuote
    · rename_i same
      cases same
      exact absurd rfl notBackslash
    · rename_i c _ _ same
      cases same
      have notControl : ¬b < 0x20 := by
        rw [UInt8.lt_iff_toNat_lt]
        exact Nat.not_lt.mpr printable
      simp only [notControl, if_false]
      exact Reads.bind (Reads.eat b _) later rfl

theorem Reads.stringBody_go_char (c : Char) : ∃ k ≤ (escapeChar c).toUTF8.toList.length,
    ∀ (fuel : Nat) (acc more result rest : Bytes),
      Reads (stringBody.go fuel ((String.utf8EncodeChar c).reverse ++ acc)) more result rest →
      Reads (stringBody.go (fuel + k) acc) ((escapeChar c).toUTF8.toList ++ more) result rest := by
  -- an escape of one letter is one step of two bytes
  have letter : ∀ (text : String) (e : UInt8) (out : Bytes),
      text.toUTF8.toList = [0x5c, e] → String.utf8EncodeChar c = out →
      (e, out) ∈ escapeLetters →
      ∃ k ≤ text.toUTF8.toList.length, ∀ (fuel : Nat) (acc more result rest : Bytes),
        Reads (stringBody.go fuel ((String.utf8EncodeChar c).reverse ++ acc)) more result rest →
        Reads (stringBody.go (fuel + k) acc) (text.toUTF8.toList ++ more) result rest := by
    intro text e out written encoded listed
    refine ⟨1, by rw [written]; simp, fun fuel acc more result rest next => ?_⟩
    rw [written]
    rw [encoded] at next
    exact Reads.stringBody_go_escape (Reads.escape_letter listed) next
  -- the branches of the escape in its order, each one ruled out before the next is taken
  unfold escapeChar
  by_cases quote : c = '"'
  · subst quote
    rw [if_pos rfl]
    exact letter _ 0x22 [0x22] (by rw [toUTF8_toList]; decide) (by decide) (by decide)
  rw [if_neg quote]
  by_cases backslash : c = '\\'
  · subst backslash
    rw [if_pos rfl]
    exact letter _ 0x5c [0x5c] (by rw [toUTF8_toList]; decide) (by decide) (by decide)
  rw [if_neg backslash]
  by_cases newline : c = '\n'
  · subst newline
    rw [if_pos rfl]
    exact letter _ 0x6e [10] (by rw [toUTF8_toList]; decide) (by decide) (by decide)
  rw [if_neg newline]
  by_cases cr : c = '\r'
  · subst cr
    rw [if_pos rfl]
    exact letter _ 0x72 [13] (by rw [toUTF8_toList]; decide) (by decide) (by decide)
  rw [if_neg cr]
  by_cases tab : c = '\t'
  · subst tab
    rw [if_pos rfl]
    exact letter _ 0x74 [9] (by rw [toUTF8_toList]; decide) (by decide) (by decide)
  rw [if_neg tab]
  by_cases backspace : c.toNat = 8
  · obtain rfl : c = Char.ofNat 8 := Char.toNat_inj.mp (by rw [backspace]; rfl)
    rw [if_pos backspace]
    exact letter _ 0x62 [8] (by rw [toUTF8_toList]; decide) (by decide) (by decide)
  rw [if_neg backspace]
  by_cases formfeed : c.toNat = 12
  · obtain rfl : c = Char.ofNat 12 := Char.toNat_inj.mp (by rw [formfeed]; rfl)
    rw [if_pos formfeed]
    exact letter _ 0x66 [12] (by rw [toUTF8_toList]; decide) (by decide) (by decide)
  rw [if_neg formfeed]
  by_cases control : c.toNat < 0x20
  · rw [if_pos control]
    -- another control character is escaped by its code in four hexadecimal digits
    have prefixed : "\\u".toUTF8.toList = [0x5c, 0x75] := by
      rw [toUTF8_toList]
      decide
    refine ⟨1, by rw [toUTF8_toList_append, prefixed]; simp, fun fuel acc more result rest next => ?_⟩
    simp only [toUTF8_toList_append, prefixed, List.cons_append, List.nil_append]
    rw [← utf8_toNat] at next
    exact Reads.stringBody_go_escape (Reads.escape_unicode (by omega)) next
  · rw [if_neg control]
    -- any other character is written as its own bytes
    have bytes : c.toString.toUTF8.toList = String.utf8EncodeChar c := by
      rw [toUTF8_toList, Char.toString_eq_singleton, String.toList_singleton, List.flatMap_singleton]
    refine ⟨(String.utf8EncodeChar c).length, by rw [bytes], fun fuel acc more result rest next => ?_⟩
    rw [bytes]
    exact Reads.stringBody_go_plain (utf8EncodeChar_plain (by omega) quote backslash) next

theorem Reads.stringBody_go (cs : List Char) :
    ∃ steps ≤ (cs.flatMap fun c => (escapeChar c).toUTF8.toList).length,
      ∀ (fuel : Nat) (acc rest : Bytes),
        Reads (stringBody.go (fuel + steps + 1) acc)
          ((cs.flatMap fun c => (escapeChar c).toUTF8.toList) ++ [0x22])
          (acc.reverse ++ cs.flatMap String.utf8EncodeChar) rest := by
  induction cs with
  | nil =>
    refine ⟨0, Nat.zero_le _, fun fuel acc rest => ?_⟩
    simp only [List.flatMap_nil, List.nil_append, List.append_nil]
    unfold stringBody.go
    refine Reads.bind_nil (Reads.peek 0x22 rfl) ?_
    exact Reads.bind (Reads.eat 0x22 _) (Reads.pure acc.reverse rest) rfl
  | cons c cs ih =>
    obtain ⟨k, fewer, step⟩ := Reads.stringBody_go_char c
    obtain ⟨steps, fewer', loop⟩ := ih
    refine ⟨steps + k, by simp only [List.flatMap_cons, List.length_append]; omega,
      fun fuel acc rest => ?_⟩
    have read := step _ _ _ _ _ (loop fuel ((String.utf8EncodeChar c).reverse ++ acc) rest)
    rw [show fuel + (steps + k) + 1 = fuel + steps + 1 + k by omega, List.flatMap_cons,
      List.append_assoc]
    simpa using read

theorem Reads.stringBody (s : String) (rest : Bytes) :
    Reads JsonText.stringBody ((s.toList.flatMap fun c => (escapeChar c).toUTF8.toList) ++ [0x22])
      s rest := by
  obtain ⟨steps, fewer, loop⟩ := Reads.stringBody_go s.toList
  unfold JsonText.stringBody
  refine Reads.size_bind fun n enough => ?_
  obtain ⟨fuel, rfl⟩ : ∃ fuel, n = fuel + steps + 1 :=
    ⟨n - steps - 1, by simp only [List.length_append, List.length_singleton] at enough; omega⟩
  refine Reads.bind (loop fuel [] rest) ?_ (List.append_nil _)
  simp only [List.reverse_nil, List.nil_append, fromUTF8?_encoded]
  exact Reads.pure s rest

theorem join_bytes (l : List String) :
    (String.join l).toUTF8.toList = l.flatMap fun t => t.toUTF8.toList := by
  simp only [toUTF8_toList, String.toList_join, List.flatMap_assoc]

theorem quote_bytes (s : String) : (quote s).toUTF8.toList =
    0x22 :: ((s.toList.flatMap fun c => (escapeChar c).toUTF8.toList) ++ [0x22]) := by
  have mark : "\"".toUTF8.toList = [0x22] := by
    rw [toUTF8_toList]
    decide
  rw [quote, toUTF8_toList_append, toUTF8_toList_append, mark, join_bytes, List.flatMap_map]
  rfl

theorem Reads.readStr {γ : Type} {expected : String} {check : String → Except String γ} {s : String}
    {a : γ} (checked : check s = .ok a) (rest : Bytes) :
    Reads (readStr expected check) (quote s).toUTF8.toList a rest := by
  unfold JsonText.readStr
  apply Reads.placed
  rw [quote_bytes]
  refine Reads.bind_nil (Reads.skipBlanks 0x22 rfl (by decide)) ?_
  refine Reads.bind (Reads.eat 0x22 _) (Reads.bind (Reads.stringBody s _) ?_ (List.append_nil _)) rfl
  simpa only [checked, ofChecked] using Reads.pure a rest

theorem Reads.nextKey_first (k : String) (rest : Bytes) :
    Reads (nextKey true) (quote k).toUTF8.toList (some k) rest := by
  unfold nextKey
  rw [quote_bytes]
  refine Reads.bind_nil (Reads.skipBlanks 0x22 rfl (by decide)) ?_
  exact Reads.bind_nil (Reads.pure (some 0x22) _)
    (Reads.bind (Reads.eat 0x22 _) (Reads.map some (Reads.stringBody k rest)) rfl)

theorem Reads.nextKey_next (k : String) (rest : Bytes) :
    Reads (nextKey false) (0x2c :: (quote k).toUTF8.toList) (some k) rest := by
  unfold nextKey
  rw [quote_bytes]
  refine Reads.bind_nil (Reads.skipBlanks 0x2c rfl (by decide)) ?_
  refine Reads.bind (Reads.eat 0x2c _) (Reads.bind_nil (Reads.skipBlanks 0x22 rfl (by decide)) ?_) rfl
  exact Reads.bind (Reads.eat 0x22 _) (Reads.map some (Reads.stringBody k rest)) rfl

theorem Reads.nextKey_end (closing : rest.head? = some 0x7d) : Reads (nextKey false) [] none rest := by
  unfold nextKey
  exact Reads.bind_nil (Reads.skipBlanks 0x7d closing (by decide)) (Reads.pure none rest)

theorem Reads.content_string (depth : Nat) (s : String) (rest : Bytes) :
    Reads (content depth) (quote s).toUTF8.toList (.string s) rest := by
  rw [content]
  apply Reads.placed
  rw [quote_bytes]
  refine Reads.bind_nil (Reads.skipBlanks 0x22 rfl (by decide)) ?_
  exact Reads.bind (Reads.eat 0x22 _) (Reads.map Content.string (Reads.stringBody s rest)) rfl

theorem Reads.content_null (depth : Nat) (rest : Bytes) :
    Reads (content depth) "null".toUTF8.toList .null rest := by
  have word : "null".toUTF8.toList = [0x6e, 0x75, 0x6c, 0x6c] := by
    rw [toUTF8_toList]
    decide
  rw [content, word]
  apply Reads.placed
  refine Reads.bind_nil (Reads.skipBlanks 0x6e rfl (by decide)) ?_
  exact Reads.bind (Reads.eat 0x6e _)
    (Reads.bind (Reads.expectIdent [0x75, 0x6c, 0x6c]) (Reads.pure Content.null rest) rfl) rfl

end Strings

section Numbers

variable {rest : Bytes}

theorem render_nat (n : Nat) : render (nat n) = toString n := by
  simp only [nat, render, renderNumber, if_true]
  rfl

theorem digit_bounds {ch : Char} (digit : ch.isDigit) : 48 ≤ ch.toNat ∧ ch.toNat ≤ 57 := by
  simp only [Char.isDigit, Bool.and_eq_true, decide_eq_true_eq] at digit
  obtain ⟨low, high⟩ := digit
  simp only [UInt32.le_iff_toNat_le] at low high
  exact ⟨low, high⟩

theorem digit_byte {ch : Char} (digit : ch.isDigit) :
    String.utf8EncodeChar ch = [UInt8.ofNat ch.toNat] ∧ isDigit (UInt8.ofNat ch.toNat) = true ∧
      (UInt8.ofNat ch.toNat - 0x30).toNat = ch.toNat - 48 := by
  obtain ⟨low, high⟩ := digit_bounds digit
  have code : (UInt8.ofNat ch.toNat).toNat = ch.toNat :=
    UInt8.toNat_ofNat_of_lt' (by change ch.toNat < 256; omega)
  refine ⟨utf8EncodeChar_of_lt (by omega), ?_, ?_⟩
  · simp only [isDigit, Bool.and_eq_true, decide_eq_true_eq, UInt8.le_iff_toNat_le, code]
    exact ⟨low, high⟩
  · rw [UInt8.toNat_sub_of_le _ _ (by rw [UInt8.le_iff_toNat_le, code]; exact low), code]
    rfl

theorem toDigits_head_ne_zero {n : Nat} (pos : 0 < n) :
    ∃ ch ds, Nat.toDigits 10 n = ch :: ds ∧ ch ≠ '0' := by
  induction n using Nat.strong_induction_on with
  | _ n ih =>
    rw [Nat.toDigits_eq_if (by decide)]
    split
    · rename_i single
      have nonzero : ∀ d : Fin 10, d ≠ 0 → Nat.digitChar d ≠ '0' := by decide
      exact ⟨_, [], rfl, nonzero ⟨n, single⟩ (fun zero => by simp [Fin.ext_iff] at zero; omega)⟩
    · obtain ⟨ch, ds, digits, leading⟩ := ih (n / 10) (by omega) (by omega)
      exact ⟨ch, ds ++ [Nat.digitChar (n % 10)], by rw [digits, List.cons_append], leading⟩

theorem ofDigitChars_le (ds : List Char) (sig : Nat) : sig ≤ Nat.ofDigitChars 10 ds sig := by
  rw [Nat.ofDigitChars_eq_ofDigitChars_zero]
  have : 1 ≤ 10 ^ ds.length := Nat.one_le_pow _ _ (by decide)
  nlinarith

theorem Reads.integer_go (ds : List Char) (digits : ∀ ch ∈ ds, ch.isDigit) {sig fuel : Nat}
    (enough : ds.length ≤ fuel) (small : Nat.ofDigitChars 10 ds sig < 2 ^ 32)
    (stop : ∀ b ∈ rest.head?, isDigit b = false) :
    Reads (integer.go fuel sig) (ds.flatMap String.utf8EncodeChar)
      (Nat.ofDigitChars 10 ds sig, false) rest := by
  induction ds generalizing sig fuel with
  | nil =>
    simp only [List.flatMap_nil, Nat.ofDigitChars_nil]
    cases fuel with
    | zero => exact Reads.pure _ rest
    | succ fuel =>
      unfold integer.go
      -- the byte after the digits, if any, is no digit
      cases rest with
      | nil => exact Reads.bind_nil (Reads.peek_end rfl) (Reads.pure _ [])
      | cons b more =>
        refine Reads.bind_nil (Reads.peek b rfl) ?_
        simpa only [stop b rfl, Bool.not_false, if_true] using Reads.pure (sig, false) (b :: more)
  | cons ch ds ih =>
    obtain ⟨fuel, rfl⟩ : ∃ f, fuel = f + 1 := ⟨fuel - 1, by simp at enough; omega⟩
    obtain ⟨bytes, isDigitByte, value⟩ := digit_byte (digits ch List.mem_cons_self)
    have nextSmall : Nat.ofDigitChars 10 ds (10 * sig + (ch.toNat - 48)) < 2 ^ 32 := by
      rwa [Nat.ofDigitChars_cons] at small
    have kept : sig < 2 ^ 32 := by
      have := ofDigitChars_le ds (10 * sig + (ch.toNat - 48))
      omega
    have noOverflow : overflows sig (ch.toNat - 48) = false := by
      simp [overflows, maxU64]
      omega
    have later := ih (fun ch' member => digits ch' (List.mem_cons_of_mem ch member))
      (show ds.length ≤ fuel by simp at enough; omega) nextSmall
    unfold integer.go
    rw [List.flatMap_cons, bytes]
    refine Reads.bind_nil (Reads.peek _ rfl) ?_
    simp only [isDigitByte, Bool.not_true, value, noOverflow, Bool.false_eq_true, if_false]
    rw [Nat.ofDigitChars_cons]
    exact Reads.bind (Reads.eat _ _) later rfl

theorem Reads.numberTail_unsigned (sig : Nat)
    (stop : ∀ b ∈ rest.head?, b ≠ 0x2e ∧ b ≠ 0x65 ∧ b ≠ 0x45) :
    Reads (numberTail false sig) [] (.unsigned sig) rest := by
  unfold numberTail
  cases rest with
  | nil => exact Reads.bind_nil (Reads.peek_end rfl) (Reads.pure _ [])
  | cons b more =>
    obtain ⟨notPoint, notSmallE, notCapitalE⟩ := stop b rfl
    refine Reads.bind_nil (Reads.peek b rfl) ?_
    split
    · rename_i same
      cases same
      exact absurd rfl notPoint
    · rename_i same
      cases same
      exact absurd rfl notSmallE
    · rename_i same
      cases same
      exact absurd rfl notCapitalE
    · exact Reads.pure _ _

theorem digit_not_blank {c : UInt8} (digit : isDigit c = true) : isBlank c = false ∧ c ≠ 0x2d := by
  simp only [isDigit, Bool.and_eq_true, decide_eq_true_eq, UInt8.le_iff_toNat_le] at digit
  have low := digit.1
  have high := digit.2
  simp only [UInt8.reduceToNat] at low high
  constructor
  · simp only [isBlank, Bool.or_eq_false_iff, beq_eq_false_iff_ne, ne_eq, ← UInt8.toNat_inj,
      UInt8.reduceToNat]
    omega
  · rw [ne_eq, ← UInt8.toNat_inj]
    simp only [UInt8.reduceToNat]
    omega

theorem length_le_utf8 (cs : List Char) : cs.length ≤ (cs.flatMap String.utf8EncodeChar).length := by
  induction cs with
  | nil => simp
  | cons c cs ih =>
    have wide : 1 ≤ (String.utf8EncodeChar c).length :=
      List.length_pos_iff.mpr String.utf8EncodeChar_ne_nil
    simp only [List.flatMap_cons, List.length_append, List.length_cons]
    omega

theorem Reads.integer_decimal {n : Nat} (small : n < 2 ^ 32)
    (stop : ∀ b ∈ rest.head?, isDigit b = false ∧ b ≠ 0x2e ∧ b ≠ 0x65 ∧ b ≠ 0x45) :
    Reads (integer false) (toString n).toUTF8.toList (.unsigned n) rest := by
  have tail := fun sig => Reads.numberTail_unsigned sig fun b next => (stop b next).2
  rw [toUTF8_toList, Nat.toString_eq_ofList_toDigits, String.toList_ofList]
  by_cases zero : n = 0
  · -- zero is the one number written with a leading zero
    subst zero
    have written : (Nat.toDigits 10 0).flatMap String.utf8EncodeChar = [0x30] := by
      rw [Nat.toDigits_zero]
      decide
    rw [written]
    unfold integer
    refine Reads.bind_nil (Reads.peek 0x30 rfl) (Reads.bind (Reads.eat 0x30 _) ?_ rfl)
    cases rest with
    | nil => exact Reads.bind_nil (Reads.peek_end rfl) (tail 0)
    | cons b more =>
      refine Reads.bind_nil (Reads.peek b rfl) ?_
      simpa only [(stop b rfl).1, Bool.false_eq_true, if_false] using tail 0
  · obtain ⟨ch, ds, digits, leading⟩ := toDigits_head_ne_zero (Nat.pos_of_ne_zero zero)
    have allDigits : ∀ ch' ∈ ch :: ds, ch'.isDigit := fun ch' member =>
      Nat.isDigit_of_mem_toDigits (by decide) (by decide) (digits ▸ member)
    have bounds := digit_bounds (allDigits ch List.mem_cons_self)
    obtain ⟨bytes, isDigitByte, value⟩ := digit_byte (allDigits ch List.mem_cons_self)
    have notZero : (UInt8.ofNat ch.toNat == 0x30) = false := by
      rw [beq_eq_false_iff_ne]
      intro same
      have code := congrArg UInt8.toNat same
      rw [UInt8.toNat_ofNat_of_lt' (show ch.toNat < UInt8.size by change ch.toNat < 256; omega)] at code
      exact leading (Char.toNat_inj.mp code)
    have whole : Nat.ofDigitChars 10 ds (ch.toNat - 48) = n := by
      have := (Nat.ofDigitChars_ten_toDigits : Nat.ofDigitChars 10 (Nat.toDigits 10 n) 0 = n)
      rwa [digits, Nat.ofDigitChars_cons, Nat.mul_zero, Nat.zero_add] at this
    rw [digits, List.flatMap_cons, bytes]
    unfold integer
    refine Reads.bind_nil (Reads.peek _ rfl) (Reads.bind (Reads.eat _ _) ?_ rfl)
    simp only [notZero, isDigitByte, value, Bool.false_eq_true, if_false, if_true]
    refine Reads.size_bind fun fuel enough => ?_
    have fewer := length_le_utf8 ds
    refine Reads.bind_end (Reads.integer_go ds (fun ch' member => allDigits ch' (List.mem_cons_of_mem ch member))
      (by omega) (by rw [whole]; exact small) (fun b next => (stop b next).1)) ?_
    rw [whole]
    exact tail n

theorem Reads.readU32 {n : Nat} (small : n < 2 ^ 32)
    (stop : ∀ b ∈ rest.head?, isDigit b = false ∧ b ≠ 0x2e ∧ b ≠ 0x65 ∧ b ≠ 0x45) :
    Reads JsonText.readU32 (render (nat n)).toUTF8.toList n rest := by
  have number := Reads.integer_decimal small stop
  obtain ⟨ch, ds, digits⟩ : ∃ ch ds, Nat.toDigits 10 n = ch :: ds :=
    List.exists_cons_of_ne_nil Nat.toDigits_ne_nil
  have isDigitChar : ch.isDigit :=
    Nat.isDigit_of_mem_toDigits (by decide) (by decide) (digits ▸ List.mem_cons_self)
  obtain ⟨bytes, isDigitByte, -⟩ := digit_byte isDigitChar
  obtain ⟨solid, notMinus⟩ := digit_not_blank isDigitByte
  have first : ((toString n).toUTF8.toList ++ rest).head? = some (UInt8.ofNat ch.toNat) := by
    rw [toUTF8_toList, Nat.toString_eq_ofList_toDigits, String.toList_ofList, digits,
      List.flatMap_cons, bytes]
    rfl
  rw [render_nat]
  unfold JsonText.readU32 readNumber
  apply Reads.placed
  refine Reads.bind_nil (Reads.skipBlanks _ first solid) ?_
  -- the first byte is a digit, so the number is read as an unsigned one and checked
  split
  · rename_i same
    cases same
  · rename_i same
    exact absurd (Option.some.inj same) notMinus
  · rename_i c _ same
    cases same
    simp only [isDigitByte, if_true]
    refine Reads.bind_end number ?_
    have fits : n < 4294967296 := small
    simpa only [ofChecked, u32Of, fits, if_true] using Reads.pure n rest

end Numbers

end SubmarineSwap.JsonText
