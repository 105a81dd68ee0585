import Mathlib
import SubmarineSwap.Proofs.Json.Text

namespace SubmarineSwap.JsonText

variable {α β : Type}

def Blank (b : UInt8) : Prop := b = 0x20 ∨ b = 0x0a ∨ b = 0x09 ∨ b = 0x0d

def HexQuad (ds : Bytes) (n : Nat) : Prop :=
  ∃ v₁ v₂ v₃ v₄, ds.map hexDigitValue = [some v₁, some v₂, some v₃, some v₄] ∧
    n = ((v₁ * 16 + v₂) * 16 + v₃) * 16 + v₄

/-- What a `\u` escape writes after its `u`: the digits of a code outside the surrogates, or
those of a leading surrogate, a second `\u` and those of a trailing one, joined into one code. -/
inductive UnicodeEscape : Bytes → Nat → Prop
  | single {ds : Bytes} {n : Nat} : HexQuad ds n → n < 0xd800 ∨ 0xdfff < n → UnicodeEscape ds n
  | pair {ds ds' : Bytes} {hi lo : Nat} : HexQuad ds hi → HexQuad ds' lo →
      0xd800 ≤ hi → hi ≤ 0xdbff → 0xdc00 ≤ lo → lo ≤ 0xdfff →
      UnicodeEscape (ds ++ 0x5c :: 0x75 :: ds') ((hi - 0xd800) * 0x400 + (lo - 0xdc00) + 0x10000)

inductive Escape : Bytes → Bytes → Prop
  | letter {e : UInt8} {out : Bytes} : (e, out) ∈ escapeLetters → Escape [e] out
  | unicode {ds : Bytes} {n : Nat} : UnicodeEscape ds n →
      Escape (0x75 :: ds) (String.utf8EncodeChar (Char.ofNat n))

inductive Piece : Bytes → Bytes → Prop
  | plain {b : UInt8} : 0x20 ≤ b.toNat → b ≠ 0x22 → b ≠ 0x5c → Piece [b] [b]
  | escaped {w out : Bytes} : Escape w out → Piece (0x5c :: w) out

inductive Body : Bytes → Bytes → Prop
  | nil : Body [] []
  | cons {w out ws outs : Bytes} : Piece w out → Body ws outs → Body (w ++ ws) (out ++ outs)

/-- The bytes `lit` are a JSON string literal of the text `s`. -/
def StringLiteral (lit : Bytes) (s : String) : Prop :=
  ∃ body, lit = 0x22 :: (body ++ [0x22]) ∧ Body body s.toUTF8.toList

theorem isBlank_iff (b : UInt8) : isBlank b = true ↔ Blank b := by
  simp [isBlank, Blank, or_assoc]

theorem utf8_eq (n : Nat) : utf8 n = String.utf8EncodeChar (Char.ofNat n) := by
  rw [utf8, toUTF8_toList, Char.toString_eq_singleton, String.toList_singleton, List.flatMap_singleton]

theorem hexQuad_iff {ds : Bytes} {n : Nat} : HexQuad ds n ↔
    ds.length = 4 ∧ ds.foldlM (fun n c => (16 * n + ·) <$> hexDigitValue c) 0 = some n := by
  constructor
  · rintro ⟨v₁, v₂, v₃, v₄, digits, rfl⟩
    have four : ds.length = 4 := by simpa using congrArg List.length digits
    match ds, four, digits with
    | [d₁, d₂, d₃, d₄], _, digits =>
      simp only [List.map_cons, List.map_nil, List.cons.injEq] at digits
      obtain ⟨h₁, h₂, h₃, h₄, -⟩ := digits
      simp only [List.length_cons, List.length_nil, List.foldlM_cons, List.foldlM_nil, h₁, h₂, h₃,
        h₄, Option.map_eq_map, Option.map_some, Option.bind_eq_bind, Option.bind_some,
        Option.pure_def, Option.some.injEq, true_and]
      ring
  · rintro ⟨four, folded⟩
    match ds, four with
    | [d₁, d₂, d₃, d₄], _ =>
      simp only [List.foldlM_cons, List.foldlM_nil, Option.map_eq_map, Option.bind_eq_bind,
        Option.pure_def, Option.bind_eq_some_iff, Option.map_eq_some_iff] at folded
      obtain ⟨_, ⟨v₁, h₁, rfl⟩, _, ⟨v₂, h₂, rfl⟩, _, ⟨v₃, h₃, rfl⟩, _, ⟨v₄, h₄, rfl⟩, total⟩ := folded
      exact ⟨v₁, v₂, v₃, v₄, by simp [h₁, h₂, h₃, h₄], by rw [← Option.some.inj total]; ring⟩

section Runs

variable {input : Array UInt8} {i j : Nat}

theorem run_bind_of_error {x : Reader α} {f : α → Reader β} {e : ReadError} {k : Nat}
    (ran : x input i = .error e k) : (x >>= f) input i = .error e k := by
  simp only [bind, ReaderT.bind, EStateM.bind, ran]

theorem ok_of_bind {x : Reader α} {f : α → Reader β} {b : β} (ran : (x >>= f) input i = .ok b j) :
    ∃ a k, x input i = .ok a k ∧ f a input k = .ok b j := by
  cases first : x input i with
  | ok a k => exact ⟨a, k, rfl, by rwa [run_bind_of_ok first] at ran⟩
  | error e k =>
    rw [run_bind_of_error first] at ran
    cases ran

theorem peek_run : peek input i = .ok input[i]? i := rfl

theorem eat_run : eat input i = .ok () (i + 1) := rfl

theorem fail_ne_ok (msg : String) (a : α) : fail msg input i ≠ .ok a j := by
  intro ran
  cases ran

theorem failAhead_ne_ok (msg : String) (a : α) : failAhead msg input i ≠ .ok a j := by
  intro ran
  cases ran

theorem custom_ne_ok (msg : String) (a : α) : custom msg input i ≠ .ok a j := by
  intro ran
  cases ran

theorem refuse_ne_ok (expected : String) (a : α) : refuse expected input i ≠ .ok a j := by
  intro ran
  unfold refuse at ran
  obtain ⟨_, _, -, refused⟩ := ok_of_bind ran
  exact custom_ne_ok _ _ refused

theorem attempt_of_error {x : Reader α} {e : ReadError} {k : Nat} (ran : x input i = .error e k) :
    attempt x input i = .ok (.error e) k := by
  change EStateM.tryCatch (fun s => EStateM.map Except.ok (x input) s) (fun e => pure (.error e)) i = _
  simp only [EStateM.tryCatch, EStateM.map, ran]
  rfl

theorem ok_of_placed {x : Reader α} {a : α} (ran : placed x input i = .ok a j) : x input i = .ok a j := by
  unfold placed at ran
  cases first : x input i with
  | ok b k =>
    rw [run_bind_of_ok (attempt_of_ok first)] at ran
    cases ran
    rfl
  | error e k =>
    rw [run_bind_of_ok (attempt_of_error first)] at ran
    -- either way the error is raised again
    dsimp only at ran
    split at ran <;> cases ran

theorem ok_of_ofChecked {r : Except String α} {a : α} (ran : ofChecked r input i = .ok a j) :
    r = .ok a ∧ j = i := by
  cases r with
  | ok b =>
    cases ran
    exact ⟨rfl, rfl⟩
  | error m => exact absurd ran (custom_ne_ok m a)

theorem drop_eq_cons_of_getElem? {c : UInt8} (found : input[i]? = some c) :
    input.toList.drop i = c :: input.toList.drop (i + 1) := by
  rw [← Array.getElem?_toList, List.getElem?_eq_some_iff] at found
  obtain ⟨lt, rfl⟩ := found
  exact List.drop_eq_getElem_cons lt

theorem drop_eq_nil_of_getElem? (missing : input[i]? = none) : input.toList.drop i = [] := by
  rw [← Array.getElem?_toList, List.getElem?_eq_none_iff] at missing
  exact List.drop_eq_nil_of_le missing

end Runs

section Soundness

variable {input : Array UInt8}

theorem skipBlanks_go_sound : ∀ {fuel i j : Nat} {next : Option UInt8},
    skipBlanks.go fuel input i = .ok next j →
      ∃ blanks, input.toList.drop i = blanks ++ input.toList.drop j ∧ (∀ b ∈ blanks, Blank b) ∧
        next = input[j]?
  | 0, i, j, next, ran => by
    rw [skipBlanks.go, peek_run] at ran
    cases ran
    exact ⟨[], rfl, by simp, rfl⟩
  | fuel + 1, i, j, next, ran => by
    rw [skipBlanks.go, run_bind_of_ok peek_run] at ran
    cases found : input[i]? with
    | none =>
      rw [found] at ran
      cases ran
      exact ⟨[], rfl, by simp, found.symm⟩
    | some c =>
      rw [found] at ran
      dsimp only at ran
      by_cases blank : isBlank c = true
      · rw [if_pos blank, run_bind_of_ok eat_run] at ran
        obtain ⟨blanks, rest, all, shown⟩ := skipBlanks_go_sound ran
        refine ⟨c :: blanks, by rw [drop_eq_cons_of_getElem? found, rest]; rfl, ?_, shown⟩
        simpa [(isBlank_iff c).mp blank] using all
      · rw [if_neg blank] at ran
        cases ran
        exact ⟨[], rfl, by simp, found.symm⟩

theorem skipBlanks_sound {i j : Nat} {next : Option UInt8} (ran : skipBlanks input i = .ok next j) :
    ∃ blanks, input.toList.drop i = blanks ++ input.toList.drop j ∧ (∀ b ∈ blanks, Blank b) ∧
      next = input[j]? := by
  rw [skipBlanks, run_bind_of_ok (show size input i = .ok input.size i from rfl)] at ran
  exact skipBlanks_go_sound ran

theorem nextOrEof_sound {i j : Nat} {c : UInt8} (ran : nextOrEof input i = .ok c j) :
    input.toList.drop i = c :: input.toList.drop j := by
  rw [nextOrEof, run_bind_of_ok peek_run] at ran
  cases found : input[i]? with
  | none =>
    rw [found] at ran
    exact absurd ran (fail_ne_ok _ _)
  | some d =>
    rw [found] at ran
    dsimp only at ran
    rw [run_bind_of_ok eat_run] at ran
    cases ran
    exact drop_eq_cons_of_getElem? found

theorem peekOrEof_sound {i j : Nat} {c : UInt8} (ran : peekOrEof input i = .ok c j) :
    j = i ∧ input.toList.drop i = c :: input.toList.drop (i + 1) := by
  rw [peekOrEof, run_bind_of_ok peek_run] at ran
  cases found : input[i]? with
  | none =>
    rw [found] at ran
    exact absurd ran (fail_ne_ok _ _)
  | some d =>
    rw [found] at ran
    cases ran
    exact ⟨rfl, drop_eq_cons_of_getElem? found⟩

theorem hexEscape_sound {i j n : Nat} (ran : hexEscape input i = .ok n j) :
    ∃ ds, input.toList.drop i = ds ++ input.toList.drop j ∧ HexQuad ds n := by
  unfold hexEscape at ran
  rw [run_bind_of_ok (show (get : Reader Nat) input i = .ok i i from rfl),
    run_bind_of_ok (show size input i = .ok input.size i from rfl)] at ran
  dsimp only at ran
  by_cases short : i + 4 > input.size
  · rw [if_pos short] at ran
    obtain ⟨_, _, -, ran⟩ := ok_of_bind ran
    obtain ⟨_, _, -, ran⟩ := ok_of_bind ran
    obtain ⟨_, _, failed, -⟩ := ok_of_bind ran
    exact absurd failed (fail_ne_ok _ _)
  · rw [if_neg short, run_bind_of_ok (show (read : Reader (Array UInt8)) input i = .ok input i from rfl),
      run_bind_of_ok (show (set (i + 4) : Reader Unit) input i = .ok () (i + 4) from rfl)] at ran
    have taken : (input.extract i (i + 4)).toList = (input.toList.drop i).take 4 := by
      rw [Array.toList_extract, List.extract_eq_take_drop, Nat.add_sub_cancel_left]
    cases folded : ((input.extract i (i + 4)).toList.foldlM
        (fun n c => (16 * n + ·) <$> hexDigitValue c) 0) with
    | none =>
      rw [folded] at ran
      exact absurd ran (fail_ne_ok _ _)
    | some m =>
      rw [folded] at ran
      cases ran
      refine ⟨(input.toList.drop i).take 4, ?_, hexQuad_iff.mpr ⟨?_, by rwa [← taken]⟩⟩
      · rw [← List.drop_drop, List.take_append_drop]
      · simp only [List.length_take, List.length_drop, Array.length_toList]
        omega

theorem unicodeEscape_sound {i j n : Nat} (ran : unicodeEscape input i = .ok n j) :
    ∃ w, input.toList.drop i = w ++ input.toList.drop j ∧ UnicodeEscape w n := by
  unfold unicodeEscape at ran
  obtain ⟨hi, k, first, ran⟩ := ok_of_bind ran
  obtain ⟨ds, ahead, quad⟩ := hexEscape_sound first
  by_cases trailing : 0xdc00 ≤ hi ∧ hi ≤ 0xdfff
  · rw [if_pos trailing] at ran
    exact absurd ran (fail_ne_ok _ _)
  rw [if_neg trailing] at ran
  by_cases single : hi < 0xd800 ∨ hi > 0xdbff
  · rw [if_pos single] at ran
    cases ran
    exact ⟨ds, ahead, .single quad (by omega)⟩
  rw [if_neg single] at ran
  -- the join points of the two checks are inlined into their branches
  simp only at ran
  obtain ⟨c, k', peeked, afterPeek⟩ := ok_of_bind ran
  obtain ⟨rfl, backslash⟩ := peekOrEof_sound peeked
  by_cases notBackslash : (c != 0x5c) = true
  · rw [if_pos notBackslash] at afterPeek
    obtain ⟨_, _, -, failing⟩ := ok_of_bind afterPeek
    obtain ⟨_, _, failed, -⟩ := ok_of_bind failing
    exact absurd failed (fail_ne_ok _ _)
  rw [if_neg notBackslash, run_bind_of_ok eat_run] at afterPeek
  obtain ⟨u, k'', peekedU, afterU⟩ := ok_of_bind afterPeek
  obtain ⟨rfl, letterU⟩ := peekOrEof_sound peekedU
  by_cases notU : (u != 0x75) = true
  · rw [if_pos notU] at afterU
    obtain ⟨_, _, -, failing⟩ := ok_of_bind afterU
    obtain ⟨_, _, failed, -⟩ := ok_of_bind failing
    exact absurd failed (fail_ne_ok _ _)
  rw [if_neg notU, run_bind_of_ok eat_run] at afterU
  obtain ⟨lo, _, second, afterLo⟩ := ok_of_bind afterU
  obtain ⟨ds', ahead', quad'⟩ := hexEscape_sound second
  by_cases lone : lo < 0xdc00 ∨ lo > 0xdfff
  · rw [if_pos lone] at afterLo
    obtain ⟨_, _, failed, -⟩ := ok_of_bind afterLo
    exact absurd failed (fail_ne_ok _ _)
  rw [if_neg lone] at afterLo
  cases afterLo
  have isBackslash : c = 0x5c := by simpa using notBackslash
  have isU : u = 0x75 := by simpa using notU
  refine ⟨ds ++ 0x5c :: 0x75 :: ds', ?_, .pair quad quad' (by omega) (by omega) (by omega) (by omega)⟩
  rw [ahead, backslash, letterU, ahead', ← isBackslash, ← isU]
  simp

theorem ok_of_map {x : Reader α} {f : α → β} {i j : Nat} {b : β} (ran : (f <$> x) input i = .ok b j) :
    ∃ a, x input i = .ok a j ∧ b = f a := by
  cases first : x input i with
  | ok a k =>
    rw [run_map_of_ok f first] at ran
    cases ran
    exact ⟨a, rfl, rfl⟩
  | error e k =>
    change EStateM.map f (x input) i = _ at ran
    simp only [EStateM.map, first] at ran
    cases ran

theorem escape_sound {i j : Nat} {out : Bytes} (ran : escape input i = .ok out j) :
    ∃ w, input.toList.drop i = w ++ input.toList.drop j ∧ Escape w out := by
  unfold escape at ran
  obtain ⟨c, k, next, chosen⟩ := ok_of_bind ran
  have ahead := nextOrEof_sound next
  split at chosen
  -- the eight letters stand for one byte each
  iterate 8
    · cases chosen
      exact ⟨[_], ahead, .letter (by decide)⟩
  · obtain ⟨n, coded, rfl⟩ := ok_of_map chosen
    obtain ⟨w, ahead', unicode⟩ := unicodeEscape_sound coded
    refine ⟨0x75 :: w, by rw [ahead, ahead']; rfl, ?_⟩
    rw [utf8_eq]
    exact .unicode unicode
  · exact absurd chosen (fail_ne_ok _ _)

theorem stringBody_go_sound : ∀ {fuel : Nat} {acc bytes : Bytes} {i j : Nat},
    stringBody.go fuel acc input i = .ok bytes j →
      ∃ body out, input.toList.drop i = body ++ 0x22 :: input.toList.drop j ∧ Body body out ∧
        bytes = acc.reverse ++ out
  | 0, acc, bytes, i, j, ran => by
    rw [stringBody.go] at ran
    exact absurd ran (fail_ne_ok _ _)
  | fuel + 1, acc, bytes, i, j, ran => by
    rw [stringBody.go, run_bind_of_ok peek_run] at ran
    cases found : input[i]? with
    | none =>
      rw [found] at ran
      exact absurd ran (fail_ne_ok _ _)
    | some c =>
      have ahead := drop_eq_cons_of_getElem? found
      by_cases quote : c = 0x22
      · -- the closing quote ends the body
        subst quote
        simp only [found] at ran
        rw [run_bind_of_ok eat_run] at ran
        cases ran
        exact ⟨[], [], ahead, .nil, by simp⟩
      by_cases backslash : c = 0x5c
      · subst backslash
        simp only [found] at ran
        rw [run_bind_of_ok eat_run] at ran
        obtain ⟨e, k, escaped, rest⟩ := ok_of_bind ran
        obtain ⟨w, ahead', escape⟩ := escape_sound escaped
        obtain ⟨body, out, ahead'', built, rfl⟩ := stringBody_go_sound rest
        refine ⟨0x5c :: w ++ body, e ++ out, ?_, .cons (.escaped escape) built, by simp⟩
        rw [ahead, ahead', ahead'']
        simp
      simp only [found] at ran
      rw [run_bind_of_ok eat_run] at ran
      by_cases control : c < 0x20
      · rw [if_pos control] at ran
        exact absurd ran (fail_ne_ok _ _)
      rw [if_neg control] at ran
      obtain ⟨body, out, ahead', built, rfl⟩ := stringBody_go_sound ran
      have printable : 0x20 ≤ c.toNat := by
        rw [UInt8.lt_iff_toNat_lt] at control
        simpa using control
      refine ⟨[c] ++ body, [c] ++ out, ?_, .cons (.plain printable quote backslash) built, by simp⟩
      rw [ahead, ahead']
      rfl

theorem toUTF8_of_fromUTF8? {bs : Bytes} {s : String}
    (decoded : String.fromUTF8? (ByteArray.mk bs.toArray) = some s) : s.toUTF8.toList = bs := by
  unfold String.fromUTF8? at decoded
  split at decoded
  · cases decoded
    change (ByteArray.mk bs.toArray).toList = bs
    simp [byteArray_toList]
  · cases decoded

theorem stringBody_sound {i j : Nat} {s : String} (ran : stringBody input i = .ok s j) :
    ∃ body, input.toList.drop i = body ++ 0x22 :: input.toList.drop j ∧ Body body s.toUTF8.toList := by
  rw [stringBody, run_bind_of_ok (show size input i = .ok input.size i from rfl)] at ran
  obtain ⟨bytes, k, collected, decoding⟩ := ok_of_bind ran
  obtain ⟨body, out, ahead, built, same⟩ := stringBody_go_sound collected
  rw [List.reverse_nil, List.nil_append] at same
  rw [same] at decoding
  cases decoded : String.fromUTF8? (ByteArray.mk out.toArray) with
  | none =>
    rw [decoded] at decoding
    exact absurd decoding (fail_ne_ok _ _)
  | some t =>
    rw [decoded] at decoding
    cases decoding
    exact ⟨body, ahead, (toUTF8_of_fromUTF8? decoded).symm ▸ built⟩

theorem readStr_sound {expected : String} {check : String → Except String α} {a : α} {i j : Nat}
    (ran : readStr expected check input i = .ok a j) :
    ∃ blanks lit s, input.toList.drop i = blanks ++ lit ++ input.toList.drop j ∧
      (∀ b ∈ blanks, Blank b) ∧ StringLiteral lit s ∧ check s = .ok a := by
  rw [readStr] at ran
  obtain ⟨next, k, skipped, chosen⟩ := ok_of_bind (ok_of_placed ran)
  obtain ⟨blanks, ahead, all, shown⟩ := skipBlanks_sound skipped
  cases next with
  | none => exact absurd chosen (failAhead_ne_ok _ _)
  | some c =>
    by_cases quote : c = 0x22
    · subst quote
      simp only at chosen
      rw [run_bind_of_ok eat_run] at chosen
      obtain ⟨s, k', read, checking⟩ := ok_of_bind chosen
      obtain ⟨checked, rfl⟩ := ok_of_ofChecked checking
      obtain ⟨body, ahead', built⟩ := stringBody_sound read
      refine ⟨blanks, 0x22 :: (body ++ [0x22]), s, ?_, all, ⟨body, rfl, built⟩, checked⟩
      rw [ahead, drop_eq_cons_of_getElem? shown.symm, ahead']
      simp
    · -- any other value is refused
      simp only at chosen
      exact absurd chosen (refuse_ne_ok _ _)

theorem endOfInput_sound {i j : Nat} (ran : endOfInput input i = .ok () j) :
    ∀ b ∈ input.toList.drop i, Blank b := by
  rw [endOfInput] at ran
  obtain ⟨next, k, skipped, ended⟩ := ok_of_bind ran
  obtain ⟨blanks, ahead, all, shown⟩ := skipBlanks_sound skipped
  cases next with
  | some c => exact absurd ended (failAhead_ne_ok _ _)
  | none =>
    rw [ahead, drop_eq_nil_of_getElem? shown.symm, List.append_nil]
    exact all

end Soundness

theorem decodeBytes_eq_ok_iff {x : Reader α} {bs : Bytes} {a : α} :
    decodeBytes x bs = .ok a ↔ ∃ j k, x bs.toArray 0 = .ok a j ∧ endOfInput bs.toArray j = .ok () k := by
  unfold decodeBytes runReader
  simp only [ReaderT.run, EStateM.run]
  constructor
  · intro decoded
    split at decoded
    · rename_i a' k whole
      cases decoded
      unfold readAll at whole
      obtain ⟨b, j, read, rest⟩ := ok_of_bind whole
      obtain ⟨_, k', ended, returned⟩ := ok_of_bind rest
      cases returned
      exact ⟨j, _, read, ended⟩
    · cases decoded
  · rintro ⟨j, k, read, ended⟩
    unfold readAll
    rw [run_bind_of_ok read, run_bind_of_ok ended]
    rfl

theorem decodeBytes_sound {x : Reader α} {bs : Bytes} {a : α} (decoded : decodeBytes x bs = .ok a) :
    ∃ j, x bs.toArray 0 = .ok a j ∧ ∀ b ∈ bs.drop j, Blank b := by
  obtain ⟨j, _, read, ended⟩ := decodeBytes_eq_ok_iff.mp decoded
  exact ⟨j, read, by simpa using endOfInput_sound ended⟩

theorem decodeBytes_bind_ofChecked {x : Reader β} {g : β → Except String α} {bs : Bytes} {a : α} :
    decodeBytes (x >>= fun v => ofChecked (g v)) bs = .ok a ↔
      ∃ v, decodeBytes x bs = .ok v ∧ g v = .ok a := by
  rw [decodeBytes_eq_ok_iff]
  constructor
  · rintro ⟨j, k, read, ended⟩
    obtain ⟨v, j', value, checking⟩ := ok_of_bind read
    obtain ⟨checked, rfl⟩ := ok_of_ofChecked checking
    exact ⟨v, decodeBytes_eq_ok_iff.mpr ⟨j, k, value, ended⟩, checked⟩
  · rintro ⟨v, decoded, checked⟩
    obtain ⟨j, k, value, ended⟩ := decodeBytes_eq_ok_iff.mp decoded
    refine ⟨j, k, ?_, ended⟩
    rw [run_bind_of_ok value, checked]
    rfl

section Completeness

variable {rest : Bytes}

theorem Reads.peekOrEof (c : UInt8) (next : rest.head? = some c) : Reads JsonText.peekOrEof [] c rest := by
  unfold JsonText.peekOrEof
  exact Reads.bind_nil (Reads.peek c next) (Reads.pure c rest)

theorem Reads.hexEscape_of_quad {ds : Bytes} {n : Nat} (quad : HexQuad ds n) :
    Reads JsonText.hexEscape ds n rest := by
  obtain ⟨four, folded⟩ := hexQuad_iff.mp quad
  match ds, four, folded with
  | [_, _, _, _], _, folded => exact Reads.hexEscape folded

theorem Reads.unicodeEscape_of {ds : Bytes} {n : Nat} (coded : UnicodeEscape ds n) :
    Reads unicodeEscape ds n rest := by
  unfold unicodeEscape
  cases coded with
  | single quad outside =>
    refine Reads.bind (Reads.hexEscape_of_quad quad) ?_ (List.append_nil _)
    have notTrailing : ¬(0xdc00 ≤ n ∧ n ≤ 0xdfff) := by omega
    have notLeading : n < 0xd800 ∨ n > 0xdbff := by omega
    simp only [notTrailing, notLeading, if_false, if_true]
    exact Reads.pure n rest
  | @pair ds ds' hi lo quad quad' leading leading' trailing trailing' =>
    refine Reads.bind (Reads.hexEscape_of_quad quad) ?_ rfl
    have notTrailing : ¬(0xdc00 ≤ hi ∧ hi ≤ 0xdfff) := by omega
    have notSingle : ¬(hi < 0xd800 ∨ hi > 0xdbff) := by omega
    simp only [notTrailing, notSingle, if_false]
    -- the second half: a backslash, a `u` and the trailing surrogate's digits
    refine Reads.bind_nil (Reads.peekOrEof 0x5c rfl) ?_
    refine Reads.bind (Reads.eat 0x5c _) ?_ rfl
    refine Reads.bind_nil (Reads.peekOrEof 0x75 rfl) ?_
    refine Reads.bind (Reads.eat 0x75 _) ?_ rfl
    refine Reads.bind (Reads.hexEscape_of_quad quad') ?_ (List.append_nil _)
    have within : ¬(lo < 0xdc00 ∨ lo > 0xdfff) := by omega
    simp only [within, if_false]
    exact Reads.pure _ rest

theorem Reads.escape_of {w out : Bytes} (escaped : Escape w out) : Reads escape w out rest := by
  cases escaped with
  | letter listed => exact Reads.escape_letter listed
  | unicode coded =>
    unfold escape
    rw [← utf8_eq]
    exact Reads.bind (Reads.nextOrEof 0x75 _) (Reads.map utf8 (Reads.unicodeEscape_of coded)) rfl

theorem Reads.stringBody_go_of_body {body out : Bytes} (built : Body body out) :
    ∀ (fuel : Nat) (acc : Bytes), body.length < fuel →
      Reads (stringBody.go fuel acc) (body ++ [0x22]) (acc.reverse ++ out) rest := by
  induction built with
  | nil =>
    intro fuel acc enough
    obtain ⟨fuel, rfl⟩ : ∃ f, fuel = f + 1 := ⟨fuel - 1, by simp at enough; omega⟩
    rw [List.nil_append, List.append_nil]
    unfold stringBody.go
    refine Reads.bind_nil (Reads.peek 0x22 rfl) ?_
    exact Reads.bind (Reads.eat 0x22 _) (Reads.pure acc.reverse rest) rfl
  | @cons w out ws outs piece _ ih =>
    intro fuel acc enough
    obtain ⟨fuel, rfl⟩ : ∃ f, fuel = f + 1 := ⟨fuel - 1, by simp at enough; omega⟩
    cases piece with
    | @plain b printable notQuote notBackslash =>
      have next := ih fuel (b :: acc) (by simp at enough; omega)
      rw [List.reverse_cons, List.append_assoc] at next
      have plain : ∀ x ∈ [b], 0x20 ≤ x.toNat ∧ x ≠ 0x22 ∧ x ≠ 0x5c := by
        simpa using ⟨printable, notQuote, notBackslash⟩
      simpa using Reads.stringBody_go_plain plain next
    | escaped escape =>
      have next := ih fuel (out.reverse ++ acc) (by simp at enough; omega)
      rw [List.reverse_append, List.reverse_reverse, List.append_assoc] at next
      simpa using Reads.stringBody_go_escape (Reads.escape_of escape) next

theorem Reads.stringBody_of_body {body : Bytes} {s : String} (built : Body body s.toUTF8.toList)
    (rest : Bytes) : Reads JsonText.stringBody (body ++ [0x22]) s rest := by
  unfold JsonText.stringBody
  refine Reads.size_bind fun n enough => ?_
  refine Reads.bind (Reads.stringBody_go_of_body built n [] (by simp at enough; omega)) ?_
    (List.append_nil _)
  have decoded : String.fromUTF8? (ByteArray.mk s.toUTF8.toList.toArray) = some s := by
    rw [toUTF8_toList]
    exact fromUTF8?_encoded s
  simp only [List.reverse_nil, List.nil_append, decoded]
  exact Reads.pure s rest

theorem Reads.skipBlanks_go_end (last : rest = []) (fuel : Nat) :
    Reads (skipBlanks.go fuel) [] none rest := by
  cases fuel with
  | zero => exact Reads.peek_end last
  | succ fuel =>
    unfold skipBlanks.go
    exact Reads.bind_nil (Reads.peek_end last) (Reads.pure none rest)

theorem Reads.skipBlanks_go_blanks {blanks : Bytes} {shown : Option UInt8}
    (all : ∀ b ∈ blanks, Blank b) (after : ∀ fuel, Reads (skipBlanks.go fuel) [] shown rest) :
    ∀ fuel, blanks.length ≤ fuel → Reads (skipBlanks.go fuel) blanks shown rest := by
  induction blanks with
  | nil => exact fun fuel _ => after fuel
  | cons b blanks ih =>
    intro fuel enough
    obtain ⟨fuel, rfl⟩ : ∃ f, fuel = f + 1 := ⟨fuel - 1, by simp at enough; omega⟩
    have blank : isBlank b = true := (isBlank_iff b).mpr (all b List.mem_cons_self)
    unfold skipBlanks.go
    refine Reads.bind_nil (Reads.peek b rfl) ?_
    simp only [blank, if_true]
    exact Reads.bind (Reads.eat b _)
      (ih (fun b' member => all b' (List.mem_cons_of_mem _ member)) fuel (by simp at enough; omega)) rfl

theorem Reads.skipBlanks_blanks {blanks : Bytes} {shown : Option UInt8} (all : ∀ b ∈ blanks, Blank b)
    (after : ∀ fuel, Reads (skipBlanks.go fuel) [] shown rest) :
    Reads JsonText.skipBlanks blanks shown rest :=
  Reads.size_bind fun fuel enough => Reads.skipBlanks_go_blanks all after fuel (by omega)

theorem Reads.readStr_of_literal {expected : String} {check : String → Except String α}
    {blanks lit : Bytes} {s : String} {a : α} (all : ∀ b ∈ blanks, Blank b)
    (literal : StringLiteral lit s) (checked : check s = .ok a) (rest : Bytes) :
    Reads (JsonText.readStr expected check) (blanks ++ lit) a rest := by
  obtain ⟨body, rfl, built⟩ := literal
  unfold JsonText.readStr
  apply Reads.placed
  refine Reads.bind (Reads.skipBlanks_blanks all fun fuel => Reads.skipBlanks_go (c := 0x22) rfl
    (by decide) fuel) ?_ rfl
  refine Reads.bind (Reads.eat 0x22 _)
    (Reads.bind (Reads.stringBody_of_body built _) ?_ (List.append_nil _)) rfl
  simpa only [checked, ofChecked] using Reads.pure a rest

theorem Reads.endOfInput_blanks {blanks : Bytes} (all : ∀ b ∈ blanks, Blank b) :
    Reads JsonText.endOfInput blanks () [] := by
  unfold JsonText.endOfInput
  exact Reads.bind_end (Reads.skipBlanks_blanks all (Reads.skipBlanks_go_end rfl)) (Reads.pure () [])

end Completeness

theorem decodeBytes_of_reads_of_blanks {x : Reader α} {bs post : Bytes} {a : α} (read : Reads x bs a post)
    (trailing : ∀ b ∈ post, Blank b) : decodeBytes x (bs ++ post) = .ok a := by
  have whole : Reads (readAll x) (bs ++ post) a [] := by
    unfold readAll
    exact Reads.bind (by simpa using read)
      (Reads.bind (Reads.endOfInput_blanks trailing) (Reads.pure a []) (List.append_nil post)) rfl
  obtain ⟨j, ran, -⟩ := whole (bs ++ post).toArray 0 (by simp)
  simp only [decodeBytes, runReader, ReaderT.run, EStateM.run, ran]

theorem decodeBytes_readStr_eq_ok {expected : String} {check : String → Except String α}
    {bs : Bytes} {a : α} :
    decodeBytes (readStr expected check) bs = .ok a ↔
      ∃ pre lit post s, bs = pre ++ lit ++ post ∧ (∀ b ∈ pre, Blank b) ∧ StringLiteral lit s ∧
        (∀ b ∈ post, Blank b) ∧ check s = .ok a := by
  constructor
  · intro decoded
    obtain ⟨j, read, trailing⟩ := decodeBytes_sound decoded
    obtain ⟨pre, lit, s, ahead, blanks, literal, checked⟩ := readStr_sound read
    refine ⟨pre, lit, bs.drop j, s, ?_, blanks, literal, trailing, checked⟩
    simpa using ahead
  · rintro ⟨pre, lit, post, s, rfl, blanks, literal, trailing, checked⟩
    exact decodeBytes_of_reads_of_blanks (Reads.readStr_of_literal blanks literal checked post) trailing

end SubmarineSwap.JsonText
