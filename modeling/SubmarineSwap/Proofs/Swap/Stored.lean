import Mathlib
import SubmarineSwap.Swap.Stored
import SubmarineSwap.Proofs.Bytes
import SubmarineSwap.Proofs.Json.Text
import SubmarineSwap.Proofs.Script

namespace SubmarineSwap

open JsonText JsonValue Secp256k1

section HexText

theorem hexArray_toHex {bs : Bytes} {n : Nat} (sized : bs.length = n) :
    hexArray n (Bytes.toHex bs) = .ok bs := by
  simp [hexArray, Bytes.toHex_utf8ByteSize, sized, Bytes.ofHex?_toHex]

theorem Preimage.ofHexText_toHex (p : Preimage) :
    Preimage.ofHexText (Bytes.toHex p.bytes) = .ok p := by
  simp [Preimage.ofHexText, hexArray_toHex p.length_eq, p.length_eq, bind, Except.bind, pure,
    Except.pure]

theorem PaymentHash.ofHexText_toHex (h : PaymentHash) :
    PaymentHash.ofHexText (Bytes.toHex h.bytes) = .ok h := by
  simp [PaymentHash.ofHexText, hexArray_toHex h.length_eq, h.length_eq, bind, Except.bind, pure,
    Except.pure]

theorem Secp256k1.PublicKey.ofHexText_toHex (pk : PublicKey) :
    PublicKey.ofHexText (Bytes.toHex pk.serialize) = .ok pk := by
  simp [PublicKey.ofHexText, Bytes.toHex_utf8ByteSize, pk.serialize_length, Bytes.ofHex?_toHex,
    PublicKey.parse?_serialize pk]

end HexText

section Rendering

@[simp] theorem render_str (s : String) : render (str s) = quote s := rfl

theorem punctuation_bytes : "\x7b".toUTF8.toList = [0x7b] ∧ "\x7d".toUTF8.toList = [0x7d] ∧
    ":".toUTF8.toList = [0x3a] ∧ ",".toUTF8.toList = [0x2c] := by
  simp only [toUTF8_toList]
  decide

theorem render_object_bytes (fs : List (String × JsonValue)) :
    (render (object fs)).toUTF8.toList = 0x7b :: ((renderFields fs).toUTF8.toList ++ [0x7d]) := by
  obtain ⟨opening, closing, -, -⟩ := punctuation_bytes
  rw [render, toUTF8_toList_append, toUTF8_toList_append, opening, closing]
  rfl

theorem renderFields_single_bytes (k : String) (v : JsonValue) :
    (renderFields [(k, v)]).toUTF8.toList =
      (quote k).toUTF8.toList ++ 0x3a :: (render v).toUTF8.toList := by
  obtain ⟨-, -, colon, -⟩ := punctuation_bytes
  rw [renderFields, toUTF8_toList_append, toUTF8_toList_append, colon, List.append_assoc]
  rfl

theorem renderFields_cons_bytes (k : String) (v : JsonValue) (f : String × JsonValue)
    (fs : List (String × JsonValue)) :
    (renderFields ((k, v) :: f :: fs)).toUTF8.toList = (quote k).toUTF8.toList ++
      0x3a :: ((render v).toUTF8.toList ++ 0x2c :: (renderFields (f :: fs)).toUTF8.toList) := by
  obtain ⟨-, -, colon, comma⟩ := punctuation_bytes
  rw [renderFields.eq_3 k v (f :: fs) (List.cons_ne_nil f fs), toUTF8_toList_append,
    toUTF8_toList_append, toUTF8_toList_append, toUTF8_toList_append]
  simp only [List.append_assoc, colon, comma]
  rfl

end Rendering

namespace StoredRecord

section Fields

variable {depth : Nat} {rest : Bytes}

theorem Reads.ofChecked {α : Type} {e : Except String α} {a : α} (checked : e = .ok a)
    (rest : Bytes) :
    Reads (JsonText.ofChecked e) [] a rest := by
  rw [checked]
  exact JsonText.Reads.pure a rest

theorem Reads.readHash (h : PaymentHash) (rest : Bytes) :
    Reads readHash (quote (Bytes.toHex h.bytes)).toUTF8.toList h rest :=
  JsonText.Reads.readStr (PaymentHash.ofHexText_toHex h) rest

theorem Reads.readPublicKey (pk : PublicKey) (rest : Bytes) :
    Reads readPublicKey (quote (Bytes.toHex pk.serialize)).toUTF8.toList pk rest :=
  JsonText.Reads.readStr (Secp256k1.PublicKey.ofHexText_toHex pk) rest

theorem fuel_step {P : Nat → Prop} {kbs vbs more bs : Bytes}
    (split : kbs ++ 0x3a :: (vbs ++ more) = bs) (step : ∀ fuel, more.length < fuel → P (fuel + 1)) :
    ∀ fuel, bs.length < fuel → P fuel := by
  intro fuel enough
  rw [← split] at enough
  simp only [List.length_append, List.length_cons] at enough
  obtain ⟨fuel, rfl⟩ : ∃ f, fuel = f + 1 := ⟨fuel - 1, by omega⟩
  exact step fuel (by omega)

theorem Reads.readField_fresh {β : Type} {name : String} {acc : Fields} {seen : Option β}
    {x : Reader β} {v : β} {vbs : Bytes} (store : β → Fields)
    (branch : readField depth name acc =
      ((if seen.isSome then custom (duplicateField name) else colon) >>= fun _ =>
        x >>= fun a => pure (store a)))
    (fresh : seen = none) (value : Reads x vbs v rest) :
    Reads (readField depth name acc) (0x3a :: vbs) (store v) rest := by
  rw [branch, fresh]
  exact Reads.bind Reads.colon (Reads.bind_end value (Reads.pure _ rest)) rfl

theorem Reads.readEntries_step {first : Bool} {name : String} {acc acc' result : Fields}
    {kbs vbs more bs : Bytes}
    (key : Reads (nextKey first) kbs (some name) ((0x3a :: (vbs ++ more)) ++ rest))
    (field : Reads (readField depth name acc) (0x3a :: vbs) acc' (more ++ rest))
    (tail : ∀ fuel, more.length < fuel →
      Reads (readEntries depth fuel false acc') more result rest)
    (split : kbs ++ 0x3a :: (vbs ++ more) = bs) :
    ∀ fuel, bs.length < fuel → Reads (readEntries depth fuel first acc) bs result rest :=
  fuel_step split fun fuel fits => by
    rw [readEntries]
    exact Reads.bind key (Reads.bind field (tail fuel fits) rfl) split

theorem Reads.readEntries_end {acc : Fields} (closing : rest.head? = some 0x7d) :
    ∀ fuel, ([] : Bytes).length < fuel → Reads (readEntries depth fuel false acc) [] acc rest
  | fuel + 1, _ => by
    rw [readEntries]
    exact Reads.bind_end (Reads.nextKey_end closing) (Reads.pure acc rest)

end Fields

section Roles

variable {depth : Nat} {rest : Bytes}

theorem Reads.readRoleTag_service (rest : Bytes) :
    Reads readRoleTag (quote "service").toUTF8.toList .service rest := by
  unfold readRoleTag
  exact Reads.readStr (by rfl) rest

theorem Reads.readRoleTag_client (rest : Bytes) :
    Reads readRoleTag (quote "client").toUTF8.toList .client rest := by
  unfold readRoleTag
  exact Reads.readStr (by rfl) rest

theorem Reads.roleEntries_tag {first : Bool} {t : RoleTag} {acc : List (String × Content)}
    {result : RoleTag × Content} {kbs tbs more bs : Bytes}
    (key : Reads (nextKey first) kbs (some "role") ((0x3a :: (tbs ++ more)) ++ rest))
    (tag : Reads readRoleTag tbs t (more ++ rest))
    (tail : ∀ fuel, more.length < fuel →
      Reads (roleEntries depth fuel false (some t) acc) more result rest)
    (split : kbs ++ 0x3a :: (tbs ++ more) = bs) :
    ∀ fuel, bs.length < fuel → Reads (roleEntries depth fuel first none acc) bs result rest :=
  fuel_step split fun fuel fits => by
    rw [roleEntries]
    refine Reads.bind key ?_ split
    simp only [if_true, Option.isSome_none, Bool.false_eq_true, if_false]
    exact Reads.bind Reads.colon (Reads.bind tag (tail fuel fits) rfl) rfl

theorem Reads.roleEntries_other {first : Bool} {t : RoleTag} {k : String} {v : Content}
    {acc : List (String × Content)} {result : RoleTag × Content} {kbs vbs more bs : Bytes}
    (key : Reads (nextKey first) kbs (some k) ((0x3a :: (vbs ++ more)) ++ rest))
    (other : k ≠ "role")
    (value : Reads (content depth) vbs v (more ++ rest))
    (tail : ∀ fuel, more.length < fuel →
      Reads (roleEntries depth fuel false (some t) ((k, v) :: acc)) more result rest)
    (split : kbs ++ 0x3a :: (vbs ++ more) = bs) :
    ∀ fuel, bs.length < fuel →
      Reads (roleEntries depth fuel first (some t) acc) bs result rest :=
  fuel_step split fun fuel fits => by
    rw [roleEntries]
    refine Reads.bind key ?_ split
    simp only [other, if_false]
    exact Reads.bind Reads.colon (Reads.bind value (tail fuel fits) rfl) rfl

theorem Reads.roleEntries_end {t : RoleTag} {acc : List (String × Content)}
    (closing : rest.head? = some 0x7d) :
    ∀ fuel, ([] : Bytes).length < fuel →
      Reads (roleEntries depth fuel false (some t) acc) [] (t, .map acc.reverse) rest
  | fuel + 1, _ => by
    rw [roleEntries]
    exact Reads.bind_end (Reads.nextKey_end closing) (Reads.pure _ rest)

theorem Reads.content_preimage (depth : Nat) (p : Option Preimage) (rest : Bytes) :
    ∃ c, Reads (content depth) (render (opt (fun q => str (Bytes.toHex q.bytes)) p)).toUTF8.toList
      c rest ∧
      preimageOf c = .ok p := by
  cases p with
  | none => exact ⟨.null, Reads.content_null depth rest, rfl⟩
  | some q =>
    refine ⟨.string (Bytes.toHex q.bytes), Reads.content_string depth _ rest, ?_⟩
    simp [preimageOf, Preimage.ofHexText_toHex]

theorem Reads.readTagged_of_entries {t : RoleTag} {c : Content} {bs : Bytes} (deep : 2 ≤ depth)
    (entries : ∀ fuel, bs.length < fuel →
      Reads (roleEntries (depth - 1) fuel true none []) bs (t, c) (0x7d :: rest)) :
    Reads (readTagged depth) (0x7b :: bs ++ [0x7d]) (t, c) rest :=
  Reads.readCompound_object deep (Reads.size_loop entries)

theorem Reads.readTagged_stored (deep : 2 ≤ depth) (role : SwapRole) (rest : Bytes) :
    ∃ tag c, Reads (readTagged depth) (render role.stored).toUTF8.toList (tag, c) rest ∧
      roleOf tag c = .ok role := by
  -- the tag comes first; the key and a client's preimage are kept as read and interpreted after
  cases role with
  | service k =>
    refine ⟨.service, .map [("key", .string k)], ?_, rfl⟩
    simp only [SwapRole.stored, render_object_bytes, renderFields_cons_bytes,
      renderFields_single_bytes, render_str]
    refine Reads.readTagged_of_entries deep
      (Reads.roleEntries_tag (Reads.nextKey_first "role" _) (Reads.readRoleTag_service _) ?_ rfl)
    exact Reads.roleEntries_other (Reads.nextKey_next "key" _) (by decide)
      (Reads.content_string _ k _) (Reads.roleEntries_end rfl) (by simp)
  | client k p =>
    obtain ⟨c, preimageRead, described⟩ := Reads.content_preimage (depth - 1) p (0x7d :: rest)
    refine ⟨.client, .map [("key", .string k), ("preimage", c)], ?_, ?_⟩
    · simp only [SwapRole.stored, render_object_bytes, renderFields_cons_bytes,
        renderFields_single_bytes, render_str]
      refine Reads.readTagged_of_entries deep
        (Reads.roleEntries_tag (Reads.nextKey_first "role" _) (Reads.readRoleTag_client _) ?_ rfl)
      refine Reads.roleEntries_other (Reads.nextKey_next "key" _) (by decide)
        (Reads.content_string _ k _) ?_ rfl
      exact Reads.roleEntries_other (Reads.nextKey_next "preimage" _) (by decide) preimageRead
        (Reads.roleEntries_end rfl) (by simp)
    · simp [roleOf, clientOfEntries, keyOf, described, bind, Except.bind]

theorem Reads.readRole_stored (deep : 2 ≤ depth) (role : SwapRole) (rest : Bytes) :
    Reads (readRole depth) (render role.stored).toUTF8.toList role rest := by
  obtain ⟨tag, c, tagged, described⟩ := Reads.readTagged_stored deep role rest
  unfold readRole
  exact Reads.bind_end tagged (Reads.ofChecked described rest)

end Roles

section Records

variable {depth : Nat} {r : SwapRecord}

theorem Reads.read_encode (valid : r.params.Valid) (created : r.creationHeight < 2 ^ 32) (deep : 3 ≤ depth) (rest : Bytes) :
    Reads (read r.network depth) r.encode r rest := by
  have lock : r.params.lockHeight < 2 ^ 32 := by
    have := valid.lockHeight_small
    omega
  have comma : ∀ more : Bytes, ∀ b ∈ (0x2c :: more).head?,
      isDigit b = false ∧ b ≠ 0x2e ∧ b ≠ 0x65 ∧ b ≠ 0x45 := by
    intro more b next
    simp only [List.head?_cons, Option.mem_def, Option.some.injEq] at next
    subst next
    decide
  have fields : Fields.finish r.network ⟨some r.params.hash, some r.params.clientKey,
      some r.params.serviceKey, some r.params.lockHeight, some r.creationHeight, some r.role⟩ =
      .ok r := rfl
  unfold read
  rw [SwapRecord.encode, SwapRecord.stored, render_object_bytes]
  -- each field is followed by a comma, and the last one by the closing brace
  simp only [renderFields_cons_bytes, renderFields_single_bytes, render_str]
  refine Reads.readCompound_object (by omega)
    (Reads.size_loop fun fuel fits => Reads.bind_end ?_ (Reads.ofChecked fields _))
  refine Reads.readEntries_step (Reads.nextKey_first "hash" _)
    (Reads.readField_fresh _ rfl rfl (Reads.readHash _ _)) ?_ rfl fuel fits
  refine Reads.readEntries_step (Reads.nextKey_next "client_pk" _)
    (Reads.readField_fresh _ rfl rfl (Reads.readPublicKey _ _)) ?_ rfl
  refine Reads.readEntries_step (Reads.nextKey_next "service_pk" _)
    (Reads.readField_fresh _ rfl rfl (Reads.readPublicKey _ _)) ?_ rfl
  refine Reads.readEntries_step (Reads.nextKey_next "lock_height" _)
    (Reads.readField_fresh _ rfl rfl (Reads.readU32 lock (by exact comma _))) ?_ rfl
  refine Reads.readEntries_step (Reads.nextKey_next "creation_height" _)
    (Reads.readField_fresh _ rfl rfl (Reads.readU32 created (by exact comma _))) ?_ rfl
  exact Reads.readEntries_step (Reads.nextKey_next "role" _)
    (Reads.readField_fresh _ rfl rfl (Reads.readRole_stored (by omega) r.role _))
    (Reads.readEntries_end rfl) (by simp)

end Records

end StoredRecord

theorem SwapRecord.decode_encode {r : SwapRecord} (valid : r.params.Valid)
    (created : r.creationHeight < 2 ^ 32) : SwapRecord.decode r.network r.encode = .ok r :=
  decodeBytes_of_reads (StoredRecord.Reads.read_encode valid created (by decide) [])

end SubmarineSwap
