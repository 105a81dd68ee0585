import Mathlib
import SubmarineSwap.Proofs.Swap.Index
import SubmarineSwap.Proofs.Script
import SubmarineSwap.Proofs.Server.Redeem

namespace SubmarineSwap

/-- An operation that stores only values that read, if at all, as a record under their own key. -/
def IndexOp.KeepsKeys (network : Network) : IndexOp → Prop
  | .put r => r.Made
  | .insert key value => ∀ r, SwapRecord.decode network value = .ok r → r.hash = key

theorem SwapRecord.decode_encode_on {r : SwapRecord} (n : Network) (made : r.Made) :
    SwapRecord.decode n r.encode = .ok { r with network := n } :=
  @SwapRecord.decode_encode { r with network := n } made.valid made.creationHeight_lt

theorem SwapParams.ripemd160_eq_of_witnessScript_eq {p q : SwapParams}
    (same : p.witnessScript = q.witnessScript) :
    Hash.ripemd160 p.hash.bytes = Hash.ripemd160 q.hash.bytes := by
  rw [SwapParams.witnessScript_eq, SwapParams.witnessScript_eq] at same
  simp only [List.append_assoc, List.cons_append, List.nil_append, List.cons.injEq, true_and] at same
  exact (List.append_inj same (by simp [Hash.ripemd160_length])).1

namespace SwapIndex

variable {ix : SwapIndex} {a : Address} {r : SwapRecord} {e : Bytes × Bytes}

def Stores (ix : SwapIndex) (r : SwapRecord) : Prop := ∃ e ∈ ix.entries, ix.decode e.2 = .ok r

/-- Every stored value that reads as a record reads as one under its own key. -/
def WellKeyed (ix : SwapIndex) : Prop :=
  ∀ e ∈ ix.entries, ∀ r, ix.decode e.2 = .ok r → r.hash = e.1

theorem decode_eq_ok_iff {value : Bytes} :
    ix.decode value = .ok r ↔ SwapRecord.decode ix.network value = .ok r := by
  unfold decode
  split <;> simp_all

section Address

theorem stores_of_findByAddress (found : ix.findByAddress a = .ok r) :
    ix.Stores r ∧ r.address = a := by
  unfold findByAddress at found
  split at found
  · rename_i r' first
    cases found
    obtain ⟨e, member, picked⟩ := List.exists_of_findSome?_eq_some first
    -- the entry picked read as a record, and that record had the address
    split at picked
    · rename_i r'' decoded
      split at picked
      · cases picked
        exact ⟨⟨e, member, decoded⟩, by assumption⟩
      · cases picked
    · cases picked
  · cases found

theorem findByAddress_notFound_iff :
    (∃ err, ix.findByAddress a = .error err ∧ err.kind = .notFound) ↔
      ∀ e ∈ ix.entries, ∀ r, ix.decode e.2 = .ok r → r.address ≠ a := by
  unfold findByAddress
  split
  · rename_i r first
    obtain ⟨e, member, picked⟩ := List.exists_of_findSome?_eq_some first
    simp only [reduceCtorEq, false_and, exists_false, false_iff, not_forall]
    split at picked
    · rename_i r' decoded
      split at picked
      · rename_i addressed
        exact ⟨e, member, r', decoded, not_not.mpr addressed⟩
      · cases picked
    · cases picked
  · rename_i none
    simp only [List.findSome?_eq_none_iff] at none
    refine iff_of_true ⟨_, rfl, rfl⟩ fun e member r decoded addressed => ?_
    have skipped := none e member
    simp [decoded, addressed] at skipped

theorem findByAddress_of_unique (stored : ix.Stores r)
    (unique : ∀ r', ix.Stores r' → r'.address = r.address → r' = r) :
    ix.findByAddress r.address = .ok r := by
  obtain ⟨e, member, decoded⟩ := stored
  unfold findByAddress
  split
  · rename_i r' first
    obtain ⟨e', member', picked⟩ := List.exists_of_findSome?_eq_some first
    split at picked
    · rename_i r'' decoded'
      split at picked
      · rename_i addressed
        cases picked
        rw [unique r' ⟨e', member', decoded'⟩ addressed]
      · cases picked
    · cases picked
  · rename_i none
    have skipped := (List.findSome?_eq_none_iff.mp none) e member
    simp [decoded] at skipped

end Address

section Keys

variable {l : List (Bytes × Bytes)} {key value : Bytes}

theorem lookup_eq_none_iff : ix.lookup key = none ↔ key ∉ ix.entries.map Prod.fst := by
  simp only [lookup, Option.map_eq_none_iff, List.find?_eq_none, beq_iff_eq, List.mem_map,
    not_exists, not_and]

theorem find?_key_of_mem (distinct : (l.map Prod.fst).Nodup) (member : e ∈ l) :
    l.find? (fun x => x.1 == e.1) = some e := by
  induction l with
  | nil => cases member
  | cons x rest ih =>
    rw [List.map_cons, List.nodup_cons] at distinct
    rcases List.mem_cons.mp member with rfl | later
    · simp
    · -- the head has another key, since `e`'s key occurs again in the rest
      have other : x.1 ≠ e.1 := fun same => distinct.1 (same ▸ List.mem_map_of_mem later)
      simp [other, ih distinct.2 later]

theorem lookup_of_mem (distinct : (ix.entries.map Prod.fst).Nodup) (member : e ∈ ix.entries) :
    ix.lookup e.1 = some e.2 := by
  simp [lookup, find?_key_of_mem distinct member]

theorem get_of_stores (keyed : ix.WellKeyed) (distinct : (ix.entries.map Prod.fst).Nodup)
    (stored : ix.Stores r) : ix.get r.hash = .ok r := by
  obtain ⟨e, member, decoded⟩ := stored
  have own := keyed e member r decoded
  rw [own]
  simp [get, lookup_of_mem distinct member, decoded, own, bind, Except.bind, pure, Except.pure]

theorem stores_of_get {h : Bytes} (found : ix.get h = .ok r) : ix.Stores r ∧ r.hash = h := by
  unfold get at found
  cases stored : ix.lookup h with
  | none => simp [stored, throw, throwThe, MonadExceptOf.throw] at found
  | some value =>
    cases decoded : ix.decode value with
    | error e => simp [stored, decoded, bind, Except.bind] at found
    | ok r' =>
      simp only [stored, decoded, bind, Except.bind] at found
      split at found
      · cases found
      · rename_i same
        simp only [bne_iff_ne, ne_eq, Decidable.not_not] at same
        cases found
        obtain ⟨e, found', rfl⟩ := Option.map_eq_some_iff.mp stored
        exact ⟨⟨e, List.mem_of_find?_eq_some found', decoded⟩, same⟩

end Keys

section Runs

variable {network : Network} {op : IndexOp} {ops : List IndexOp}

theorem keys_nodup_apply (distinct : (ix.entries.map Prod.fst).Nodup) :
    ((ix.apply op).entries.map Prod.fst).Nodup := by
  rw [apply_eq]
  unfold insertIfAbsent
  split
  · exact distinct
  · rename_i taken
    have free : op.key ∉ ix.entries.map Prod.fst :=
      lookup_eq_none_iff.mp (Option.not_isSome_iff_eq_none.mp taken)
    rw [List.map_append, List.nodup_append]
    refine ⟨distinct, List.nodup_singleton _, fun k old k' new => ?_⟩
    obtain rfl := List.mem_singleton.mp new
    rintro rfl
    exact free old

theorem keys_nodup_run (distinct : (ix.entries.map Prod.fst).Nodup) :
    ((ix.run ops).entries.map Prod.fst).Nodup := by
  induction ops generalizing ix with
  | nil => exact distinct
  | cons op ops ih => exact ih (keys_nodup_apply distinct)

theorem wellKeyed_apply (keyed : ix.WellKeyed) (keeps : op.KeepsKeys ix.network) :
    (ix.apply op).WellKeyed := by
  rw [apply_eq]
  unfold insertIfAbsent
  split
  · exact keyed
  · intro e member r decoded
    rcases List.mem_append.mp member with old | new
    · exact keyed e old r decoded
    · -- the new entry reads, if at all, as a record under its own key
      obtain rfl := List.mem_singleton.mp new
      rw [decode_eq_ok_iff] at decoded
      cases op with
      | put r₀ =>
        rw [IndexOp.value, SwapRecord.decode_encode_on _ keeps] at decoded
        cases decoded
        rfl
      | insert key value => exact keeps r decoded

theorem wellKeyed_run (keyed : ix.WellKeyed) (keeps : ∀ op ∈ ops, op.KeepsKeys ix.network) :
    (ix.run ops).WellKeyed := by
  induction ops generalizing ix with
  | nil => exact keyed
  | cons op ops ih =>
    have network : (ix.apply op).network = ix.network := by
      rw [apply_eq, network_insertIfAbsent]
    refine ih (wellKeyed_apply keyed (keeps op (List.mem_cons_self ..))) fun op' member => ?_
    rw [network]
    exact keeps op' (List.mem_cons_of_mem _ member)

end Runs

section Distinct

variable {l : List (Bytes × Bytes)}

/-- Stored records are separated by the payment hash and by the script hash. -/
def HashesSeparate (ix : SwapIndex) : Prop :=
  (∀ r₁ r₂, ix.Stores r₁ → ix.Stores r₂ →
    Hash.sha256 r₁.witnessScript = Hash.sha256 r₂.witnessScript →
      r₁.witnessScript = r₂.witnessScript) ∧
  ∀ r₁ r₂, ix.Stores r₁ → ix.Stores r₂ →
    Hash.ripemd160 r₁.hash = Hash.ripemd160 r₂.hash → r₁.hash = r₂.hash

theorem eq_of_address_eq (keyed : ix.WellKeyed) (distinct : (ix.entries.map Prod.fst).Nodup)
    (separate : ix.HashesSeparate) {r₁ r₂ : SwapRecord} (stored₁ : ix.Stores r₁)
    (stored₂ : ix.Stores r₂) (same : r₁.address = r₂.address) : r₁ = r₂ := by
  have scriptHashes : Hash.sha256 r₁.witnessScript = Hash.sha256 r₂.witnessScript := by
    simp only [SwapRecord.address, SwapParams.address, Address.p2wsh, Address.segwit.injEq] at same
    exact same.2.2
  have scripts := separate.1 r₁ r₂ stored₁ stored₂ scriptHashes
  have hashes := separate.2 r₁ r₂ stored₁ stored₂
    (SwapParams.ripemd160_eq_of_witnessScript_eq scripts)
  have found₁ := get_of_stores keyed distinct stored₁
  have found₂ := get_of_stores keyed distinct stored₂
  rw [hashes, found₂] at found₁
  exact (Except.ok.inj found₁).symm

theorem stores_perm (reordered : l.Perm ix.entries) :
    ({ ix with entries := l } : SwapIndex).Stores r ↔ ix.Stores r := by
  simp only [Stores, reordered.mem_iff]
  rfl

theorem findByAddress_perm (keyed : ix.WellKeyed) (distinct : (ix.entries.map Prod.fst).Nodup)
    (separate : ix.HashesSeparate) (stored : ix.Stores r) (reordered : l.Perm ix.entries) :
    ({ ix with entries := l } : SwapIndex).findByAddress r.address = .ok r :=
  findByAddress_of_unique ((stores_perm reordered).mpr stored) fun _ stored' same =>
    eq_of_address_eq keyed distinct separate ((stores_perm reordered).mp stored') stored same

theorem HashesSeparate.of_stores_eq (unique : ∀ r₁ r₂, ix.Stores r₁ → ix.Stores r₂ → r₁ = r₂) :
    ix.HashesSeparate :=
  ⟨fun r₁ r₂ stored₁ stored₂ _ => by rw [unique r₁ r₂ stored₁ stored₂],
    fun r₁ r₂ stored₁ stored₂ _ => by rw [unique r₁ r₂ stored₁ stored₂]⟩

theorem stores_eq_of_entries_eq_singleton (single : ix.entries = [e]) {r₁ r₂ : SwapRecord}
    (stored₁ : ix.Stores r₁) (stored₂ : ix.Stores r₂) : r₁ = r₂ := by
  obtain ⟨e₁, member₁, decoded₁⟩ := stored₁
  obtain ⟨e₂, member₂, decoded₂⟩ := stored₂
  rw [single, List.mem_singleton] at member₁ member₂
  subst member₁ member₂
  rw [decoded₁] at decoded₂
  exact Except.ok.inj decoded₂

theorem HashesSeparate.of_entries_eq_singleton (single : ix.entries = [e]) : ix.HashesSeparate :=
  HashesSeparate.of_stores_eq fun _ _ => stores_eq_of_entries_eq_singleton single

end Distinct

end SwapIndex

namespace Server

open Simulation NodeM

variable {s : Site} {r : SwapRecord}

theorem run_locate_hash {h : PaymentHash} (found : s.node.index.get h.bytes = .ok r) :
    (locate (.hash h)).run s = .ok r s :=
  NodeM.run_bind_eq_ok.mpr ⟨s.node, s, rfl, NodeM.run_lift_eq_ok.mpr ⟨found, rfl⟩⟩

theorem run_locate_address {a : Address} (found : s.node.index.findByAddress a = .ok r) :
    (locate (.address a)).run s = .ok r s :=
  NodeM.run_bind_eq_ok.mpr ⟨s.node, s, rfl, NodeM.run_lift_eq_ok.mpr ⟨found, rfl⟩⟩

theorem unspentAmount_congr {loc₁ loc₂ : SwapLocator}
    (same : (locate loc₁).run s = (locate loc₂).run s) :
    (unspentAmount loc₁).run s = (unspentAmount loc₂).run s :=
  NodeM.run_bind_congr same

theorem status_congr {loc₁ loc₂ : SwapLocator} (same : (locate loc₁).run s = (locate loc₂).run s) :
    (status loc₁).run s = (status loc₂).run s :=
  NodeM.run_bind_congr same

end Server

/-- Lookup by address agrees with lookup by hash on stores whose values sit under their own key. -/
theorem address_lookup_agrees_with_hash_lookup (network : Network) (ops : List IndexOp) :
    let ix := (SwapIndex.empty network).run ops
    (∀ a, (∃ err, ix.findByAddress a = .error err ∧ err.kind = .notFound) ↔
      ∀ e ∈ ix.entries, ∀ r, ix.decode e.2 = .ok r → r.address ≠ a) ∧
    ((∀ op ∈ ops, op.KeepsKeys network) →
      (∀ a r, ix.findByAddress a = .ok r → r.address = a ∧ ix.get r.hash = .ok r) ∧
      (ix.HashesSeparate →
        (∀ r : SwapRecord, r.network = network → firstWriter ops r.hash = some (.put r) →
          ix.get r.hash = .ok r ∧ ∀ l, l.Perm ix.entries →
            ({ ix with entries := l } : SwapIndex).findByAddress r.address = .ok r) ∧
        ∀ s : Server.Site, s.node.index = ix → ∀ (h : PaymentHash) r, ix.get h.bytes = .ok r →
          (Server.unspentAmount (.hash h)).run s =
            (Server.unspentAmount (.address r.address)).run s ∧
          (Server.status (.hash h)).run s = (Server.status (.address r.address)).run s)) := by
  intro ix
  have distinct : (ix.entries.map Prod.fst).Nodup := SwapIndex.keys_nodup_run List.nodup_nil
  refine ⟨fun a => SwapIndex.findByAddress_notFound_iff, fun keeps => ?_⟩
  have keyed : ix.WellKeyed :=
    SwapIndex.wellKeyed_run (fun e member => by cases member) keeps
  refine ⟨fun a r found => ?_, fun separate => ⟨fun r network first => ?_, fun s here h r found => ?_⟩⟩
  · obtain ⟨stored, addressed⟩ := SwapIndex.stores_of_findByAddress found
    exact ⟨addressed, SwapIndex.get_of_stores keyed distinct stored⟩
  · -- the put's value is the first under its hash, and reads back as the record
    have made : r.Made := keeps _ (List.mem_of_find?_eq_some first)
    have storedValue : ix.lookup r.hash = some r.encode := by
      rw [SwapIndex.lookup_run, first]
      rfl
    have sameNetwork : r.network = ix.network := by
      rw [network, SwapIndex.network_run]
      rfl
    have found := SwapIndex.get_of_lookup_encode made.valid made.creationHeight_lt sameNetwork
      storedValue
    obtain ⟨stored, -⟩ := SwapIndex.stores_of_get found
    exact ⟨found, fun l reordered =>
      SwapIndex.findByAddress_perm keyed distinct separate stored reordered⟩
  · -- both locators find the stored record
    obtain ⟨stored, -⟩ := SwapIndex.stores_of_get found
    have byAddress : s.node.index.findByAddress r.address = .ok r := by
      rw [here]
      exact SwapIndex.findByAddress_of_unique stored fun r' stored' same =>
        SwapIndex.eq_of_address_eq keyed distinct separate stored' stored same
    have located : (Server.NodeM.locate (.hash h)).run s =
        (Server.NodeM.locate (.address r.address)).run s := by
      rw [Server.run_locate_hash (by rw [here]; exact found), Server.run_locate_address byAddress]
    exact ⟨Server.unspentAmount_congr located, Server.status_congr located⟩

section Sample

def sampleServiceRecord : SwapRecord :=
  ⟨⟨Preimage.zero.paymentHash,
    ⟨⟨75527590610821371234469526451644016213547255182171804695245484056844323531526,
      51999795661670932770259553953944776640145015380208562820036487141780467055772⟩, by decide⟩,
    ⟨⟨20104480976943131600146663398618300678835282044425158805019013155678462706133,
      31271980985027305344071029911048765013544457268388833300964630793903083659671⟩, by decide⟩,
    800000⟩, 1, .service "s/0", .regtest⟩

theorem sampleServiceRecord_keepsKeys : (IndexOp.put sampleServiceRecord).KeepsKeys .regtest := by
  -- the terms and the record are accepted at height 1
  refine ⟨1, ?terms, ?record⟩
  case terms => decide +kernel
  case record => decide +kernel

/-- The sample record put into an empty store is what both lookups answer, and a server on the
store answers alike for its hash and its address. -/
theorem sample_put_found_by_hash_and_address :
    let ix := (SwapIndex.empty .regtest).run [.put sampleServiceRecord]
    ix.get sampleServiceRecord.hash = .ok sampleServiceRecord ∧
      ix.findByAddress sampleServiceRecord.address = .ok sampleServiceRecord ∧
      ∀ s : Server.Site, s.node.index = ix →
        (Server.unspentAmount (.hash sampleServiceRecord.params.hash)).run s =
          (Server.unspentAmount (.address sampleServiceRecord.address)).run s ∧
        (Server.status (.hash sampleServiceRecord.params.hash)).run s =
          (Server.status (.address sampleServiceRecord.address)).run s := by
  intro ix
  have keeps : ∀ op ∈ [IndexOp.put sampleServiceRecord], op.KeepsKeys .regtest := by
    simpa using sampleServiceRecord_keepsKeys
  have single : ix.entries = [(sampleServiceRecord.hash, sampleServiceRecord.encode)] := by
    simp [ix, SwapIndex.run, SwapIndex.apply_eq, SwapIndex.insertIfAbsent, SwapIndex.lookup,
      SwapIndex.empty, IndexOp.key, IndexOp.value]
  have first : firstWriter [.put sampleServiceRecord] sampleServiceRecord.hash =
      some (.put sampleServiceRecord) := by
    simp [firstWriter, IndexOp.key]
  obtain ⟨-, agree⟩ := address_lookup_agrees_with_hash_lookup .regtest [.put sampleServiceRecord]
  obtain ⟨-, separated⟩ := agree keeps
  obtain ⟨written, servers⟩ := separated (SwapIndex.HashesSeparate.of_entries_eq_singleton single)
  obtain ⟨found, anyOrder⟩ := written sampleServiceRecord rfl first
  exact ⟨found, anyOrder ix.entries (List.Perm.refl _), fun s here => servers s here _ _ found⟩

/-- The sample record's stored bytes put raw under the key 0101…01: the lookup by address answers
the record, and the lookup by its hash finds nothing. -/
theorem findByAddress_answers_record_under_foreign_key :
    let ix := (SwapIndex.empty .regtest).run [.insert (List.replicate 32 1) sampleServiceRecord.encode]
    ix.findByAddress sampleServiceRecord.address = .ok sampleServiceRecord ∧
      ∃ e, ix.get sampleServiceRecord.hash = .error e ∧ e.kind = .notFound := by
  intro ix
  have decoded : ix.decode sampleServiceRecord.encode = .ok sampleServiceRecord :=
    SwapIndex.decode_eq_ok_iff.mpr (SwapRecord.decode_encode_on .regtest sampleServiceRecord_keepsKeys)
  have single : ix.entries = [(List.replicate 32 1, sampleServiceRecord.encode)] := by
    simp [ix, SwapIndex.run, SwapIndex.apply, SwapIndex.insertIfAbsent, SwapIndex.lookup,
      SwapIndex.empty]
  -- the key differs from the record's hash, so the lookup by hash sees no entry
  have foreign : ix.lookup sampleServiceRecord.hash = none := by
    rw [SwapIndex.lookup_eq_none_iff, single]
    decide +kernel
  have stored : ix.Stores sampleServiceRecord := by
    refine ⟨(List.replicate 32 1, sampleServiceRecord.encode), ?_, decoded⟩
    rw [single]
    exact List.mem_singleton_self _
  have byAddress := SwapIndex.findByAddress_of_unique stored fun _ stored' _ =>
    SwapIndex.stores_eq_of_entries_eq_singleton single stored' stored
  refine ⟨byAddress, ?_⟩
  simp only [SwapIndex.get, foreign]
  exact ⟨_, rfl, rfl⟩

end Sample

end SubmarineSwap
