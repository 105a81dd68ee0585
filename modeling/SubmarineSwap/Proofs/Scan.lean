import Mathlib
import SubmarineSwap.Proofs.Settlement.Quote

namespace SubmarineSwap

namespace Bytes

theorem foldl_toNatBE (bs : Bytes) (acc : Nat) :
    bs.foldl (fun acc b => 256 * acc + b.toNat) acc = acc * 256 ^ bs.length + toNatBE bs := by
  induction bs generalizing acc with
  | nil => simp [toNatBE]
  | cons b bs ih =>
    have head : toNatBE (b :: bs) = List.foldl _ (256 * 0 + b.toNat) bs := rfl
    rw [List.foldl_cons, ih, head, ih, List.length_cons, pow_succ]
    ring

theorem toNatBE_cons (b : UInt8) (bs : Bytes) :
    toNatBE (b :: bs) = b.toNat * 256 ^ bs.length + toNatBE bs := by
  rw [toNatBE, List.foldl_cons, foldl_toNatBE]
  simp

theorem toNatBE_lt (bs : Bytes) : toNatBE bs < 256 ^ bs.length := by
  induction bs with
  | nil => simp [toNatBE]
  | cons b bs ih =>
    rw [toNatBE_cons, List.length_cons, pow_succ]
    have digit : b.toNat + 1 ≤ 256 := b.toNat_lt
    calc b.toNat * 256 ^ bs.length + toNatBE bs
        < b.toNat * 256 ^ bs.length + 256 ^ bs.length := by omega
      _ = (b.toNat + 1) * 256 ^ bs.length := by ring
      _ ≤ 256 * 256 ^ bs.length := Nat.mul_le_mul_right _ digit
      _ = 256 ^ bs.length * 256 := by ring

theorem digit_mul_add_lt_iff {x y a b place : Nat} (lowA : a < place) (lowB : b < place) :
    x * place + a < y * place + b ↔ x < y ∨ x = y ∧ a < b := by
  constructor
  · intro lt
    rcases Nat.lt_trichotomy x y with below | rfl | above
    · exact .inl below
    · exact .inr ⟨rfl, by omega⟩
    · -- a larger top digit outweighs any lower part
      have : (y + 1) * place ≤ x * place := Nat.mul_le_mul_right _ above
      have : (y + 1) * place = y * place + place := by ring
      omega
  · rintro (below | ⟨rfl, lt⟩)
    · have : (x + 1) * place ≤ y * place := Nat.mul_le_mul_right _ below
      have : (x + 1) * place = x * place + place := by ring
      omega
    · omega

theorem toNatBE_lt_toNatBE_iff {a b : Bytes} (same : a.length = b.length) :
    toNatBE a < toNatBE b ↔ a < b := by
  induction a generalizing b with
  | nil =>
    cases b with
    | nil => simp
    | cons y b => simp at same
  | cons x a ih =>
    cases b with
    | nil => simp at same
    | cons y b =>
      have lengths : a.length = b.length := by simpa using same
      have lowA := toNatBE_lt a
      have lowB := toNatBE_lt b
      rw [lengths] at lowA
      rw [toNatBE_cons, toNatBE_cons, lengths, digit_mul_add_lt_iff lowA lowB, List.cons_lt_cons_iff,
        ih lengths, UInt8.lt_iff_toNat_lt, ← UInt8.toNat_inj]

theorem eq_of_toNatBE_eq {a b : Bytes} (same : a.length = b.length) (eq : toNatBE a = toNatBE b) :
    a = b := by
  -- neither string is below the other, and the order of byte strings is antisymmetric
  have notLt : ¬a < b := fun lt => absurd ((toNatBE_lt_toNatBE_iff same).mpr lt) (by omega)
  have notGt : ¬b < a := fun gt => absurd ((toNatBE_lt_toNatBE_iff same.symm).mpr gt) (by omega)
  exact List.le_antisymm (List.not_lt.mp notGt) (List.not_lt.mp notLt)

end Bytes

section Order

/-- The order a scan reports deposits in: by confirmation height, then by transaction id compared
byte by byte in its internal order, then by output index. -/
def Utxo.ScanBefore (u v : Utxo) : Prop :=
  u.height < v.height ∨ u.height = v.height ∧
    (u.outpoint.txid.bytes < v.outpoint.txid.bytes ∨
      u.outpoint.txid = v.outpoint.txid ∧ u.outpoint.vout < v.outpoint.vout)

theorem Utxo.scanBefore_irrefl (u : Utxo) : ¬ u.ScanBefore u := by
  rintro (lt | ⟨-, lt | ⟨-, lt⟩⟩)
  · exact Nat.lt_irrefl _ lt
  · exact List.lt_irrefl _ lt
  · exact Nat.lt_irrefl _ lt

theorem Utxo.scanBefore_asymm {u v : Utxo} (before : u.ScanBefore v) : ¬ v.ScanBefore u := by
  rintro (lt' | ⟨same', lt' | ⟨ids', lt'⟩⟩) <;>
    rcases before with lt | ⟨same, lt | ⟨ids, lt⟩⟩
  all_goals first
    | omega
    | exact List.lt_asymm lt lt'
    | exact List.lt_irrefl _ (congrArg Txid.bytes ids' ▸ lt)
    | exact List.lt_irrefl _ (congrArg Txid.bytes ids ▸ lt')

instance : Std.Irrefl Utxo.ScanBefore := ⟨Utxo.scanBefore_irrefl⟩

instance : Std.Antisymm Utxo.ScanBefore :=
  ⟨fun _ _ before after => absurd after (Utxo.scanBefore_asymm before)⟩

theorem scanKeyLe_iff (a b : Nat × Nat × Nat) :
    scanKeyLe a b = true ↔ a.1 < b.1 ∨ a.1 = b.1 ∧ (a.2.1 < b.2.1 ∨ a.2.1 = b.2.1 ∧ a.2.2 ≤ b.2.2) := by
  simp [scanKeyLe]

theorem Utxo.scanBefore_of_scanKeyLe {u v : Utxo} (le : scanKeyLe u.scanKey v.scanKey = true)
    (apart : u.outpoint ≠ v.outpoint) : u.ScanBefore v := by
  have sameLength : u.outpoint.txid.bytes.length = v.outpoint.txid.bytes.length := by
    rw [u.outpoint.txid.length_eq, v.outpoint.txid.length_eq]
  rw [scanKeyLe_iff] at le
  rcases le with lower | ⟨level, smaller | ⟨sameId, index⟩⟩
  · exact .inl lower
  · exact .inr ⟨level, .inl ((Bytes.toNatBE_lt_toNatBE_iff sameLength).mp smaller)⟩
  · have ids : u.outpoint.txid = v.outpoint.txid := by
      rw [Txid.mk.injEq]
      exact Bytes.eq_of_toNatBE_eq sameLength sameId
    have vouts : u.outpoint.vout ≠ v.outpoint.vout := fun same =>
      apart (by rw [OutPoint.mk.injEq]; exact ⟨ids, same⟩)
    exact .inr ⟨level, .inr ⟨ids, by simp only [Utxo.scanKey] at index; omega⟩⟩

end Order

section FirstPerOutpoint

variable {l : List Utxo} {u : Utxo}

theorem firstPerOutpoint_append_of_seen (seen : (firstPerOutpoint l).any (·.outpoint == u.outpoint)) :
    firstPerOutpoint (l ++ [u]) = firstPerOutpoint l := by
  rw [firstPerOutpoint, List.foldl_append, List.foldl_cons, List.foldl_nil]
  exact if_pos seen

theorem firstPerOutpoint_append_of_fresh
    (fresh : ¬ (firstPerOutpoint l).any (·.outpoint == u.outpoint)) :
    firstPerOutpoint (l ++ [u]) = firstPerOutpoint l ++ [u] := by
  rw [firstPerOutpoint, List.foldl_append, List.foldl_cons, List.foldl_nil]
  exact if_neg fresh

theorem any_firstPerOutpoint (l : List Utxo) (o : OutPoint) :
    (firstPerOutpoint l).any (·.outpoint == o) = l.any (·.outpoint == o) := by
  induction l using List.reverseRecOn with
  | nil => rfl
  | append_singleton l u ih =>
    rw [List.any_append, ← ih]
    by_cases seen : (firstPerOutpoint l).any (·.outpoint == u.outpoint)
    · rw [firstPerOutpoint_append_of_seen seen]
      by_cases same : u.outpoint = o
      · subst same
        simp [seen]
      · simp [same]
    · rw [firstPerOutpoint_append_of_fresh seen, List.any_append]

theorem mem_firstPerOutpoint_iff {u : Utxo} {l : List Utxo} :
    u ∈ firstPerOutpoint l ↔ l.find? (·.outpoint == u.outpoint) = some u := by
  induction l using List.reverseRecOn with
  | nil => simp [firstPerOutpoint]
  | append_singleton l w ih =>
    rw [List.find?_append, Option.or_eq_some_iff]
    by_cases seen : (firstPerOutpoint l).any (·.outpoint == w.outpoint)
    · rw [firstPerOutpoint_append_of_seen seen, ih]
      -- `w` comes after an earlier output of its outpoint, so it is nobody's first
      have earlier : l.any (·.outpoint == w.outpoint) := by rwa [← any_firstPerOutpoint]
      constructor
      · exact .inl
      · rintro (first | ⟨none, last⟩)
        · exact first
        · by_cases same : w.outpoint = u.outpoint
          · rw [List.find?_eq_none] at none
            obtain ⟨v, member, sameV⟩ := List.any_eq_true.mp earlier
            exact absurd (by simpa [same] using sameV) (none v member)
          · simp [same] at last
    · rw [firstPerOutpoint_append_of_fresh seen, List.mem_append, ih, List.mem_singleton]
      have absent : l.find? (·.outpoint == w.outpoint) = none := by
        rw [any_firstPerOutpoint, Bool.not_eq_true] at seen
        simpa [List.find?_eq_none, List.any_eq_false] using seen
      constructor
      · rintro (first | rfl)
        · exact .inl first
        · exact .inr ⟨absent, by simp⟩
      · rintro (first | ⟨-, last⟩)
        · exact .inl first
        · by_cases same : w.outpoint = u.outpoint
          · simp only [List.find?_cons, same, beq_self_eq_true, Option.some.injEq] at last
            exact .inr last.symm
          · simp [same] at last

theorem outpoints_nodup_firstPerOutpoint (l : List Utxo) :
    ((firstPerOutpoint l).map (·.outpoint)).Nodup := by
  induction l using List.reverseRecOn with
  | nil => simp [firstPerOutpoint]
  | append_singleton l u ih =>
    by_cases seen : (firstPerOutpoint l).any (·.outpoint == u.outpoint)
    · rw [firstPerOutpoint_append_of_seen seen]
      exact ih
    · rw [firstPerOutpoint_append_of_fresh seen]
      have fresh := seen
      simp only [List.any_eq_true, beq_iff_eq, not_exists, not_and] at fresh
      rw [List.map_append, List.nodup_append]
      refine ⟨ih, by simp, fun o kept o' new => ?_⟩
      obtain ⟨v, member, rfl⟩ := List.mem_map.mp kept
      obtain rfl : o' = u.outpoint := by simpa using new
      exact fresh v member

theorem firstPerOutpoint_of_nodup {l : List Utxo} (distinct : (l.map (·.outpoint)).Nodup) :
    firstPerOutpoint l = l := by
  induction l using List.reverseRecOn with
  | nil => rfl
  | append_singleton l u ih =>
    rw [List.map_append, List.nodup_append] at distinct
    obtain ⟨front, -, apart⟩ := distinct
    have fresh : ¬ (firstPerOutpoint l).any (·.outpoint == u.outpoint) := by
      rw [any_firstPerOutpoint]
      simp only [List.any_eq_true, beq_iff_eq, not_exists, not_and]
      exact fun v member same => apart _ (List.mem_map_of_mem member) _ (by simp) same
    rw [firstPerOutpoint_append_of_fresh fresh, ih front]

end FirstPerOutpoint

section Scan

variable {found : List Utxo} {fromHeight : Nat}

/-- Whether `u` is the first output the chain listed, among those confirmed at or after
`fromHeight`, with its outpoint. -/
def Utxo.FirstFrom (found : List Utxo) (fromHeight : Nat) (u : Utxo) : Prop :=
  found.find? (fun v => decide (fromHeight ≤ v.height) && v.outpoint == u.outpoint) = some u

theorem Utxo.firstFrom_iff_outpoint {u : Utxo} :
    u.FirstFrom found fromHeight ↔
      (found.filter (·.outpoint == u.outpoint)).find? (fun v => decide (fromHeight ≤ v.height)) =
        some u := by
  rw [Utxo.FirstFrom, List.find?_filter]
  simp only [Bool.decide_and, decide_eq_true_eq, Bool.decide_eq_true, Bool.and_comm]

theorem Utxo.firstFrom_iff_of_nodup (distinct : (found.map (·.outpoint)).Nodup) {u : Utxo} :
    u.FirstFrom found fromHeight ↔ u ∈ found ∧ fromHeight ≤ u.height := by
  rw [Utxo.FirstFrom, List.find?_eq_some_iff_append]
  constructor
  · rintro ⟨picked, before, after, rfl, -⟩
    exact ⟨by simp, by simpa using picked⟩
  · rintro ⟨member, late⟩
    obtain ⟨before, after, rfl⟩ := List.append_of_mem member
    refine ⟨by simpa using late, before, after, rfl, fun v earlier => ?_⟩
    -- no earlier output shares `u`'s outpoint
    rw [List.map_append, List.nodup_append] at distinct
    have apart := distinct.2.2 _ (List.mem_map_of_mem earlier) u.outpoint (by simp)
    simp [apart]

theorem mem_scanResult_iff {u : Utxo} : u ∈ scanResult found fromHeight ↔ u.FirstFrom found fromHeight := by
  rw [scanResult, List.mem_mergeSort, mem_firstPerOutpoint_iff, List.find?_filter, Utxo.FirstFrom]
  simp only [ge_iff_le, Bool.decide_and, decide_eq_true_eq, Bool.decide_eq_true]

theorem mem_of_mem_scanResult {u : Utxo} (member : u ∈ scanResult found fromHeight) :
    u ∈ found ∧ fromHeight ≤ u.height := by
  have first := mem_scanResult_iff.mp member
  exact ⟨List.mem_of_find?_eq_some first, by simpa using List.find?_some first⟩

theorem exists_outpoint_mem_scanResult {u : Utxo} (member : u ∈ found) (late : fromHeight ≤ u.height) :
    ∃ u' ∈ scanResult found fromHeight, u'.outpoint = u.outpoint := by
  have listed : (found.filter (·.height ≥ fromHeight)).any (·.outpoint == u.outpoint) :=
    List.any_eq_true.mpr ⟨u, List.mem_filter.mpr ⟨member, by simpa using late⟩, beq_self_eq_true _⟩
  rw [← any_firstPerOutpoint] at listed
  obtain ⟨u', kept, same⟩ := List.any_eq_true.mp listed
  exact ⟨u', List.mem_mergeSort.mpr kept, beq_iff_eq.mp same⟩

theorem scanAddress_height_le {chain : UnspentQuery} {a : Address} {seen : List Utxo}
    (scanned : scanAddress chain a fromHeight = .ok seen) {u : Utxo} (member : u ∈ seen) :
    fromHeight ≤ u.height := by
  unfold scanAddress at scanned
  cases answered : chain a fromHeight with
  | error e => simp [answered, scanAnswer] at scanned
  | ok found =>
    simp only [answered, scanAnswer, Except.ok.injEq] at scanned
    subst scanned
    exact (mem_of_mem_scanResult member).2

theorem outpoints_nodup_scanResult (found : List Utxo) (fromHeight : Nat) :
    ((scanResult found fromHeight).map (·.outpoint)).Nodup :=
  ((List.mergeSort_perm _ _).map _).nodup_iff.mpr (outpoints_nodup_firstPerOutpoint _)

theorem sorted_scanResult (found : List Utxo) (fromHeight : Nat) :
    (scanResult found fromHeight).Pairwise fun u v => scanKeyLe u.scanKey v.scanKey := by
  apply List.pairwise_mergeSort
  · intro u v w first second
    rw [scanKeyLe_iff] at first second ⊢
    omega
  · intro u v
    rw [Bool.or_eq_true, scanKeyLe_iff, scanKeyLe_iff]
    omega

theorem pairwise_scanBefore_scanResult (found : List Utxo) (fromHeight : Nat) :
    (scanResult found fromHeight).Pairwise Utxo.ScanBefore := by
  have apart : (scanResult found fromHeight).Pairwise fun u v => u.outpoint ≠ v.outpoint :=
    List.pairwise_map.mp (outpoints_nodup_scanResult found fromHeight)
  refine ((sorted_scanResult found fromHeight).and apart).imp ?_
  intro u v ⟨le, distinct⟩
  exact Utxo.scanBefore_of_scanKeyLe le distinct

theorem eq_scanResult_of_mem_iff {l : List Utxo} (members : ∀ u, u ∈ l ↔ u.FirstFrom found fromHeight)
    (sorted : l.Pairwise Utxo.ScanBefore) : l = scanResult found fromHeight :=
  sorted.eq_of_mem_iff (pairwise_scanBefore_scanResult found fromHeight) fun u => by
    rw [members, mem_scanResult_iff]

theorem scanResult_scanResult (found : List Utxo) (fromHeight : Nat) :
    scanResult (scanResult found fromHeight) fromHeight = scanResult found fromHeight := by
  have late : ∀ u ∈ scanResult found fromHeight, u.height ≥ fromHeight := fun u member =>
    (mem_of_mem_scanResult member).2
  rw [scanResult.eq_1 (scanResult found fromHeight), List.filter_eq_self.mpr (by simpa using late),
    firstPerOutpoint_of_nodup (outpoints_nodup_scanResult found fromHeight)]
  exact List.mergeSort_of_pairwise (sorted_scanResult found fromHeight)

theorem scanResult_eq_of_filter_eq {found' : List Utxo}
    (alike : ∀ o, found'.filter (·.outpoint == o) = found.filter (·.outpoint == o)) :
    scanResult found' fromHeight = scanResult found fromHeight := by
  apply eq_scanResult_of_mem_iff _ (pairwise_scanBefore_scanResult found' fromHeight)
  intro u
  rw [mem_scanResult_iff, Utxo.firstFrom_iff_outpoint, Utxo.firstFrom_iff_outpoint, alike]

theorem scanResult_perm (distinct : (found.map (·.outpoint)).Nodup) {found' : List Utxo}
    (reordered : found'.Perm found) : scanResult found' fromHeight = scanResult found fromHeight := by
  have distinct' : (found'.map (·.outpoint)).Nodup := (reordered.map _).nodup_iff.mpr distinct
  apply eq_scanResult_of_mem_iff _ (pairwise_scanBefore_scanResult found' fromHeight)
  intro u
  rw [mem_scanResult_iff, Utxo.firstFrom_iff_of_nodup distinct', Utxo.firstFrom_iff_of_nodup distinct,
    reordered.mem_iff]

end Scan

section Settlement

variable {σ : Type} {r : SwapRecord} {destination : Address} {rate : Nat}
  {signer : SignerIn (StateM σ)} {s s' : σ}

theorem runFrom_scanSwap_of_answer (chain : SettlementBuilder (StateM σ)) {found : List Utxo}
    {s₁ : σ} (answered : runFrom (chain.unspentOutputs r.address r.creationHeight) s = (.ok found, s₁)) :
    runFrom (chain.scanSwap r) s = (.ok (scanResult found r.creationHeight), s₁) := by
  rw [runFrom_scanSwap, answered]
  rfl

theorem buildSettlement_spends {path : SpendPath} {utxos : List Utxo} {st : Settlement}
    (built : runFrom (buildSettlement r path destination rate utxos signer) s = (.ok st, s')) :
    st.tx.inputs.map (·.previousOutput) = utxos.map (·.outpoint) := by
  obtain ⟨draft, ws, made, signed, rfl⟩ := runFrom_buildSettlement_eq_ok.mp built
  exact (settlement_of_draft made (length_of_signInputs_ok signed)).1

theorem SettlementBuilder.buildRedeem_congr {chain chain' : SettlementBuilder (StateM σ)}
    (same : runFrom (chain'.scanSwap r) s = runFrom (chain.scanSwap r) s) (p : Preimage) :
    runFrom (chain'.buildRedeem r p destination rate signer) s =
      runFrom (chain.buildRedeem r p destination rate signer) s := by
  rcases gate : verifyPreimage r p with e | ⟨⟩
  · rw [SettlementBuilder.runFrom_buildRedeem_of_mismatch _ gate,
      SettlementBuilder.runFrom_buildRedeem_of_mismatch _ gate]
  · rw [SettlementBuilder.runFrom_buildRedeem_of_match _ gate,
      SettlementBuilder.runFrom_buildRedeem_of_match _ gate, runFrom_bind, runFrom_bind, same]

theorem SettlementBuilder.buildRefund_congr {chain chain' : SettlementBuilder (StateM σ)}
    (same : runFrom (chain'.scanSwap r) s = runFrom (chain.scanSwap r) s) (height : Nat) :
    runFrom (chain'.buildRefund r destination rate height signer) s =
      runFrom (chain.buildRefund r destination rate height signer) s := by
  rcases gate : verifyLockExpired r height with e | ⟨⟩
  · rw [SettlementBuilder.runFrom_buildRefund_of_early _ gate,
      SettlementBuilder.runFrom_buildRefund_of_early _ gate]
  · rw [SettlementBuilder.runFrom_buildRefund_of_expired _ gate,
      SettlementBuilder.runFrom_buildRefund_of_expired _ gate, runFrom_bind, runFrom_bind, same]

theorem SettlementBuilder.spends_scanned (chain : SettlementBuilder (StateM σ)) {found : List Utxo}
    {s₁ : σ} (answered : runFrom (chain.unspentOutputs r.address r.creationHeight) s = (.ok found, s₁))
    {st : Settlement}
    (built : (∃ p, runFrom (chain.buildRedeem r p destination rate signer) s = (.ok st, s')) ∨
      ∃ height, runFrom (chain.buildRefund r destination rate height signer) s = (.ok st, s')) :
    st.tx.inputs.map (·.previousOutput) = (scanResult found r.creationHeight).map (·.outpoint) := by
  have scanned := runFrom_scanSwap_of_answer chain answered
  rcases built with ⟨p, built⟩ | ⟨height, built⟩
  · rcases gate : verifyPreimage r p with e | ⟨⟩
    · rw [SettlementBuilder.runFrom_buildRedeem_of_mismatch _ gate] at built
      cases built
    · rw [SettlementBuilder.runFrom_buildRedeem_of_match _ gate, runFrom_bind, scanned] at built
      dsimp only at built
      rw [SubmarineSwap.runFrom_buildRedeem_of_match gate] at built
      exact buildSettlement_spends built
  · rcases gate : verifyLockExpired r height with e | ⟨⟩
    · rw [SettlementBuilder.runFrom_buildRefund_of_early _ gate] at built
      cases built
    · rw [SettlementBuilder.runFrom_buildRefund_of_expired _ gate, runFrom_bind, scanned] at built
      dsimp only at built
      rw [SubmarineSwap.runFrom_buildRefund_of_expired gate] at built
      exact buildSettlement_spends built

end Settlement

/-- What a scan reports for the chain's answer `found`: the first output of each outpoint at or
after the height, once each, in order; restartable and independent of the answer's order. -/
structure ScanReport (chain : UnspentQuery) (a : Address) (fromHeight : Nat) (found : List Utxo)
    (reported : List Utxo) : Prop where
  scanned : scanAddress chain a fromHeight = .ok reported
  members : ∀ u, u ∈ reported ↔ u.FirstFrom found fromHeight
  sorted : reported.Pairwise Utxo.ScanBefore
  determined : ∀ l : List Utxo, (∀ u, u ∈ l ↔ u.FirstFrom found fromHeight) →
    l.Pairwise Utxo.ScanBefore → l = reported
  distinct : (reported.map (·.outpoint)).Nodup
  restartable : scanAddress (fun _ _ => .ok reported) a fromHeight = .ok reported
  alike : ∀ (chain' : UnspentQuery) (found' : List Utxo), chain' a fromHeight = .ok found' →
    (∀ o, found'.filter (·.outpoint == o) = found.filter (·.outpoint == o)) →
    scanAddress chain' a fromHeight = .ok reported
  reordered : (found.map (·.outpoint)).Nodup → ∀ (chain' : UnspentQuery) (found' : List Utxo),
    chain' a fromHeight = .ok found' → found'.Perm found →
    scanAddress chain' a fromHeight = .ok reported
  spent_once : ∀ (σ : Type) (builder : SettlementBuilder (StateM σ)) (r : SwapRecord) (s s₁ : σ),
    r.address = a → r.creationHeight = fromHeight →
    runFrom (builder.unspentOutputs a fromHeight) s = (.ok found, s₁) →
    ∀ (destination : Address) (rate : Nat) (signer : SignerIn (StateM σ)) (st : Settlement) (s' : σ),
      ((∃ p, runFrom (builder.buildRedeem r p destination rate signer) s = (.ok st, s')) ∨
        ∃ height, runFrom (builder.buildRefund r destination rate height signer) s = (.ok st, s')) →
      st.tx.inputs.map (·.previousOutput) = reported.map (·.outpoint) ∧
        (st.tx.inputs.map (·.previousOutput)).Nodup
  built_alike : ∀ (σ : Type) (builder builder' : SettlementBuilder (StateM σ)) (r : SwapRecord)
    (s s₁ : σ) (found' : List Utxo), r.address = a → r.creationHeight = fromHeight →
    runFrom (builder.unspentOutputs a fromHeight) s = (.ok found, s₁) →
    runFrom (builder'.unspentOutputs a fromHeight) s = (.ok found', s₁) →
    (∀ o, found'.filter (·.outpoint == o) = found.filter (·.outpoint == o)) →
    ∀ (destination : Address) (rate : Nat) (signer : SignerIn (StateM σ)),
      (∀ p, runFrom (builder'.buildRedeem r p destination rate signer) s =
        runFrom (builder.buildRedeem r p destination rate signer) s) ∧
      ∀ height, runFrom (builder'.buildRefund r destination rate height signer) s =
        runFrom (builder.buildRefund r destination rate height signer) s

/-- A scan reports the first output of each outpoint at or after the height, in strictly
ascending order, for every answer of the chain. -/
theorem scan_reports_first_outputs_in_order (chain : UnspentQuery) (a : Address) (fromHeight : Nat)
    (found : List Utxo) (answered : chain a fromHeight = .ok found) :
    ∃ reported, ScanReport chain a fromHeight found reported := by
  have scanned : scanAddress chain a fromHeight = .ok (scanResult found fromHeight) := by
    rw [scanAddress, answered]
    rfl
  refine ⟨scanResult found fromHeight, scanned, fun u => mem_scanResult_iff,
    pairwise_scanBefore_scanResult found fromHeight, fun l members sorted => eq_scanResult_of_mem_iff members sorted,
    outpoints_nodup_scanResult found fromHeight, ?restartable, ?alike, ?reordered, ?spent, ?built⟩
  case restartable =>
    show scanAnswer a fromHeight (.ok _) = _
    rw [scanAnswer, scanResult_scanResult]
  case alike =>
    intro chain' found' answered' alike
    rw [scanAddress, answered', ← scanResult_eq_of_filter_eq alike]
    rfl
  case reordered =>
    intro distinct chain' found' answered' reordered
    rw [scanAddress, answered', ← scanResult_perm distinct reordered]
    rfl
  case spent =>
    intro σ builder r s s₁ address creation answeredHere destination rate signer st s' built
    subst address creation
    have spent := SettlementBuilder.spends_scanned builder answeredHere built
    exact ⟨spent, spent ▸ outpoints_nodup_scanResult found r.creationHeight⟩
  case built =>
    intro σ builder builder' r s s₁ found' address creation answeredHere answered' alike destination
      rate signer
    subst address creation
    -- both scans report the same deposits with the same effects
    have same : runFrom (builder'.scanSwap r) s = runFrom (builder.scanSwap r) s := by
      rw [runFrom_scanSwap_of_answer builder answeredHere, runFrom_scanSwap_of_answer builder' answered',
        scanResult_eq_of_filter_eq alike]
    exact ⟨SettlementBuilder.buildRedeem_congr same, SettlementBuilder.buildRefund_congr same⟩

def sampleChainAnswer : List Utxo :=
  [⟨⟨⟨List.replicate 32 5, List.length_replicate⟩, 1⟩, 500, 10⟩,
    ⟨⟨⟨List.replicate 32 4, List.length_replicate⟩, 0⟩, 700, 10⟩,
    ⟨⟨⟨List.replicate 32 5, List.length_replicate⟩, 1⟩, 900, 12⟩,
    ⟨⟨⟨List.replicate 32 6, List.length_replicate⟩, 0⟩, 100, 4⟩]

theorem scan_reports_sample_in_order :
    let chain : UnspentQuery := fun _ _ => .ok sampleChainAnswer
    let a : Address := .segwit .regtest 0 (List.replicate 20 0)
    chain a 5 = .ok sampleChainAnswer ∧ ∃ reported, ScanReport chain a 5 sampleChainAnswer reported :=
  ⟨rfl, scan_reports_first_outputs_in_order _ _ 5 _ rfl⟩

section Totals

/-- The total is the exact sum below `2 ^ 64`, the overflow error otherwise, in every order. -/
theorem total_amount_is_exact_sum (utxos : List Utxo) :
    (∀ t, totalAmount utxos = .ok t ↔ (utxos.map (·.amount)).sum < 2 ^ 64 ∧
        t = (utxos.map (·.amount)).sum) ∧
      (∀ e, totalAmount utxos = .error e ↔ 2 ^ 64 ≤ (utxos.map (·.amount)).sum ∧
        e = .raise .transaction "total UTXO amount overflows") ∧
      ∀ utxos', utxos'.Perm utxos → totalAmount utxos' = totalAmount utxos := by
  have bound : maxU64 + 1 = 2 ^ 64 := by norm_num [maxU64]
  refine ⟨fun t => ?_, fun e => ?_, fun utxos' permuted => ?_⟩
  · by_cases fits : (utxos.map (·.amount)).sum ≤ maxU64
    · simp only [totalAmount_eq, fits, if_true, Except.ok.injEq]
      constructor
      · rintro rfl
        exact ⟨by omega, rfl⟩
      · rintro ⟨-, rfl⟩
        rfl
    · simp only [totalAmount_eq, fits, if_false, reduceCtorEq, false_iff, not_and]
      omega
  · by_cases fits : (utxos.map (·.amount)).sum ≤ maxU64
    · simp only [totalAmount_eq, fits, if_true, reduceCtorEq, false_iff, not_and]
      omega
    · simp only [totalAmount_eq, fits, if_false, Except.error.injEq]
      exact ⟨fun same => ⟨by omega, same.symm⟩, fun ⟨_, same⟩ => same.symm⟩
  · rw [totalAmount_eq, totalAmount_eq, (permuted.map (·.amount)).sum_eq]

end Totals

end SubmarineSwap
