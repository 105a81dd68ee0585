import Mathlib
import SubmarineSwap.Swap.Index
import SubmarineSwap.Proofs.Swap.Stored
import SubmarineSwap.Proofs.Settlement.Draft

namespace SubmarineSwap

inductive IndexOp where
  | put (r : SwapRecord)
  | insert (key value : Bytes)

namespace IndexOp

def key : IndexOp → Bytes
  | put r => r.hash
  | insert key _ => key

def value : IndexOp → Bytes
  | put r => r.encode
  | insert _ value => value

end IndexOp

def firstWriter (ops : List IndexOp) (key : Bytes) : Option IndexOp :=
  ops.find? fun op => op.key == key

namespace SwapIndex

def empty (network : Network) : SwapIndex := ⟨network, []⟩

def apply (ix : SwapIndex) : IndexOp → SwapIndex
  | .put r =>
    match ix.put r with
    | .ok ix' => ix'
    | .error _ => ix
  | .insert key value => (ix.insertIfAbsent key value).1

def run (ix : SwapIndex) (ops : List IndexOp) : SwapIndex := ops.foldl apply ix

def written (k v key : Bytes) : Option Bytes := if k = key then some v else none

section Store

variable {ix : SwapIndex} {k v key h : Bytes}

theorem lookup_insertIfAbsent (ix : SwapIndex) (k v key : Bytes) :
    (ix.insertIfAbsent k v).1.lookup key = (ix.lookup key).or (written k v key) := by
  unfold insertIfAbsent
  by_cases taken : (ix.lookup k).isSome
  · simp only [taken, if_true]
    by_cases same : k = key
    · subst same
      obtain ⟨w, found⟩ := Option.isSome_iff_exists.mp taken
      simp [found]
    · simp [written, same]
  · simp only [taken, Bool.false_eq_true, if_false]
    simp only [lookup, written, List.find?_append, List.find?_singleton, beq_iff_eq]
    -- the earlier entries have no `key` exactly when the appended one is the first to have it
    cases ix.entries.find? (fun e => e.1 == key) with
    | some e => rfl
    | none => split <;> rfl

theorem insertIfAbsent_of_taken (taken : (ix.lookup k).isSome) :
    ix.insertIfAbsent k v = (ix, false) := by
  simp [insertIfAbsent, taken]

theorem lookup_of_entries_append {ix' : SwapIndex} {added : List (Bytes × Bytes)}
    (appended : ix'.entries = ix.entries ++ added) (stored : ix.lookup key = some v) :
    ix'.lookup key = some v := by
  obtain ⟨e, found, rfl⟩ := Option.map_eq_some_iff.mp stored
  simp [lookup, appended, List.find?_append, found]

theorem network_insertIfAbsent (ix : SwapIndex) (k v : Bytes) :
    (ix.insertIfAbsent k v).1.network = ix.network := by
  unfold insertIfAbsent
  split <;> rfl

end Store

section Put

variable {ix : SwapIndex} {r : SwapRecord}

theorem put_of_taken (taken : (ix.lookup r.hash).isSome) :
    ∃ msg, ix.put r = .error (.raise .duplicateSwap msg) := by
  simp [put, insertIfAbsent, taken]

theorem put_of_free (free : ix.lookup r.hash = none) :
    ix.put r = .ok (ix.insertIfAbsent r.hash r.encode).1 := by
  simp [put, insertIfAbsent, free]

theorem put_eq_error_iff : (∃ e, ix.put r = .error e) ↔ (ix.lookup r.hash).isSome := by
  constructor
  · rintro ⟨e, refused⟩
    by_contra free
    rw [put_of_free (Option.not_isSome_iff_eq_none.mp free)] at refused
    cases refused
  · intro taken
    obtain ⟨msg, refused⟩ := put_of_taken taken
    exact ⟨_, refused⟩

theorem put_eq_ok {ix' : SwapIndex} :
    ix.put r = .ok ix' ↔
      ix.lookup r.hash = none ∧ ix' = { ix with entries := ix.entries ++ [(r.hash, r.encode)] } := by
  cases free : ix.lookup r.hash with
  | none => simp [put_of_free free, insertIfAbsent, free, eq_comm]
  | some v =>
    have taken : (ix.lookup r.hash).isSome := by simp [free]
    obtain ⟨msg, refused⟩ := put_of_taken taken
    simp [refused]

theorem lookup_of_put_eq_ok {ix' : SwapIndex} (stored : ix.put r = .ok ix') :
    ix'.lookup r.hash = some r.encode := by
  obtain ⟨free, rfl⟩ := put_eq_ok.mp stored
  simp only [lookup, Option.map_eq_none_iff] at free ⊢
  simp [List.find?_append, free]

theorem apply_eq (ix : SwapIndex) (op : IndexOp) :
    ix.apply op = (ix.insertIfAbsent op.key op.value).1 := by
  -- a refused put is the store's insert under a taken key, which keeps the index
  cases op with
  | put r =>
    by_cases taken : (ix.lookup r.hash).isSome
    · obtain ⟨msg, refused⟩ := put_of_taken taken
      simp [apply, refused, insertIfAbsent_of_taken taken, IndexOp.key]
    · simp [apply, put_of_free (Option.not_isSome_iff_eq_none.mp taken), IndexOp.key,
        IndexOp.value]
  | insert k v => rfl

end Put

section Runs

theorem lookup_apply (ix : SwapIndex) (op : IndexOp) (key : Bytes) :
    (ix.apply op).lookup key = (ix.lookup key).or (written op.key op.value key) := by
  rw [apply_eq, lookup_insertIfAbsent]

theorem run_cons (ix : SwapIndex) (op : IndexOp) (ops : List IndexOp) :
    ix.run (op :: ops) = (ix.apply op).run ops := rfl

theorem lookup_run (ix : SwapIndex) (ops : List IndexOp) (key : Bytes) :
    (ix.run ops).lookup key = (ix.lookup key).or ((firstWriter ops key).map IndexOp.value) := by
  induction ops generalizing ix with
  | nil => simp [run, firstWriter]
  | cons op ops ih =>
    rw [run_cons, ih, lookup_apply, Option.or_assoc]
    by_cases same : op.key = key
    · simp [firstWriter, written, same]
    · simp [firstWriter, written, same]

example : ((empty .regtest).run [.insert [1] [2], .insert [1] [3]]).lookup [1] = some [2] := by
  decide

theorem network_run (ix : SwapIndex) (ops : List IndexOp) : (ix.run ops).network = ix.network := by
  induction ops generalizing ix with
  | nil => rfl
  | cons op ops ih => rw [run_cons, ih, apply_eq, network_insertIfAbsent]

end Runs

section Get

variable {ix : SwapIndex} {h value : Bytes} {e : Error}

theorem decode_error_kind (failed : ix.decode value = .error e) : e.kind = .store := by
  unfold decode at failed
  split at failed
  · cases failed
  · cases failed
    rfl

theorem get_of_lookup_none (free : ix.lookup h = none) :
    ∃ msg, ix.get h = .error (.raise .notFound msg) := by
  simp only [get, free]
  exact ⟨_, rfl⟩

theorem get_error_kind_of_lookup_some (stored : ix.lookup h = some value)
    (failed : ix.get h = .error e) : e.kind = .store := by
  -- the value found either does not read, or reads as the record of another hash
  cases decoded : ix.decode value with
  | error e' =>
    simp only [get, stored, decoded, bind, Except.bind] at failed
    cases failed
    exact decode_error_kind decoded
  | ok r =>
    simp only [get, stored, decoded, bind, Except.bind] at failed
    split at failed
    · cases failed
      rfl
    · cases failed

theorem get_notFound_iff :
    (∃ e, ix.get h = .error e ∧ e.kind = .notFound) ↔ ix.lookup h = none := by
  constructor
  · rintro ⟨e, failed, kind⟩
    cases stored : ix.lookup h with
    | none => rfl
    | some value =>
      rw [get_error_kind_of_lookup_some stored failed] at kind
      cases kind
  · intro free
    obtain ⟨msg, refused⟩ := get_of_lookup_none free
    exact ⟨_, refused, rfl⟩

theorem get_of_lookup_encode {r : SwapRecord} (valid : r.params.Valid) (created : r.creationHeight < 2 ^ 32) (net : r.network = ix.network)
    (stored : ix.lookup r.hash = some r.encode) : ix.get r.hash = .ok r := by
  have decoded : ix.decode r.encode = .ok r := by
    rw [decode, ← net, SwapRecord.decode_encode valid created]
  simp [get, stored, decoded, bind, Except.bind, pure, Except.pure]

end Get

end SwapIndex

theorem SwapRecord.Made.creationHeight_lt {r : SwapRecord} (made : r.Made) :
    r.creationHeight < 2 ^ 32 := by
  have bounded := SwapParams.lockTimeThreshold_lt
  have locked : r.params.lockHeight < lockTimeThreshold := made.lockHeight_lt
  obtain ⟨_, -, built⟩ := made
  have before := (SwapRecord.make_eq_ok.mp built).1
  omega

theorem SwapRecord.Made.valid {r : SwapRecord} (made : r.Made) : r.params.Valid := by
  obtain ⟨_, params, -⟩ := made
  obtain ⟨late, below, -⟩ := SwapParams.make_eq_ok.mp params
  exact ⟨Nat.zero_lt_of_lt late, below⟩

/-- The swap index is written once per key and reads back the records put in it. -/
theorem swap_index_first_write_wins (network : Network) (ops : List IndexOp) :
    let ix := (SwapIndex.empty network).run ops
    (∀ key, ix.lookup key = (firstWriter ops key).map IndexOp.value) ∧
    (∀ r : SwapRecord, ((∃ e, ix.put r = .error e) ↔ (firstWriter ops r.hash).isSome) ∧
      ∀ e, ix.put r = .error e →
        e.kind = .duplicateSwap ∧ ix.insertIfAbsent r.hash r.encode = (ix, false)) ∧
    (∀ h, ix.contains h = (firstWriter ops h).isSome) ∧
    (∀ h, (∃ e, ix.get h = .error e ∧ e.kind = .notFound) ↔ firstWriter ops h = none) ∧
    (∀ r : SwapRecord, r.Made → r.network = network → firstWriter ops r.hash = some (.put r) →
        ix.get r.hash = .ok r) := by
  intro ix
  have stored : ∀ key, ix.lookup key = (firstWriter ops key).map IndexOp.value := fun key =>
    (SwapIndex.lookup_run (SwapIndex.empty network) ops key).trans Option.none_or
  refine ⟨stored, fun r => ⟨?_, ?_⟩, fun h => ?_, fun h => ?_, ?_⟩
  · rw [SwapIndex.put_eq_error_iff, stored, Option.isSome_map]
  · intro e refused
    have taken := SwapIndex.put_eq_error_iff.mp ⟨e, refused⟩
    obtain ⟨msg, duplicate⟩ := SwapIndex.put_of_taken taken
    rw [refused] at duplicate
    cases duplicate
    exact ⟨rfl, SwapIndex.insertIfAbsent_of_taken taken⟩
  · rw [SwapIndex.contains, stored, Option.isSome_map]
  · rw [SwapIndex.get_notFound_iff, stored, Option.map_eq_none_iff]
  · intro r made net first
    have sameNetwork : r.network = ix.network := by
      rw [net, SwapIndex.network_run]
      rfl
    refine SwapIndex.get_of_lookup_encode made.valid made.creationHeight_lt sameNetwork ?_
    rw [stored, first]
    rfl

end SubmarineSwap
