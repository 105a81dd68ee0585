import Mathlib
import SubmarineSwap.Server.Broker

namespace SubmarineSwap.Server

namespace Broker

variable {α : Type}

def queueOf (b : Broker α) (id : Nat) : List α :=
  ((b.queues.find? (·.1 == id)).map (·.2)).getD []

def deliverTo (b : Broker α) (event : α) (entry : Nat × List α) : Nat × List α :=
  if entry.1 ∈ b.registered ∧ entry.2.length < b.capacity then (entry.1, entry.2 ++ [event])
  else entry

def leaveRest (id : Nat) (rest : List α) (entry : Nat × List α) : Nat × List α :=
  if entry.1 = id then (entry.1, rest) else entry

@[simp] theorem deliverTo_fst (b : Broker α) (event : α) (entry : Nat × List α) :
    (b.deliverTo event entry).1 = entry.1 := by
  unfold deliverTo
  split <;> rfl

@[simp] theorem leaveRest_fst (id : Nat) (rest : List α) (entry : Nat × List α) :
    (leaveRest id rest entry).1 = entry.1 := by
  unfold leaveRest
  split <;> rfl

def enroll (b : Broker α) : Broker α :=
  { b with
    nextId := b.nextId + 1, registered := b.registered ++ [b.nextId],
    queues := b.queues ++ [(b.nextId, [])] }

@[simp] theorem enroll_capacity (b : Broker α) : b.enroll.capacity = b.capacity := rfl
@[simp] theorem enroll_nextId (b : Broker α) : b.enroll.nextId = b.nextId + 1 := rfl
@[simp] theorem enroll_registered (b : Broker α) : b.enroll.registered = b.registered ++ [b.nextId] := rfl
@[simp] theorem enroll_queues (b : Broker α) : b.enroll.queues = b.queues ++ [(b.nextId, [])] := rfl
@[simp] theorem enroll_stopped (b : Broker α) : b.enroll.stopped = b.stopped := rfl

@[simp] theorem cancel_capacity (b : Broker α) (id : Nat) : (b.cancel id).capacity = b.capacity := rfl
@[simp] theorem cancel_nextId (b : Broker α) (id : Nat) : (b.cancel id).nextId = b.nextId := rfl
@[simp] theorem cancel_stopped (b : Broker α) (id : Nat) : (b.cancel id).stopped = b.stopped := rfl
@[simp] theorem mem_cancel_registered (b : Broker α) (id id' : Nat) :
    id' ∈ (b.cancel id).registered ↔ id' ∈ b.registered ∧ id' ≠ id := by
  simp [cancel]

@[simp] theorem stop_capacity (b : Broker α) : b.stop.capacity = b.capacity := rfl
@[simp] theorem stop_nextId (b : Broker α) : b.stop.nextId = b.nextId := rfl
@[simp] theorem stop_stopped (b : Broker α) : b.stop.stopped = true := rfl
@[simp] theorem stop_registered (b : Broker α) : b.stop.registered = [] := rfl

theorem create_eq_ok {k : Nat} {b : Broker α} : create k = .ok b ↔ k ≠ 0 ∧ b = { capacity := k } := by
  unfold create
  by_cases zero : k = 0 <;> simp [zero, eq_comm]

theorem subscribe_eq (b : Broker α) :
    b.subscribe = if b.stopped then .error stoppedError else .ok (b.nextId, b.enroll) := rfl

theorem broadcast_eq (b : Broker α) (event : α) :
    b.broadcast event = if b.stopped then .error stoppedError else
      .ok { b with queues := b.queues.map (b.deliverTo event) } := rfl

section Queues

variable {b : Broker α} {id id' : Nat} {event : α}

theorem queueOf_of_find? {entry : Nat × List α} (found : b.queues.find? (·.1 == id) = some entry) :
    entry.1 = id ∧ queueOf b id = entry.2 := by
  refine ⟨by simpa using List.find?_some found, by simp [queueOf, found]⟩

theorem queueOf_of_find?_none (missing : b.queues.find? (·.1 == id) = none) : queueOf b id = [] := by
  simp [queueOf, missing]

theorem find?_map_of_keeps {f : Nat × List α → Nat × List α} (keeps : ∀ entry, (f entry).1 = entry.1)
    (qs : List (Nat × List α)) : (qs.map f).find? (·.1 == id) = (qs.find? (·.1 == id)).map f := by
  rw [List.find?_map]
  simp only [Function.comp_def, keeps]

theorem queueOf_enroll (b : Broker α) (id : Nat) : queueOf b.enroll id = queueOf b id := by
  unfold queueOf enroll
  cases found : b.queues.find? (·.1 == id) with
  | some entry => simp [List.find?_append, found]
  | none => by_cases fresh : b.nextId = id <;> simp [List.find?_append, found, fresh]

theorem queueOf_deliverTo_of_room (queued : ∃ q, (id, q) ∈ b.queues) (registered : id ∈ b.registered)
    (room : (queueOf b id).length < b.capacity) :
    queueOf { b with queues := b.queues.map (b.deliverTo event) } id = queueOf b id ++ [event] := by
  obtain ⟨q, member⟩ := queued
  cases found : b.queues.find? (·.1 == id) with
  | none => exact absurd (List.find?_eq_none.mp found _ member) (by simp)
  | some entry =>
    obtain ⟨key, current⟩ := queueOf_of_find? found
    rw [current] at room ⊢
    simp only [queueOf, find?_map_of_keeps (deliverTo_fst b event), found, Option.map_some,
      Option.getD_some]
    rw [deliverTo, if_pos ⟨key ▸ registered, room⟩]

theorem queueOf_deliverTo_of_skip (skip : id ∉ b.registered ∨ b.capacity ≤ (queueOf b id).length) :
    queueOf { b with queues := b.queues.map (b.deliverTo event) } id = queueOf b id := by
  cases found : b.queues.find? (·.1 == id) with
  | none => simp [queueOf, find?_map_of_keeps (deliverTo_fst b event), found]
  | some entry =>
    obtain ⟨key, current⟩ := queueOf_of_find? found
    rw [current] at skip ⊢
    simp only [queueOf, find?_map_of_keeps (deliverTo_fst b event), found, Option.map_some,
      Option.getD_some]
    rw [deliverTo, if_neg]
    rintro ⟨registered, room⟩
    rcases skip with unregistered | full
    · exact unregistered (key ▸ registered)
    · omega

theorem tryRecv_of_nil (empty : queueOf b id = []) : b.tryRecv id = (none, b) := by
  unfold tryRecv
  cases found : b.queues.find? (·.1 == id) with
  | none => rfl
  | some entry =>
    obtain ⟨k, q⟩ := entry
    rw [(queueOf_of_find? found).2] at empty
    subst empty
    rfl

theorem tryRecv_of_cons {e : α} {rest : List α} (held : queueOf b id = e :: rest) :
    b.tryRecv id = (some e, { b with queues := b.queues.map (leaveRest id rest) }) := by
  unfold tryRecv
  cases found : b.queues.find? (·.1 == id) with
  | none => rw [queueOf_of_find?_none found] at held; cases held
  | some entry =>
    obtain ⟨k, q⟩ := entry
    rw [(queueOf_of_find? found).2] at held
    subst held
    rfl

theorem tryRecv_fst (b : Broker α) (id : Nat) : (b.tryRecv id).1 = (queueOf b id).head? := by
  cases held : queueOf b id with
  | nil => rw [tryRecv_of_nil held]; rfl
  | cons e rest => rw [tryRecv_of_cons held]; rfl

theorem tryRecv_snd (b : Broker α) (id : Nat) : ∃ qs, (b.tryRecv id).2 = { b with queues := qs } := by
  cases held : queueOf b id with
  | nil => exact ⟨b.queues, by rw [tryRecv_of_nil held]⟩
  | cons e rest => exact ⟨_, by rw [tryRecv_of_cons held]⟩

@[simp] theorem tryRecv_capacity (b : Broker α) (id : Nat) :
    (b.tryRecv id).2.capacity = b.capacity := by
  obtain ⟨qs, taken⟩ := tryRecv_snd b id
  rw [taken]

@[simp] theorem tryRecv_nextId (b : Broker α) (id : Nat) : (b.tryRecv id).2.nextId = b.nextId := by
  obtain ⟨qs, taken⟩ := tryRecv_snd b id
  rw [taken]

@[simp] theorem tryRecv_registered (b : Broker α) (id : Nat) :
    (b.tryRecv id).2.registered = b.registered := by
  obtain ⟨qs, taken⟩ := tryRecv_snd b id
  rw [taken]

theorem queueOf_tryRecv_self (b : Broker α) (id : Nat) :
    queueOf (b.tryRecv id).2 id = (queueOf b id).tail := by
  cases held : queueOf b id with
  | nil => rw [tryRecv_of_nil held, held]; rfl
  | cons e rest =>
    rw [tryRecv_of_cons held]
    obtain ⟨entry, found⟩ : ∃ entry, b.queues.find? (·.1 == id) = some entry := by
      cases found : b.queues.find? (·.1 == id) with
      | none => rw [queueOf_of_find?_none found] at held; cases held
      | some entry => exact ⟨entry, rfl⟩
    obtain ⟨key, -⟩ := queueOf_of_find? found
    simp [queueOf, find?_map_of_keeps (leaveRest_fst id rest), found, leaveRest, key]

theorem queueOf_tryRecv_of_ne (b : Broker α) (other : id' ≠ id) :
    queueOf (b.tryRecv id).2 id' = queueOf b id' := by
  cases held : queueOf b id with
  | nil => rw [tryRecv_of_nil held]
  | cons e rest =>
    rw [tryRecv_of_cons held]
    cases found : b.queues.find? (·.1 == id') with
    | none => simp [queueOf, find?_map_of_keeps (leaveRest_fst id rest), found]
    | some entry =>
      obtain ⟨key, current⟩ := queueOf_of_find? found
      simp [queueOf, find?_map_of_keeps (leaveRest_fst id rest), found, leaveRest, key, other]

theorem queueOf_cancel_self (b : Broker α) (id : Nat) : queueOf (b.cancel id) id = [] := by
  have gone : (b.cancel id).queues.find? (·.1 == id) = none :=
    List.find?_eq_none.mpr fun entry member => by simpa using (List.mem_filter.mp member).2
  exact queueOf_of_find?_none gone

theorem queueOf_cancel_of_ne (b : Broker α) (other : id' ≠ id) :
    queueOf (b.cancel id) id' = queueOf b id' := by
  have same : (b.cancel id).queues.find? (·.1 == id') = b.queues.find? (·.1 == id') := by
    simp only [cancel, List.find?_filter]
    congr 1
    funext entry
    by_cases key : entry.1 = id' <;> simp [key, other]
  simp only [queueOf, same]

@[simp] theorem queueOf_stop (b : Broker α) (id : Nat) : queueOf b.stop id = queueOf b id := rfl

end Queues

/-- What every broker `create` makes keeps: ids below the next one, a queue for every registered
subscription, no queue over capacity, and nothing registered once stopped. -/
structure Sound (b : Broker α) : Prop where
  below : ∀ entry ∈ b.queues, entry.1 < b.nextId
  queued : ∀ id ∈ b.registered, ∃ q, (id, q) ∈ b.queues
  bounded : ∀ entry ∈ b.queues, entry.2.length ≤ b.capacity
  quiet : b.stopped = true → b.registered = []

namespace Sound

variable {b : Broker α}

theorem create {k : Nat} (created : create k = .ok b) : b.Sound := by
  obtain ⟨-, rfl⟩ := create_eq_ok.mp created
  exact ⟨by simp, by simp, by simp, by simp⟩

theorem queueOf_of_le (sound : b.Sound) {id : Nat} (fresh : b.nextId ≤ id) : queueOf b id = [] := by
  cases found : b.queues.find? (·.1 == id) with
  | none => exact queueOf_of_find?_none found
  | some entry =>
    have key := (queueOf_of_find? found).1
    have := sound.below entry (List.mem_of_find?_eq_some found)
    omega

theorem enroll (sound : b.Sound) (running : b.stopped = false) : b.enroll.Sound where
  below entry member := by
    rw [enroll_queues, List.mem_append, List.mem_singleton] at member
    rw [enroll_nextId]
    rcases member with old | rfl
    · exact Nat.lt_succ_of_lt (sound.below entry old)
    · exact Nat.lt_succ_self _
  queued id member := by
    rw [enroll_registered, List.mem_append, List.mem_singleton] at member
    rw [enroll_queues]
    rcases member with old | rfl
    · obtain ⟨q, held⟩ := sound.queued id old
      exact ⟨q, List.mem_append_left _ held⟩
    · exact ⟨[], List.mem_append_right _ (List.mem_singleton_self _)⟩
  bounded entry member := by
    rw [enroll_queues, List.mem_append, List.mem_singleton] at member
    rcases member with old | rfl
    · exact sound.bounded entry old
    · exact Nat.zero_le _
  quiet stopped := by simp [running] at stopped

theorem deliverTo (sound : b.Sound) (event : α) :
    Sound { b with queues := b.queues.map (b.deliverTo event) } where
  below entry member := by
    obtain ⟨old, held, rfl⟩ := List.mem_map.mp member
    simpa using sound.below old held
  queued id member := by
    obtain ⟨q, held⟩ := sound.queued id member
    exact ⟨(b.deliverTo event (id, q)).2,
      List.mem_map.mpr ⟨(id, q), held, Prod.ext (deliverTo_fst b event (id, q)) rfl⟩⟩
  bounded entry member := by
    obtain ⟨old, held, rfl⟩ := List.mem_map.mp member
    have within := sound.bounded old held
    unfold Broker.deliverTo
    split
    · next room => simpa using room.2
    · exact within
  quiet := sound.quiet

theorem leaveRest (sound : b.Sound) {id : Nat} {e : α} {rest : List α} (held : queueOf b id = e :: rest) :
    Sound { b with queues := b.queues.map (leaveRest id rest) } where
  below entry member := by
    obtain ⟨old, held, rfl⟩ := List.mem_map.mp member
    simpa using sound.below old held
  queued id' member := by
    obtain ⟨q, held⟩ := sound.queued id' member
    exact ⟨(Broker.leaveRest id rest (id', q)).2,
      List.mem_map.mpr ⟨(id', q), held, Prod.ext (leaveRest_fst id rest (id', q)) rfl⟩⟩
  bounded entry member := by
    obtain ⟨old, member', rfl⟩ := List.mem_map.mp member
    unfold Broker.leaveRest
    split
    · -- the queue left behind is the tail of a queue within capacity
      obtain ⟨entry, found⟩ : ∃ entry, b.queues.find? (·.1 == id) = some entry := by
        cases found : b.queues.find? (·.1 == id) with
        | none => rw [queueOf_of_find?_none found] at held; cases held
        | some entry => exact ⟨entry, rfl⟩
      have within := sound.bounded entry (List.mem_of_find?_eq_some found)
      rw [← (queueOf_of_find? found).2, held] at within
      simp only [List.length_cons] at within
      simp only
      omega
    · exact sound.bounded old member'
  quiet := sound.quiet

theorem tryRecv (sound : b.Sound) (id : Nat) : (b.tryRecv id).2.Sound := by
  cases held : queueOf b id with
  | nil => rwa [tryRecv_of_nil held]
  | cons e rest =>
    rw [tryRecv_of_cons held]
    exact sound.leaveRest held

theorem cancel (sound : b.Sound) (id : Nat) : (b.cancel id).Sound where
  below entry member := sound.below entry (List.mem_filter.mp member).1
  queued id' member := by
    obtain ⟨registered, other⟩ := List.mem_filter.mp member
    obtain ⟨q, held⟩ := sound.queued id' registered
    exact ⟨q, List.mem_filter.mpr ⟨held, other⟩⟩
  bounded entry member := sound.bounded entry (List.mem_filter.mp member).1
  quiet stopped := by
    simp only [Broker.cancel, sound.quiet stopped, List.filter_nil]

theorem stop (sound : b.Sound) : b.stop.Sound where
  below := sound.below
  queued id member := by simp [Broker.stop] at member
  bounded := sound.bounded
  quiet _ := rfl

end Sound

inductive Op (α : Type) where
  | subscribe
  | broadcast (event : α)
  | tryRecv (id : Nat)
  | cancel (id : Nat)
  | stop

inductive Reply (α : Type) where
  | subscribed (result : Except Error Nat)
  | broadcasted (result : Except Error Unit)
  | received (event : Option α)
  | done

/-- One operation: its reply, and the broker after it. A refused subscribe or broadcast leaves
the broker as it was. -/
def apply (b : Broker α) : Op α → Reply α × Broker α
  | .subscribe =>
    match b.subscribe with
    | .ok (id, b') => (.subscribed (.ok id), b')
    | .error e => (.subscribed (.error e), b)
  | .broadcast event =>
    match b.broadcast event with
    | .ok b' => (.broadcasted (.ok ()), b')
    | .error e => (.broadcasted (.error e), b)
  | .tryRecv id => (.received (b.tryRecv id).1, (b.tryRecv id).2)
  | .cancel id => (.done, b.cancel id)
  | .stop => (.done, b.stop)

@[simp] theorem apply_tryRecv (b : Broker α) (id : Nat) :
    b.apply (.tryRecv id) = (.received (b.tryRecv id).1, (b.tryRecv id).2) := rfl

@[simp] theorem apply_cancel (b : Broker α) (id : Nat) : b.apply (.cancel id) = (.done, b.cancel id) :=
  rfl

@[simp] theorem apply_stop (b : Broker α) : b.apply .stop = (.done, b.stop) := rfl

structure Step (α : Type) where
  before : Broker α
  op : Op α
  reply : Reply α

def trace (b : Broker α) : List (Op α) → List (Step α)
  | [] => []
  | op :: ops => ⟨b, op, (b.apply op).1⟩ :: trace (b.apply op).2 ops

def run (b : Broker α) : List (Op α) → Broker α
  | [] => b
  | op :: ops => run (b.apply op).2 ops

namespace Step

def subscribedId (st : Step α) : Option Nat :=
  match st.reply with
  | .subscribed (.ok id) => some id
  | _ => none

def replyTo (id : Nat) (st : Step α) : Option (Option α) :=
  match st.op, st.reply with
  | .tryRecv id', .received event => if id' = id then some event else none
  | _, _ => none

def takenBy (id : Nat) (st : Step α) : Option α := (st.replyTo id).join

def offeredTo (id : Nat) (st : Step α) : Option α :=
  match st.op, st.reply with
  | .broadcast event, .broadcasted (.ok ()) => if id ∈ st.before.registered then some event else none
  | _, _ => none

def deliveredTo (id : Nat) (st : Step α) : Option α :=
  match st.op, st.reply with
  | .broadcast event, .broadcasted (.ok ()) =>
    if id ∈ st.before.registered ∧ (queueOf st.before id).length < st.before.capacity then some event
    else none
  | _, _ => none

theorem offeredTo_of_deliveredTo {st : Step α} {id : Nat} {event : α}
    (delivered : st.deliveredTo id = some event) : st.offeredTo id = some event := by
  obtain ⟨b, op, reply⟩ := st
  unfold deliveredTo at delivered
  unfold offeredTo
  split at delivered
  · split at delivered
    · next room => simpa [room.1] using delivered
    · cases delivered
  · cases delivered

end Step

@[simp] theorem trace_nil (b : Broker α) : b.trace [] = [] := rfl

@[simp] theorem trace_cons (b : Broker α) (op : Op α) (ops : List (Op α)) :
    b.trace (op :: ops) = ⟨b, op, (b.apply op).1⟩ :: (b.apply op).2.trace ops := rfl

@[simp] theorem run_nil (b : Broker α) : b.run [] = b := rfl

@[simp] theorem run_cons (b : Broker α) (op : Op α) (ops : List (Op α)) :
    b.run (op :: ops) = (b.apply op).2.run ops := rfl

theorem run_append (b : Broker α) (ops ops' : List (Op α)) :
    b.run (ops ++ ops') = (b.run ops).run ops' := by
  induction ops generalizing b with
  | nil => rfl
  | cons op ops ih => exact ih _

theorem filterMap_cons_eq_toList_append {β γ : Type} (f : β → Option γ) (x : β) (l : List β) :
    (x :: l).filterMap f = (f x).toList ++ l.filterMap f := by
  cases h : f x <;> simp [h]

open List in
theorem filterMap_sublist_filterMap {β γ : Type} {f g : β → Option γ}
    (refines : ∀ x a, f x = some a → g x = some a) : ∀ l : List β, l.filterMap f <+ l.filterMap g
  | [] => .slnil
  | x :: l => by
    rw [filterMap_cons_eq_toList_append, filterMap_cons_eq_toList_append]
    cases h : f x with
    | none => exact (filterMap_sublist_filterMap refines l).trans (List.sublist_append_right _ _)
    | some a => simpa [refines x a h] using filterMap_sublist_filterMap refines l

section Apply

variable {b : Broker α}

theorem apply_subscribe_of_stopped (stopped : b.stopped = true) :
    b.apply .subscribe = (.subscribed (.error stoppedError), b) := by
  simp [Broker.apply, subscribe_eq, stopped]

theorem apply_subscribe_of_running (running : b.stopped = false) :
    b.apply .subscribe = (.subscribed (.ok b.nextId), b.enroll) := by
  simp [Broker.apply, subscribe_eq, running]

theorem apply_broadcast_of_stopped (stopped : b.stopped = true) (event : α) :
    b.apply (.broadcast event) = (.broadcasted (.error stoppedError), b) := by
  simp [Broker.apply, broadcast_eq, stopped]

theorem apply_broadcast_of_running (running : b.stopped = false) (event : α) :
    b.apply (.broadcast event) =
      (.broadcasted (.ok ()), { b with queues := b.queues.map (b.deliverTo event) }) := by
  simp [Broker.apply, broadcast_eq, running]

theorem Sound.apply (sound : b.Sound) (op : Op α) : (b.apply op).2.Sound := by
  cases op with
  | subscribe =>
    cases running : b.stopped
    · rw [apply_subscribe_of_running running]
      exact sound.enroll running
    · rwa [apply_subscribe_of_stopped running]
  | broadcast event =>
    cases running : b.stopped
    · rw [apply_broadcast_of_running running]
      exact sound.deliverTo event
    · rwa [apply_broadcast_of_stopped running]
  | tryRecv id => exact sound.tryRecv id
  | cancel id => exact sound.cancel id
  | stop => exact sound.stop

theorem Sound.run (sound : b.Sound) (ops : List (Op α)) : (b.run ops).Sound := by
  induction ops generalizing b with
  | nil => exact sound
  | cons op ops ih => exact ih (sound.apply op)

@[simp] theorem capacity_apply (b : Broker α) (op : Op α) : (b.apply op).2.capacity = b.capacity := by
  cases op with
  | subscribe => cases running : b.stopped <;> simp [apply_subscribe_of_running,
      apply_subscribe_of_stopped, running]
  | broadcast event => cases running : b.stopped <;> simp [apply_broadcast_of_running,
      apply_broadcast_of_stopped, running]
  | tryRecv id => simp
  | cancel id => rfl
  | stop => rfl

theorem capacity_run (b : Broker α) (ops : List (Op α)) : (b.run ops).capacity = b.capacity := by
  induction ops generalizing b with
  | nil => rfl
  | cons op ops ih => rw [run_cons, ih, capacity_apply]

theorem nextId_apply (b : Broker α) (op : Op α) :
    b.nextId ≤ (b.apply op).2.nextId ∧ ∀ id, (Step.mk b op (b.apply op).1).subscribedId = some id →
      id = b.nextId ∧ (b.apply op).2.nextId = b.nextId + 1 := by
  cases op with
  | subscribe =>
    cases running : b.stopped
    · simp [apply_subscribe_of_running running, Step.subscribedId]
    · simp [apply_subscribe_of_stopped running, Step.subscribedId]
  | broadcast event =>
    cases running : b.stopped
    · simp [apply_broadcast_of_running running, Step.subscribedId]
    · simp [apply_broadcast_of_stopped running, Step.subscribedId]
  | tryRecv id => simp [Step.subscribedId]
  | cancel id => simp [Broker.apply, Step.subscribedId, Broker.cancel]
  | stop => simp [Broker.apply, Step.subscribedId, Broker.stop]

end Apply

theorem subscribedIds_increase (b : Broker α) (ops : List (Op α)) :
    (∀ id ∈ (b.trace ops).filterMap Step.subscribedId, b.nextId ≤ id) ∧
      ((b.trace ops).filterMap Step.subscribedId).Pairwise (· < ·) := by
  induction ops generalizing b with
  | nil => simp
  | cons op ops ih =>
    obtain ⟨grows, gives⟩ := nextId_apply b op
    obtain ⟨later, increasing⟩ := ih (b.apply op).2
    rw [trace_cons, filterMap_cons_eq_toList_append]
    cases given : (Step.mk b op (b.apply op).1).subscribedId with
    | none =>
      exact ⟨fun id member => grows.trans (later id (by simpa using member)), by simpa using increasing⟩
    | some id =>
      obtain ⟨rfl, next⟩ := gives id given
      rw [next] at later
      refine ⟨?_, ?_⟩
      · intro id' member
        rw [Option.toList_some, List.singleton_append] at member
        rcases List.mem_cons.mp member with rfl | member
        · exact le_rfl
        · exact Nat.le_of_succ_le (later id' member)
      · exact List.pairwise_cons.mpr ⟨fun id' member => later id' member, increasing⟩

structure Gone (b : Broker α) (id : Nat) : Prop where
  given : id < b.nextId
  unregistered : id ∉ b.registered
  empty : queueOf b id = []

theorem Gone.cancel {b : Broker α} {id : Nat} (given : id < b.nextId) : Gone (b.cancel id) id :=
  ⟨given, by simp [Broker.cancel], queueOf_cancel_self b id⟩

theorem Gone.apply {b : Broker α} {id : Nat} (gone : Gone b id) (op : Op α) :
    Gone (b.apply op).2 id ∧ (Step.mk b op (b.apply op).1).takenBy id = none ∧
      (Step.mk b op (b.apply op).1).offeredTo id = none := by
  cases op with
  | subscribe =>
    cases running : b.stopped
    · rw [apply_subscribe_of_running running]
      refine ⟨⟨Nat.lt_succ_of_lt gone.given, ?_, by rw [queueOf_enroll]; exact gone.empty⟩,
        rfl, rfl⟩
      simpa [gone.unregistered] using Nat.ne_of_lt gone.given
    · rw [apply_subscribe_of_stopped running]
      exact ⟨gone, rfl, rfl⟩
  | broadcast event =>
    cases running : b.stopped
    · rw [apply_broadcast_of_running running]
      refine ⟨⟨gone.given, gone.unregistered, ?_⟩, rfl, by simp [Step.offeredTo, gone.unregistered]⟩
      rw [queueOf_deliverTo_of_skip (.inl gone.unregistered)]
      exact gone.empty
    · rw [apply_broadcast_of_stopped running]
      exact ⟨gone, rfl, rfl⟩
  | tryRecv id' =>
    by_cases same : id' = id
    · subst same
      rw [Broker.apply, tryRecv_of_nil gone.empty]
      exact ⟨gone, by simp [Step.takenBy, Step.replyTo], rfl⟩
    · refine ⟨⟨?_, ?_, ?_⟩, by simp [Step.takenBy, Step.replyTo, same], rfl⟩
      · simpa using gone.given
      · simpa using gone.unregistered
      · simpa [Broker.apply, queueOf_tryRecv_of_ne b (Ne.symm same)] using gone.empty
  | cancel id' =>
    refine ⟨⟨gone.given, by simp [Broker.cancel, gone.unregistered], ?_⟩, rfl, rfl⟩
    by_cases same : id = id'
    · subst same
      exact queueOf_cancel_self b id
    · simpa [Broker.apply, queueOf_cancel_of_ne b same] using gone.empty
  | stop => exact ⟨⟨gone.given, by simp [Broker.stop], gone.empty⟩, rfl, rfl⟩

theorem Gone.run {b : Broker α} {id : Nat} (gone : Gone b id) (ops : List (Op α)) :
    Gone (b.run ops) id ∧ (b.trace ops).filterMap (Step.takenBy id) = [] ∧
      (b.trace ops).filterMap (Step.offeredTo id) = [] := by
  induction ops generalizing b with
  | nil => exact ⟨gone, rfl, rfl⟩
  | cons op ops ih =>
    obtain ⟨next, taken, offered⟩ := gone.apply op
    obtain ⟨last, takenRest, offeredRest⟩ := ih next
    simp [taken, offered, takenRest, offeredRest, last]

section Delivery

variable {b : Broker α} {id : Nat}

theorem Sound.step_conserves (sound : b.Sound) (op : Op α) (kept : op ≠ .cancel id) :
    queueOf b id ++ ((Step.mk b op (b.apply op).1).deliveredTo id).toList =
      ((Step.mk b op (b.apply op).1).takenBy id).toList ++ queueOf (b.apply op).2 id := by
  cases op with
  | subscribe =>
    cases running : b.stopped
    · simp [apply_subscribe_of_running running, Step.deliveredTo, Step.takenBy, Step.replyTo,
        queueOf_enroll]
    · simp [apply_subscribe_of_stopped running, Step.deliveredTo, Step.takenBy, Step.replyTo]
  | broadcast event =>
    cases running : b.stopped
    · rw [apply_broadcast_of_running running]
      by_cases room : id ∈ b.registered ∧ (queueOf b id).length < b.capacity
      · rw [queueOf_deliverTo_of_room (sound.queued id room.1) room.1 room.2]
        simp [Step.deliveredTo, Step.takenBy, Step.replyTo, room]
      · have skip : id ∉ b.registered ∨ b.capacity ≤ (queueOf b id).length := by
          by_cases registered : id ∈ b.registered
          · exact .inr (Nat.le_of_not_lt fun fits => room ⟨registered, fits⟩)
          · exact .inl registered
        rw [queueOf_deliverTo_of_skip skip]
        simp [Step.deliveredTo, Step.takenBy, Step.replyTo, room]
    · simp [apply_broadcast_of_stopped running, Step.deliveredTo, Step.takenBy, Step.replyTo]
  | tryRecv id' =>
    by_cases same : id' = id
    · subst same
      simp only [Broker.apply, Step.deliveredTo, Step.takenBy, Step.replyTo, tryRecv_fst,
        queueOf_tryRecv_self, if_pos, Option.join_some, Option.toList_none, List.append_nil]
      cases queueOf b id' <;> rfl
    · simp [Broker.apply, Step.deliveredTo, Step.takenBy, Step.replyTo, same,
        queueOf_tryRecv_of_ne b (Ne.symm same)]
  | cancel id' =>
    have other : id ≠ id' := fun same => kept (same ▸ rfl)
    simp [Broker.apply, Step.deliveredTo, Step.takenBy, Step.replyTo, queueOf_cancel_of_ne b other]
  | stop => simp [Broker.apply, Step.deliveredTo, Step.takenBy, Step.replyTo]

theorem Sound.run_conserves (sound : b.Sound) (ops : List (Op α)) (kept : .cancel id ∉ ops) :
    queueOf b id ++ (b.trace ops).filterMap (Step.deliveredTo id) =
      (b.trace ops).filterMap (Step.takenBy id) ++ queueOf (b.run ops) id := by
  induction ops generalizing b with
  | nil => simp
  | cons op ops ih =>
    have first := sound.step_conserves op fun cancels => kept (cancels ▸ List.mem_cons_self)
    have rest := ih (sound.apply op) fun cancels => kept (List.mem_cons_of_mem _ cancels)
    let st : Step α := ⟨b, op, (b.apply op).1⟩
    rw [trace_cons, run_cons, filterMap_cons_eq_toList_append, filterMap_cons_eq_toList_append]
    calc queueOf b id ++ ((st.deliveredTo id).toList ++ ((b.apply op).2.trace ops).filterMap (Step.deliveredTo id))
        = (queueOf b id ++ (st.deliveredTo id).toList) ++
            ((b.apply op).2.trace ops).filterMap (Step.deliveredTo id) := by rw [List.append_assoc]
      _ = (st.takenBy id).toList ++ (queueOf (b.apply op).2 id ++
            ((b.apply op).2.trace ops).filterMap (Step.deliveredTo id)) := by
          rw [first, List.append_assoc]
      _ = (st.takenBy id).toList ++ (((b.apply op).2.trace ops).filterMap (Step.takenBy id) ++
            queueOf ((b.apply op).2.run ops) id) := by rw [rest]
      _ = _ := (List.append_assoc _ _ _).symm

open List in
theorem Sound.run_taken_starts_delivered (sound : b.Sound) (id : Nat) (ops : List (Op α)) :
    (b.trace ops).filterMap (Step.takenBy id) ++ queueOf (b.run ops) id <+:
      queueOf b id ++ (b.trace ops).filterMap (Step.deliveredTo id) := by
  induction ops generalizing b with
  | nil => simp
  | cons op ops ih =>
    by_cases cancels : op = .cancel id
    · subst cancels
      by_cases given : id < b.nextId
      · -- a cancelled subscription takes and holds nothing from then on
        obtain ⟨last, taken, -⟩ := (Gone.cancel given).run ops
        rw [trace_cons, run_cons, filterMap_cons_eq_toList_append]
        simp [Step.takenBy, Step.replyTo, taken, last.empty]
      · -- an id not yet given out had no queue, so cancelling it changes nothing for it
        have empty : queueOf b id = [] := sound.queueOf_of_le (Nat.le_of_not_lt given)
        have rest := ih (sound.cancel id)
        rw [queueOf_cancel_self, List.nil_append] at rest
        rw [trace_cons, run_cons, filterMap_cons_eq_toList_append, filterMap_cons_eq_toList_append,
          empty, List.nil_append]
        simpa [Step.takenBy, Step.replyTo, Step.deliveredTo] using rest
    · have first := sound.step_conserves op cancels
      have rest := ih (sound.apply op)
      rw [trace_cons, run_cons, filterMap_cons_eq_toList_append, filterMap_cons_eq_toList_append,
        ← List.append_assoc, first, List.append_assoc, List.append_assoc]
      exact (List.prefix_append_right_inj _).mpr rest

open List in
theorem delivered_sublist_offered (tr : List (Step α)) :
    tr.filterMap (Step.deliveredTo id) <+ tr.filterMap (Step.offeredTo id) :=
  filterMap_sublist_filterMap (fun _ _ => Step.offeredTo_of_deliveredTo) tr

theorem Sound.broadcast_skips_only_full (sound : b.Sound) {event : α} {b' : Broker α}
    (sent : b.broadcast event = .ok b') (registered : id ∈ b.registered) :
    (queueOf b id).length < b.capacity ∧ queueOf b' id = queueOf b id ++ [event] ∨
      (queueOf b id).length = b.capacity ∧ queueOf b' id = queueOf b id := by
  rw [broadcast_eq] at sent
  cases running : b.stopped
  · rw [running] at sent
    cases sent
    by_cases room : (queueOf b id).length < b.capacity
    · exact .inl ⟨room, queueOf_deliverTo_of_room (sound.queued id registered) registered room⟩
    · refine .inr ⟨?_, queueOf_deliverTo_of_skip (.inr (Nat.le_of_not_lt room))⟩
      -- a registered queue is never over capacity
      obtain ⟨q, held⟩ := sound.queued id registered
      cases found : b.queues.find? (·.1 == id) with
      | none => exact absurd (List.find?_eq_none.mp found _ held) (by simp)
      | some entry =>
        have within := sound.bounded entry (List.mem_of_find?_eq_some found)
        rw [← (queueOf_of_find? found).2] at within
        omega
  · rw [running] at sent
    cases sent

end Delivery

structure Halted (b : Broker α) : Prop where
  stopped : b.stopped = true
  unregistered : b.registered = []

theorem Halted.stop (b : Broker α) : Halted b.stop := ⟨rfl, rfl⟩

section Halted

variable {b : Broker α} {id : Nat}

theorem Halted.apply (halted : Halted b) (op : Op α) :
    Halted (b.apply op).2 ∧ ∀ id, op ≠ .tryRecv id → op ≠ .cancel id →
      (Step.mk b op (b.apply op).1).replyTo id = none ∧ queueOf (b.apply op).2 id = queueOf b id := by
  cases op with
  | subscribe =>
    rw [apply_subscribe_of_stopped halted.stopped]
    exact ⟨halted, fun _ _ _ => ⟨rfl, rfl⟩⟩
  | broadcast event =>
    rw [apply_broadcast_of_stopped halted.stopped]
    exact ⟨halted, fun _ _ _ => ⟨rfl, rfl⟩⟩
  | tryRecv id' =>
    refine ⟨?_, fun id other _ => ⟨?_, ?_⟩⟩
    · cases held : queueOf b id' with
      | nil => simpa [Broker.apply, tryRecv_of_nil held] using halted
      | cons e rest => exact ⟨by simp [Broker.apply, tryRecv_of_cons held, halted.stopped],
          by simp [Broker.apply, tryRecv_of_cons held, halted.unregistered]⟩
    · have : id' ≠ id := fun same => other (same ▸ rfl)
      simp [Broker.apply, Step.replyTo, this]
    · exact queueOf_tryRecv_of_ne b fun same => other (same ▸ rfl)
  | cancel id' =>
    refine ⟨⟨halted.stopped, by simp [Broker.apply, Broker.cancel, halted.unregistered]⟩,
      fun id _ other => ⟨rfl, ?_⟩⟩
    exact queueOf_cancel_of_ne b fun same => other (same ▸ rfl)
  | stop => exact ⟨Halted.stop b, fun _ _ _ => ⟨rfl, rfl⟩⟩

theorem Halted.run (halted : Halted b) (ops : List (Op α)) : Halted (b.run ops) := by
  induction ops generalizing b with
  | nil => exact halted
  | cons op ops ih => exact ih (halted.apply op).1

theorem Halted.run_drains (halted : Halted b) (ops : List (Op α)) (kept : .cancel id ∉ ops) :
    (b.trace ops).filterMap (Step.replyTo id) =
        (List.range ((b.trace ops).filterMap (Step.replyTo id)).length).map (fun i => (queueOf b id)[i]?) ∧
      queueOf (b.run ops) id = (queueOf b id).drop ((b.trace ops).filterMap (Step.replyTo id)).length := by
  induction ops generalizing b with
  | nil => simp
  | cons op ops ih =>
    obtain ⟨next, others⟩ := halted.apply op
    obtain ⟨replies, left⟩ := ih next fun cancels => kept (List.mem_cons_of_mem _ cancels)
    rw [trace_cons, run_cons, filterMap_cons_eq_toList_append]
    by_cases receives : op = .tryRecv id
    · subst receives
      -- the reply is the oldest event held, and the rest of the queue is what remains
      have reply : (Step.mk b (.tryRecv id) (b.apply (.tryRecv id)).1).replyTo id =
          some (queueOf b id)[0]? := by
        simp [Broker.apply, Step.replyTo, tryRecv_fst, List.head?_eq_getElem?]
      have rest : queueOf (b.apply (.tryRecv id)).2 id = (queueOf b id).tail :=
        queueOf_tryRecv_self b id
      rw [rest] at replies left
      rw [reply, Option.toList_some, List.singleton_append, List.length_cons, List.range_succ_eq_map,
        List.map_cons, List.map_map, left, List.drop_tail]
      refine ⟨?_, rfl⟩
      rw [replies]
      simp [Function.comp_def]
    · obtain ⟨silent, same⟩ := others id receives fun cancels => kept (cancels ▸ List.mem_cons_self)
      rw [same] at replies left
      rw [silent, Option.toList_none, List.nil_append]
      exact ⟨replies, left⟩

end Halted

/-- A stopped broker registers nothing, refuses subscribe and broadcast, and drains its queues. -/
structure StaysStopped (s : Broker α) (ops : List (Op α)) : Prop where
  refuses : ∀ n, (s.run (ops.take n)).subscriberCount = 0 ∧
    (s.run (ops.take n)).subscribe = .error stoppedError ∧
    ∀ event, (s.run (ops.take n)).broadcast event = .error stoppedError
  drains : ∀ id, .cancel id ∉ ops →
    (s.trace ops).filterMap (Step.replyTo id) =
        (List.range ((s.trace ops).filterMap (Step.replyTo id)).length).map (fun i => (queueOf s id)[i]?) ∧
      queueOf (s.run ops) id = (queueOf s id).drop ((s.trace ops).filterMap (Step.replyTo id)).length

theorem Halted.staysStopped {s : Broker α} (halted : Halted s) (ops : List (Op α)) :
    StaysStopped s ops where
  refuses n := by
    have now := halted.run (ops.take n)
    refine ⟨by simp [subscriberCount, now.unregistered], ?_, fun event => ?_⟩
    · simp [subscribe_eq, now.stopped]
    · simp [broadcast_eq, now.stopped]
  drains _ kept := halted.run_drains ops kept

open List in
/-- What every run of a broker guarantees each subscription: it takes, in order, a sublist of what
was broadcast while it was registered. -/
structure DeliversInOrder (b : Broker α) : Prop where
  ids_increase : ∀ ops, ((b.trace ops).filterMap Step.subscribedId).Pairwise (· < ·)
  cancel_keeps_others : ∀ ops id id', id' ≠ id →
    queueOf ((b.run ops).cancel id) id' = queueOf (b.run ops) id' ∧
      (id' ∈ ((b.run ops).cancel id).registered ↔ id' ∈ (b.run ops).registered)
  taken_offered : ∀ ops id,
    (b.trace ops).filterMap (Step.takenBy id) <+ (b.trace ops).filterMap (Step.offeredTo id)
  taken_in_order : ∀ ops id,
    (b.trace ops).filterMap (Step.takenBy id) ++ queueOf (b.run ops) id <+:
      (b.trace ops).filterMap (Step.deliveredTo id)
  kept_in_order : ∀ ops id, .cancel id ∉ ops →
    (b.trace ops).filterMap (Step.takenBy id) ++ queueOf (b.run ops) id =
      (b.trace ops).filterMap (Step.deliveredTo id)
  skips_only_full : ∀ ops (event : α) b', (b.run ops).broadcast event = .ok b' →
    ∀ id ∈ (b.run ops).registered,
      (queueOf (b.run ops) id).length < b.capacity ∧ queueOf b' id = queueOf (b.run ops) id ++ [event] ∨
        (queueOf (b.run ops) id).length = b.capacity ∧ queueOf b' id = queueOf (b.run ops) id
  stays_stopped : ∀ ops post, StaysStopped (b.run (ops ++ [.stop])) post

open List in
/-- Every run of a broker that `create` made delivers in order. -/
theorem broker_runs_deliver_in_order (capacity : Nat) (b : Broker α)
    (created : create capacity = .ok b) : DeliversInOrder b := by
  have sound := Sound.create created
  have empty : ∀ id, queueOf b id = [] := fun id => by
    obtain ⟨-, rfl⟩ := create_eq_ok.mp created
    rfl
  refine ⟨fun ops => (subscribedIds_increase b ops).2, ?cancel_keeps_others, ?taken_offered,
    ?taken_in_order, ?kept_in_order, ?skips_only_full, ?stays_stopped⟩
  case cancel_keeps_others =>
    intro ops id id' other
    exact ⟨queueOf_cancel_of_ne _ other, by simp [cancel, other]⟩
  case taken_offered =>
    intro ops id
    have starts := sound.run_taken_starts_delivered id ops
    rw [empty, List.nil_append] at starts
    exact ((List.prefix_append _ _).trans starts).sublist.trans (delivered_sublist_offered _)
  case taken_in_order =>
    intro ops id
    simpa [empty] using sound.run_taken_starts_delivered id ops
  case kept_in_order =>
    intro ops id kept
    simpa [empty] using (sound.run_conserves ops kept).symm
  case skips_only_full =>
    intro ops event b' sent id registered
    simpa [capacity_run] using (sound.run ops).broadcast_skips_only_full sent registered
  case stays_stopped =>
    intro ops post
    rw [run_append, run_cons, run_nil]
    exact (Halted.stop _).staysStopped post

/-- A broker of capacity two delivers in order. -/
theorem broker_of_capacity_two_delivers_in_order :
    create 2 = .ok ({ capacity := 2 } : Broker Nat) ∧ DeliversInOrder ({ capacity := 2 } : Broker Nat) :=
  ⟨rfl, broker_runs_deliver_in_order 2 _ rfl⟩

end Broker

end SubmarineSwap.Server
