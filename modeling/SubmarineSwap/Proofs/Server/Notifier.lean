import Mathlib
import SubmarineSwap.Proofs.Server.Broker
import SubmarineSwap.Server.PeerNotifier

namespace SubmarineSwap.Server

namespace Broker

variable {α : Type}

theorem trace_append (b : Broker α) (ops ops' : List (Op α)) :
    b.trace (ops ++ ops') = b.trace ops ++ (b.run ops).trace ops' := by
  induction ops generalizing b with
  | nil => rfl
  | cons op ops ih => simp [ih]

end Broker

namespace PeerNotifier

open Broker

inductive Op where
  | start
  | stop
  | subscribe
  | notify (event : PeerEvent)
  | tryRecv (id : Nat)
  | cancel (id : Nat)
  deriving DecidableEq

inductive Reply where
  | done
  | subscribed (result : Except Error Nat)
  | received (event : Option PeerEvent)

def apply (n : PeerNotifier) : Op → Reply × PeerNotifier
  | .start => (.done, n.start)
  | .stop => (.done, n.stop)
  | .subscribe =>
    match n.subscribe with
    | .ok (id, n') => (.subscribed (.ok id), n')
    | .error e => (.subscribed (.error e), n)
  | .notify event => (.done, n.notify event)
  | .tryRecv id => (.received (n.broker.tryRecv id).1, { n with broker := (n.broker.tryRecv id).2 })
  | .cancel id => (.done, { n with broker := n.broker.cancel id })

structure Step where
  before : PeerNotifier
  op : Op
  reply : Reply

def trace (n : PeerNotifier) : List Op → List Step
  | [] => []
  | op :: ops => ⟨n, op, (n.apply op).1⟩ :: trace (n.apply op).2 ops

def run (n : PeerNotifier) : List Op → PeerNotifier
  | [] => n
  | op :: ops => run (n.apply op).2 ops

@[simp] theorem trace_nil (n : PeerNotifier) : n.trace [] = [] := rfl

@[simp] theorem trace_cons (n : PeerNotifier) (op : Op) (ops : List Op) :
    n.trace (op :: ops) = ⟨n, op, (n.apply op).1⟩ :: (n.apply op).2.trace ops := rfl

@[simp] theorem run_nil (n : PeerNotifier) : n.run [] = n := rfl

@[simp] theorem run_cons (n : PeerNotifier) (op : Op) (ops : List Op) :
    n.run (op :: ops) = (n.apply op).2.run ops := rfl

namespace Step

def takenBy (id : Nat) (st : Step) : Option PeerEvent :=
  match st.op, st.reply with
  | .tryRecv id', .received event => if id' = id then event else none
  | _, _ => none

def offeredTo (id : Nat) (st : Step) : Option PeerEvent :=
  match st.op with
  | .notify event =>
    if st.before.started = true ∧ st.before.stopped = false ∧ id ∈ st.before.broker.registered then
      some event
    else none
  | _ => none

def deliveredTo (id : Nat) (st : Step) : Option PeerEvent :=
  match st.op with
  | .notify event =>
    if st.before.started = true ∧ st.before.stopped = false ∧ id ∈ st.before.broker.registered ∧
        (queueOf st.before.broker id).length < st.before.broker.capacity then some event
    else none
  | _ => none

end Step

section Flags

variable {n : PeerNotifier}

theorem create_eq_ok {k : Nat} : PeerNotifier.create k = .ok n ↔ k ≠ 0 ∧ n = { broker := { capacity := k } } := by
  unfold PeerNotifier.create
  rcases created : (Broker.create k : Except Error (Broker PeerEvent)) with e | b
  · have zero : k = 0 := by
      by_contra nonzero
      simp [Broker.create, nonzero] at created
    simp [zero, bind, Except.bind]
  · obtain ⟨nonzero, rfl⟩ := Broker.create_eq_ok.mp created
    simp [nonzero, bind, Except.bind, pure, Except.pure, eq_comm]

theorem subscribe_of_running (running : n.broker.stopped = false) :
    n.subscribe = .ok (n.broker.nextId, { n with broker := n.broker.enroll }) := by
  simp [PeerNotifier.subscribe, Broker.subscribe_eq, running, Broker.enroll, bind, Except.bind,
    pure, Except.pure]

theorem subscribe_of_stopped (stopped : n.broker.stopped = true) :
    n.subscribe = .error stoppedError := by
  simp [PeerNotifier.subscribe, Broker.subscribe_eq, stopped, bind, Except.bind]

theorem notify_of_not_started (idle : n.started = false) (event : PeerEvent) : n.notify event = n := by
  simp [PeerNotifier.notify, idle]

theorem notify_of_stopped (stopped : n.broker.stopped = true) (event : PeerEvent) :
    n.notify event = n := by
  simp [PeerNotifier.notify, Broker.broadcast_eq, stopped]

theorem notify_of_running (started : n.started = true) (running : n.broker.stopped = false)
    (event : PeerEvent) :
    n.notify event = { n with broker := { n.broker with queues := n.broker.queues.map (n.broker.deliverTo event) } } := by
  simp [PeerNotifier.notify, Broker.broadcast_eq, started, running]

theorem stop_of_running (running : n.stopped = false) :
    n.stop = { n with stopped := true, broker := n.broker.stop } := by
  simp [PeerNotifier.stop, running]

theorem start_of_started (started : n.started = true) : n.start = n := by
  obtain ⟨s, t, b⟩ := n
  simp_all [PeerNotifier.start]

theorem stop_of_stopped (stopped : n.stopped = true) : n.stop = n := by
  simp [PeerNotifier.stop, stopped]

theorem flags_apply (n : PeerNotifier) (op : Op) :
    ((n.apply op).2.started = true ↔ n.started = true ∨ op = .start) ∧
      ((n.apply op).2.stopped = true ↔ n.stopped = true ∨ op = .stop) := by
  cases op with
  | start => simp [apply, PeerNotifier.start]
  | stop =>
    cases running : n.stopped
    · simp [apply, stop_of_running running]
    · simp [apply, stop_of_stopped running, running]
  | subscribe =>
    cases running : n.broker.stopped
    · simp [apply, subscribe_of_running running]
    · simp [apply, subscribe_of_stopped running]
  | notify event =>
    cases started : n.started
    · simp [apply, notify_of_not_started started, started]
    · cases running : n.broker.stopped
      · simp [apply, notify_of_running started running, started]
      · simp [apply, notify_of_stopped running, started]
  | tryRecv id => simp [apply]
  | cancel id => simp [apply]

theorem started_run (n : PeerNotifier) (ops : List Op) :
    (n.run ops).started = true ↔ n.started = true ∨ .start ∈ ops := by
  induction ops generalizing n with
  | nil => simp
  | cons op ops ih =>
    rw [run_cons, ih, (flags_apply n op).1, List.mem_cons, or_assoc, eq_comm (a := op)]

theorem stopped_run (n : PeerNotifier) (ops : List Op) :
    (n.run ops).stopped = true ↔ n.stopped = true ∨ .stop ∈ ops := by
  induction ops generalizing n with
  | nil => simp
  | cons op ops ih =>
    rw [run_cons, ih, (flags_apply n op).2, List.mem_cons, or_assoc, eq_comm (a := op)]

theorem running_run (n : PeerNotifier) (ops : List Op) :
    (n.run ops).stopped = false ↔ n.stopped = false ∧ .stop ∉ ops := by
  rw [← Bool.not_eq_true, stopped_run]
  simp

end Flags

def Synced (n : PeerNotifier) : Prop := n.broker.stopped = n.stopped

/-- The broker operations a notifier operation makes: none for a start, a stop only the first
time, a broadcast only once started. -/
def lower (n : PeerNotifier) : Op → List (Broker.Op PeerEvent)
  | .start => []
  | .stop => if n.stopped then [] else [.stop]
  | .subscribe => [.subscribe]
  | .notify event => if n.started then [.broadcast event] else []
  | .tryRecv id => [.tryRecv id]
  | .cancel id => [.cancel id]

def lowerRun (n : PeerNotifier) : List Op → List (Broker.Op PeerEvent)
  | [] => []
  | op :: ops => n.lower op ++ lowerRun (n.apply op).2 ops

section Lowering

variable {n : PeerNotifier}

theorem apply_broker (n : PeerNotifier) (op : Op) : (n.apply op).2.broker = n.broker.run (n.lower op) := by
  cases op with
  | start => rfl
  | stop =>
    cases running : n.stopped
    · simp [apply, lower, stop_of_running running, running]
    · simp [apply, lower, stop_of_stopped running, running]
  | subscribe =>
    cases running : n.broker.stopped
    · simp [apply, lower, subscribe_of_running running, Broker.apply_subscribe_of_running running]
    · simp [apply, lower, subscribe_of_stopped running, Broker.apply_subscribe_of_stopped running]
  | notify event =>
    cases started : n.started
    · simp [apply, lower, notify_of_not_started started, started]
    · cases running : n.broker.stopped
      · simp [apply, lower, notify_of_running started running, started,
          Broker.apply_broadcast_of_running running]
      · simp [apply, lower, notify_of_stopped running, started, Broker.apply_broadcast_of_stopped running]
  | tryRecv id => rfl
  | cancel id => rfl

theorem Synced.apply (synced : n.Synced) (op : Op) : (n.apply op).2.Synced := by
  unfold Synced at synced ⊢
  cases op with
  | start => exact synced
  | stop =>
    cases running : n.stopped
    · simp [PeerNotifier.apply, stop_of_running running]
    · simpa [PeerNotifier.apply, stop_of_stopped running] using synced
  | subscribe =>
    cases running : n.broker.stopped
    · simpa [PeerNotifier.apply, subscribe_of_running running] using synced
    · simpa [PeerNotifier.apply, subscribe_of_stopped running] using synced
  | notify event =>
    cases started : n.started
    · simpa [PeerNotifier.apply, notify_of_not_started started] using synced
    · cases running : n.broker.stopped
      · simpa [PeerNotifier.apply, notify_of_running started running] using synced
      · simpa [PeerNotifier.apply, notify_of_stopped running] using synced
  | tryRecv id =>
    obtain ⟨qs, taken⟩ := Broker.tryRecv_snd n.broker id
    simpa [PeerNotifier.apply, taken] using synced
  | cancel id => simpa [PeerNotifier.apply] using synced

theorem run_broker (n : PeerNotifier) (ops : List Op) : (n.run ops).broker = n.broker.run (n.lowerRun ops) := by
  induction ops generalizing n with
  | nil => rfl
  | cons op ops ih => rw [run_cons, ih, lowerRun, Broker.run_append, apply_broker]

theorem Synced.run (synced : n.Synced) (ops : List Op) : (n.run ops).Synced := by
  induction ops generalizing n with
  | nil => exact synced
  | cons op ops ih => exact ih (synced.apply op)

theorem step_lowered (synced : n.Synced) (op : Op) (id : Nat) :
    ((Step.mk n op (n.apply op).1).takenBy id).toList =
        (n.broker.trace (n.lower op)).filterMap (Broker.Step.takenBy id) ∧
      ((Step.mk n op (n.apply op).1).offeredTo id).toList =
        (n.broker.trace (n.lower op)).filterMap (Broker.Step.offeredTo id) ∧
      ((Step.mk n op (n.apply op).1).deliveredTo id).toList =
        (n.broker.trace (n.lower op)).filterMap (Broker.Step.deliveredTo id) := by
  cases op with
  | start => simp [lower, Step.takenBy, Step.offeredTo, Step.deliveredTo]
  | stop =>
    cases running : n.stopped <;> simp [lower, running, Step.takenBy, Step.offeredTo,
      Step.deliveredTo, Broker.Step.takenBy, Broker.Step.replyTo, Broker.filterMap_cons_eq_toList_append, Broker.Step.offeredTo,
      Broker.Step.deliveredTo]
  | subscribe =>
    simp [lower, Step.takenBy, Step.offeredTo, Step.deliveredTo, Broker.Step.takenBy,
      Broker.Step.replyTo, Broker.filterMap_cons_eq_toList_append, Broker.Step.offeredTo, Broker.Step.deliveredTo]
  | notify event =>
    cases started : n.started
    · simp [lower, Step.takenBy, Step.offeredTo, Step.deliveredTo, started]
    · -- the broker accepts the broadcast exactly when the notifier is not stopped
      cases running : n.stopped
      · have brokerRunning : n.broker.stopped = false := synced ▸ running
        simp [lower, Step.takenBy, Step.offeredTo, Step.deliveredTo, started, running,
          Broker.apply_broadcast_of_running brokerRunning, Broker.Step.takenBy, Broker.Step.replyTo, Broker.filterMap_cons_eq_toList_append,
          Broker.Step.offeredTo, Broker.Step.deliveredTo]
      · have brokerStopped : n.broker.stopped = true := synced ▸ running
        simp [lower, Step.takenBy, Step.offeredTo, Step.deliveredTo, started, running,
          Broker.apply_broadcast_of_stopped brokerStopped, Broker.Step.takenBy, Broker.Step.replyTo, Broker.filterMap_cons_eq_toList_append,
          Broker.Step.offeredTo, Broker.Step.deliveredTo]
  | tryRecv id' =>
    by_cases same : id' = id <;> simp [lower, apply, same, Step.takenBy, Step.offeredTo, Step.deliveredTo, Broker.Step.takenBy,
      Broker.Step.replyTo, Broker.filterMap_cons_eq_toList_append, Broker.Step.offeredTo, Broker.Step.deliveredTo]
  | cancel id' =>
    simp [lower, Step.takenBy, Step.offeredTo, Step.deliveredTo, Broker.Step.takenBy,
      Broker.Step.replyTo, Broker.filterMap_cons_eq_toList_append, Broker.Step.offeredTo, Broker.Step.deliveredTo]

theorem filterMap_trace_lowered {f : Step → Option PeerEvent}
    {g : Broker.Step PeerEvent → Option PeerEvent}
    (step : ∀ (n : PeerNotifier) (op : Op), n.Synced →
      (f ⟨n, op, (n.apply op).1⟩).toList = (n.broker.trace (n.lower op)).filterMap g) :
    ∀ (n : PeerNotifier) (ops : List Op), n.Synced →
      (n.trace ops).filterMap f = (n.broker.trace (n.lowerRun ops)).filterMap g
  | _, [], _ => rfl
  | n, op :: ops, synced => by
    rw [trace_cons, lowerRun, Broker.trace_append, List.filterMap_append,
      Broker.filterMap_cons_eq_toList_append, step n op synced, ← apply_broker,
      filterMap_trace_lowered step _ ops (synced.apply op)]

theorem eq_cancel_of_mem_lower {id : Nat} {op : Op} (lowered : Broker.Op.cancel id ∈ n.lower op) :
    op = .cancel id := by
  cases op with
  | stop => cases stopped : n.stopped <;> simp [lower, stopped] at lowered
  | notify event => cases started : n.started <;> simp [lower, started] at lowered
  | cancel id' =>
    simp only [lower, List.mem_singleton, Broker.Op.cancel.injEq] at lowered
    rw [lowered]
  | start | subscribe | tryRecv _ => simp [lower] at lowered

theorem cancel_mem_lowerRun {id : Nat} :
    ∀ (n : PeerNotifier) (ops : List Op), Broker.Op.cancel id ∈ n.lowerRun ops → .cancel id ∈ ops
  | _, [], member => by simp [lowerRun] at member
  | n, op :: ops, member => by
    rw [lowerRun, List.mem_append] at member
    rcases member with here | later
    · exact eq_cancel_of_mem_lower here ▸ List.mem_cons_self
    · exact List.mem_cons_of_mem _ (cancel_mem_lowerRun _ ops later)

end Lowering

section Steps

theorem trace_getElem? (n : PeerNotifier) (ops : List Op) (i : Nat) :
    (n.trace ops)[i]? =
      ops[i]?.map fun op => ⟨n.run (ops.take i), op, ((n.run (ops.take i)).apply op).1⟩ := by
  induction ops generalizing n i with
  | nil => simp
  | cons op ops ih =>
    cases i with
    | zero => simp
    | succ i => simp [ih]

theorem offeredTo_at (n : PeerNotifier) (ops : List Op) (i id : Nat) (e : PeerEvent) :
    (n.trace ops)[i]?.bind (Step.offeredTo id) = some e ↔
      ops[i]? = some (.notify e) ∧ (n.run (ops.take i)).started = true ∧
        (n.run (ops.take i)).stopped = false ∧ id ∈ (n.run (ops.take i)).broker.registered := by
  rw [trace_getElem?]
  cases ops[i]? with
  | none => simp
  | some op => cases op <;> simp [Step.offeredTo, and_comm]

theorem deliveredTo_at (n : PeerNotifier) (ops : List Op) (i id : Nat) (e : PeerEvent) :
    (n.trace ops)[i]?.bind (Step.deliveredTo id) = some e ↔
      ops[i]? = some (.notify e) ∧ (n.run (ops.take i)).started = true ∧
        (n.run (ops.take i)).stopped = false ∧ id ∈ (n.run (ops.take i)).broker.registered ∧
        (queueOf (n.run (ops.take i)).broker id).length < (n.run (ops.take i)).broker.capacity := by
  rw [trace_getElem?]
  cases ops[i]? with
  | none => simp
  | some op => cases op <;> simp [Step.deliveredTo, and_comm]

theorem capacity_run (n : PeerNotifier) (ops : List Op) : (n.run ops).broker.capacity = n.broker.capacity := by
  rw [run_broker, Broker.capacity_run]

end Steps

section Subscriptions

variable {n : PeerNotifier}

theorem taken_lowered (synced : n.Synced) (ops : List Op) (id : Nat) :
    (n.trace ops).filterMap (Step.takenBy id) =
      (n.broker.trace (n.lowerRun ops)).filterMap (Broker.Step.takenBy id) :=
  filterMap_trace_lowered (fun _ op synced => (step_lowered synced op id).1) n ops synced

theorem offered_lowered (synced : n.Synced) (ops : List Op) (id : Nat) :
    (n.trace ops).filterMap (Step.offeredTo id) =
      (n.broker.trace (n.lowerRun ops)).filterMap (Broker.Step.offeredTo id) :=
  filterMap_trace_lowered (fun _ op synced => (step_lowered synced op id).2.1) n ops synced

theorem delivered_lowered (synced : n.Synced) (ops : List Op) (id : Nat) :
    (n.trace ops).filterMap (Step.deliveredTo id) =
      (n.broker.trace (n.lowerRun ops)).filterMap (Broker.Step.deliveredTo id) :=
  filterMap_trace_lowered (fun _ op synced => (step_lowered synced op id).2.2) n ops synced

end Subscriptions

open List in
/-- What every run of a notifier of queue size `k` guarantees each subscription `id`. -/
structure RelaysBetweenStartAndStop (k : Nat) (n : PeerNotifier) : Prop where
  offered_iff : ∀ ops i id e, (n.trace ops)[i]?.bind (Step.offeredTo id) = some e ↔
    ops[i]? = some (.notify e) ∧ .start ∈ ops.take i ∧ .stop ∉ ops.take i ∧
      id ∈ (n.run (ops.take i)).broker.registered
  delivered_iff : ∀ ops i id e, (n.trace ops)[i]?.bind (Step.deliveredTo id) = some e ↔
    ops[i]? = some (.notify e) ∧ .start ∈ ops.take i ∧ .stop ∉ ops.take i ∧
      id ∈ (n.run (ops.take i)).broker.registered ∧
      (queueOf (n.run (ops.take i)).broker id).length < k
  taken_offered : ∀ ops id,
    (n.trace ops).filterMap (Step.takenBy id) <+ (n.trace ops).filterMap (Step.offeredTo id)
  taken_in_order : ∀ ops id,
    (n.trace ops).filterMap (Step.takenBy id) ++ queueOf (n.run ops).broker id <+:
      (n.trace ops).filterMap (Step.deliveredTo id)
  kept_in_order : ∀ ops id, .cancel id ∉ ops →
    (n.trace ops).filterMap (Step.takenBy id) ++ queueOf (n.run ops).broker id =
      (n.trace ops).filterMap (Step.deliveredTo id)
  start_again : ∀ ops, .start ∈ ops → (n.run ops).apply .start = (.done, n.run ops)
  stop_again : ∀ ops, .stop ∈ ops → (n.run ops).apply .stop = (.done, n.run ops)
  refuses_after_stop : ∀ ops, .stop ∈ ops →
    (n.run ops).subscribe = .error (.raise .subscription "broker is stopped") ∧
      ∀ e, (n.run ops).notify e = n.run ops

open List in
/-- Every notifier that `create` made relays between its first start and its first stop. -/
theorem notifier_relays_between_start_and_stop (k : Nat) (n : PeerNotifier)
    (created : PeerNotifier.create k = .ok n) : RelaysBetweenStartAndStop k n := by
  obtain ⟨nonzero, fresh⟩ := create_eq_ok.mp created
  -- a new notifier is neither started nor stopped, and its broker holds no events
  have idle : n.started = false ∧ n.stopped = false ∧ n.broker.capacity = k := by simp [fresh]
  have synced : n.Synced := by rw [fresh]; rfl
  have sound : n.broker.Sound := by
    rw [fresh]
    exact Broker.Sound.create (Broker.create_eq_ok.mpr ⟨nonzero, rfl⟩)
  have empty : ∀ id, queueOf n.broker id = [] := by
    rw [fresh]
    exact fun _ => rfl
  refine ⟨?offered_iff, ?delivered_iff, ?taken_offered, ?taken_in_order, ?kept_in_order,
    ?start_again, ?stop_again, ?refuses_after_stop⟩
  case offered_iff =>
    intro ops i id e
    simp [offeredTo_at, started_run, running_run, idle]
  case delivered_iff =>
    intro ops i id e
    simp [deliveredTo_at, started_run, running_run, capacity_run, idle]
  case taken_offered =>
    intro ops id
    rw [taken_lowered synced, offered_lowered synced]
    have starts := sound.run_taken_starts_delivered id (n.lowerRun ops)
    rw [empty, List.nil_append] at starts
    exact ((List.prefix_append _ _).trans starts).sublist.trans (Broker.delivered_sublist_offered _)
  case taken_in_order =>
    intro ops id
    rw [taken_lowered synced, delivered_lowered synced, run_broker]
    simpa [empty] using sound.run_taken_starts_delivered id _
  case kept_in_order =>
    intro ops id kept
    rw [taken_lowered synced, delivered_lowered synced, run_broker]
    simpa [empty] using (sound.run_conserves _ fun cancels => kept (cancel_mem_lowerRun _ ops cancels)).symm
  case start_again =>
    intro ops started
    simp [PeerNotifier.apply, start_of_started ((started_run n ops).mpr (.inr started))]
  case stop_again =>
    intro ops stopped
    simp [PeerNotifier.apply, stop_of_stopped ((stopped_run n ops).mpr (.inr stopped))]
  case refuses_after_stop =>
    intro ops stopped
    have halted : (n.run ops).broker.stopped = true :=
      (synced.run ops).trans ((stopped_run n ops).mpr (.inr stopped))
    exact ⟨subscribe_of_stopped halted, fun e => notify_of_stopped halted e⟩

theorem notifier_of_queue_size_two_relays :
    PeerNotifier.create 2 = .ok { broker := { capacity := 2 } } ∧
      RelaysBetweenStartAndStop 2 { broker := { capacity := 2 } } :=
  ⟨rfl, notifier_relays_between_start_and_stop 2 _ rfl⟩

end PeerNotifier

end SubmarineSwap.Server
