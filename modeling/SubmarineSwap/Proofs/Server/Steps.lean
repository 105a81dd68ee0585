import Mathlib
import SubmarineSwap.Server.Node

namespace SubmarineSwap.Server

open Simulation NodeM

section Monad

variable {α β : Type} {s s' s'' : Site}

theorem NodeM.run_bind (x : NodeM α) (f : α → NodeM β) (s : Site) :
    (x >>= f).run s = match x.run s with
      | .ok a s₁ => (f a).run s₁
      | .error e s₁ => .error e s₁ := by
  show EStateM.bind x f s = _
  unfold EStateM.bind EStateM.run
  cases x s <;> rfl

theorem NodeM.run_bind_eq_ok {x : NodeM α} {f : α → NodeM β} {b : β} :
    (x >>= f).run s = .ok b s'' ↔ ∃ a s', x.run s = .ok a s' ∧ (f a).run s' = .ok b s'' := by
  show EStateM.bind x f s = _ ↔ _
  unfold EStateM.bind EStateM.run
  cases x s <;> simp

theorem NodeM.run_bind_of_error {x : NodeM α} {f : α → NodeM β} {e : Error} {s₁ : Site}
    (failed : x.run s = .error e s₁) : (x >>= f).run s = .error e s₁ := by
  rw [NodeM.run_bind, failed]

theorem NodeM.run_bind_congr {x y : NodeM α} {f : α → NodeM β} (same : x.run s = y.run s) :
    (x >>= f).run s = (y >>= f).run s := by
  show EStateM.bind x f s = EStateM.bind y f s
  unfold EStateM.bind
  rw [show x s = y s from same]

theorem NodeM.ite_bind (c : Prop) [Decidable c] (x y : NodeM α) (f : α → NodeM β) :
    ((if c then x else y) >>= f) = if c then x >>= f else y >>= f := by
  split <;> rfl

theorem NodeM.throw_bind (e : Error) (f : α → NodeM β) :
    (throw e : NodeM α) >>= f = throw e := rfl

@[simp] theorem NodeM.run_pure (a : α) : (pure a : NodeM α).run s = .ok a s := rfl

@[simp] theorem NodeM.run_get : (get : NodeM Site).run s = .ok s s := rfl

@[simp] theorem NodeM.run_set : (set s' : NodeM Unit).run s = .ok () s' := rfl

@[simp] theorem NodeM.run_throw (e : Error) : (throw e : NodeM α).run s = .error e s := rfl

theorem NodeM.run_throw_ne_ok {e : Error} {a : α} : (throw e : NodeM α).run s ≠ .ok a s' := by
  simp [throw, throwThe, MonadExceptOf.throw, EStateM.throw, EStateM.run]

theorem NodeM.run_throw_bind_ne_ok {e : Error} {f : α → NodeM β} {b : β} :
    (throw e >>= f).run s ≠ .ok b s' :=
  NodeM.run_throw_ne_ok

end Monad

section Lift

variable {α β : Type} {s s' : Site}

@[simp] theorem NodeM.run_lift_ok (a : α) : (lift (.ok a : Except Error α)).run s = .ok a s := rfl

@[simp] theorem NodeM.run_lift_error (e : Error) :
    (lift (.error e : Except Error α)).run s = .error e s := rfl

theorem NodeM.run_lift_eq_ok {x : Except Error α} {a : α} :
    (lift x).run s = .ok a s' ↔ x = .ok a ∧ s' = s := by
  cases x <;> simp [lift, EStateM.run, pure, EStateM.pure, throw, throwThe, MonadExceptOf.throw,
    EStateM.throw, eq_comm]

theorem NodeM.lift_bind (x : Except Error α) (f : α → Except Error β) :
    lift (x >>= f) = lift x >>= fun a => lift (f a) := by
  cases x <;> rfl

@[simp] theorem NodeM.lift_pure (a : α) : lift (Pure.pure a : Except Error α) = Pure.pure a := rfl

theorem NodeM.lift_ok_bind (a : α) (f : α → NodeM β) : lift (.ok a) >>= f = f a := rfl

theorem NodeM.lift_bind_congr {x : Except Error α} {f g : α → NodeM β}
    (agree : ∀ a, x = .ok a → f a = g a) : lift x >>= f = lift x >>= g := by
  cases x with
  | error e => rfl
  | ok a => exact agree a rfl

@[simp] theorem Error.withContext_eq_ok {note : String} {x : Except Error α} {a : α} :
    Error.withContext note x = .ok a ↔ x = .ok a := by
  cases x <;> simp [Error.withContext]

@[simp] theorem mapError_eq_ok {ε ε' : Type} {f : ε → ε'} {x : Except ε α} {a : α} :
    x.mapError f = .ok a ↔ x = .ok a := by
  cases x <;> simp [Except.mapError]

end Lift

section Actions

variable {α : Type} {s s' : Site}

@[simp] theorem NodeM.run_node : node.run s = .ok s.node s := rfl

@[simp] theorem NodeM.run_modifyNode (f : Node → Node) :
    (modifyNode f).run s = .ok () { s with node := f s.node } := rfl

theorem NodeM.run_withWallet_eq_ok {note : String} {call : Wallet → Except Error (α × Wallet)}
    {a : α} (called : (withWallet note call).run s = .ok a s') :
    ∃ w, call s.node.wallet = .ok (a, w) ∧ s' = { s with node := { s.node with wallet := w } } := by
  unfold withWallet at called
  simp only [NodeM.run_bind_eq_ok, NodeM.run_node, EStateM.Result.ok.injEq, existsAndEq,
    true_and] at called
  split at called
  · rename_i a' w answered
    simp only [modifyNode, NodeM.run_bind_eq_ok, NodeM.run_pure, EStateM.Result.ok.injEq] at called
    obtain ⟨⟨⟩, s₁, modified, rfl, rfl⟩ := called
    exact ⟨w, answered, by simpa [modify, modifyGet, MonadStateOf.modifyGet, EStateM.modifyGet,
      EStateM.run, eq_comm] using modified⟩
  · exact absurd called NodeM.run_throw_ne_ok

theorem NodeM.run_withWallet_of_error {note : String} {call : Wallet → Except Error (α × Wallet)}
    {e : Error} (failed : call s.node.wallet = .error e) :
    (withWallet note call).run s = .error (.context note (.wrap .signing e)) s := by
  simp only [withWallet, NodeM.run_bind, NodeM.run_node, failed, NodeM.run_throw]

theorem NodeM.run_withWallet_of_ok {note : String} {call : Wallet → Except Error (α × Wallet)}
    {a : α} {w : Wallet} (answered : call s.node.wallet = .ok (a, w)) :
    (withWallet note call).run s = .ok a { s with node := { s.node with wallet := w } } := by
  simp only [withWallet, NodeM.run_bind, NodeM.run_node, answered, NodeM.run_modifyNode,
    NodeM.run_pure]

theorem NodeM.run_currentHeight_eq_ok {height : Nat} :
    currentHeight.run s = .ok height s' ↔ readHeight s.chain.currentHeight = .ok height ∧ s' = s := by
  simp only [currentHeight, NodeM.run_bind_eq_ok, NodeM.run_get, NodeM.run_lift_eq_ok,
    EStateM.Result.ok.injEq, existsAndEq, true_and]

theorem NodeM.run_signer (key : String) :
    (signer key).run s = .ok (fun msg => (s.node.wallet.sign key msg).mapError (.wrap .signing)) s :=
  rfl

theorem run_resolveFeeRate_eq_ok {satPerVbyte confTarget rate : Nat}
    (resolved : (resolveFeeRate satPerVbyte confTarget).run s = .ok rate s') : s' = s := by
  simp only [resolveFeeRate, NodeM.run_bind_eq_ok, NodeM.run_lift_eq_ok, NodeM.run_node,
    EStateM.Result.ok.injEq, existsAndEq, true_and] at resolved
  obtain ⟨_, -, -, rfl⟩ := resolved
  rfl

theorem NodeM.run_putRecord_eq_ok {r : SwapRecord} {u : Unit} :
    (putRecord r).run s = .ok u s' ↔
      ∃ ix, s.node.index.put r = .ok ix ∧ s' = { s with node := { s.node with index := ix } } := by
  simp only [putRecord, NodeM.run_bind_eq_ok, NodeM.run_node, NodeM.run_lift_eq_ok,
    NodeM.run_modifyNode, EStateM.Result.ok.injEq, existsAndEq, true_and, and_true]
  constructor
  · rintro ⟨ix, put, -, rfl⟩
    exact ⟨ix, put, rfl⟩
  · rintro ⟨ix, put, rfl⟩
    exact ⟨ix, put, rfl⟩

theorem NodeM.run_putRecord_of_error {r : SwapRecord} {e : Error}
    (refused : s.node.index.put r = .error e) : (putRecord r).run s = .error e s := by
  simp only [putRecord, NodeM.run_bind, NodeM.run_node, refused, NodeM.run_lift_error]

end Actions

end SubmarineSwap.Server
