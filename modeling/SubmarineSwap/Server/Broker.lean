import SubmarineSwap.Error

namespace SubmarineSwap.Server

structure Broker (α : Type) where
  capacity : Nat
  nextId : Nat := 0
  registered : List Nat := []
  /-- Events queued for each live subscription, oldest first. -/
  queues : List (Nat × List α) := []
  stopped : Bool := false

namespace Broker

variable {α : Type}

def stoppedError : Error := .raise .subscription "broker is stopped"

def create (capacity : Nat) : Except Error (Broker α) :=
  if capacity = 0 then .error (.invalidParameters "subscriber queue size must be positive")
  else .ok { capacity }

def subscribe (b : Broker α) : Except Error (Nat × Broker α) :=
  if b.stopped then .error stoppedError
  else
    let id := b.nextId
    .ok (id, { b with nextId := id + 1, registered := b.registered ++ [id], queues := b.queues ++ [(id, [])] })

def broadcast (b : Broker α) (event : α) : Except Error (Broker α) :=
  if b.stopped then .error stoppedError
  else
    let deliver := fun (entry : Nat × List α) =>
      if entry.1 ∈ b.registered ∧ entry.2.length < b.capacity then (entry.1, entry.2 ++ [event]) else entry
    .ok { b with queues := b.queues.map deliver }

def holds (b : Broker α) (id : Nat) : Bool := b.queues.any (·.1 == id)

def tryRecv (b : Broker α) (id : Nat) : Option α × Broker α :=
  match b.queues.find? (·.1 == id) with
  | some (_, e :: rest) =>
    let take := fun (entry : Nat × List α) => if entry.1 = id then (entry.1, rest) else entry
    (some e, { b with queues := b.queues.map take })
  | _ => (none, b)

def cancel (b : Broker α) (id : Nat) : Broker α :=
  { b with registered := b.registered.filter (· ≠ id), queues := b.queues.filter (·.1 ≠ id) }

def stop (b : Broker α) : Broker α := { b with stopped := true, registered := [] }

def subscriberCount (b : Broker α) : Nat := b.registered.length

end Broker

end SubmarineSwap.Server
