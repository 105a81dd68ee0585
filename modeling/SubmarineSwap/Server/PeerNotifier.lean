import SubmarineSwap.Server.Broker
import SubmarineSwap.Server.Config

namespace SubmarineSwap.Server

structure PeerEvent where
  peerPubKey : String
  peerAddress : String
  connected : Bool
  deriving DecidableEq, Repr

structure PeerNotifier where
  started : Bool := false
  stopped : Bool := false
  broker : Broker PeerEvent

namespace PeerNotifier

def create (queueSize : Nat) : Except Error PeerNotifier := do
  pure { broker := ← Broker.create queueSize }

def ofConfig (c : Config) : Except Error PeerNotifier :=
  Error.withContext "invalid peer notifier config" (create c.subscriberQueueSize)

def start (n : PeerNotifier) : PeerNotifier := { n with started := true }

/-- Stops once; a second stop changes nothing. -/
def stop (n : PeerNotifier) : PeerNotifier :=
  if n.stopped then n else { n with stopped := true, broker := n.broker.stop }

def subscribe (n : PeerNotifier) : Except Error (Nat × PeerNotifier) := do
  let (id, b) ← n.broker.subscribe
  pure (id, { n with broker := b })

/-- Delivers after the start; a refusal by the stopped broker is ignored. -/
def notify (n : PeerNotifier) (e : PeerEvent) : PeerNotifier :=
  if !n.started then n
  else match n.broker.broadcast e with
    | .ok b => { n with broker := b }
    | .error _ => n

end PeerNotifier

end SubmarineSwap.Server
