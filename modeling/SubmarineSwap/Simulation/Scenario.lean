import SubmarineSwap.Server.Service
import SubmarineSwap.Server.Client
import SubmarineSwap.Json.Forms

namespace SubmarineSwap.Simulation

open Server

inductive ChainStep where
  | setHeight (height : Nat)
  | mine (blocks : Nat)
  | fund (script : Bytes) (amount : Nat) (height : Except String (Option Nat))
  | unspentFailure (mode : Option FailureMode)
  | spendsFailure (mode : Option FailureMode)

inductive NodeStep where
  | setFeeRate (rate : Option Nat)
  | reveal (preimage : Preimage)
  | revealFor (hash : Bytes) (preimage : Preimage)
  | preimageFailure (fail : Bool)
  | walletFailure (mode : Option WalletFailure)
  | broadcastFailure (mode : Option FailureMode)
  | storeRawInsert (key : Bytes) (value : String)
  | published
  | newAddress (kind : AddressKind)
  | confirmLastRefund
  | clientInit
  | serviceInit (hash clientKey : Bytes)
  | clientWatch (preimage : Preimage) (key : String) (serviceKey : Bytes) (lockHeight : Nat)
  | unspentAmount (hash : Bytes) (address : String)
  | swapStatus (hash : Bytes) (address : String)
  | redeemFees (hash : Bytes) (satPerVbyte confTarget : Nat)
  | redeem (hash : Bytes) (satPerVbyte confTarget : Nat)
  | redeemWithPreimage (hash : Bytes) (preimage : Preimage) (satPerVbyte confTarget : Nat)
  | refund (deposit destination : String) (satPerVbyte confTarget : Nat)

/-- Why a node step as requested cannot run: the request is malformed, or a value in it is
refused by the library, as a preimage of the wrong length is. -/
inductive Refusal where
  | malformed (why : String)
  | invalid (e : Error)

inductive Step where
  | chain (step : Except String ChainStep)
  | node (name : Except String (Option String)) (step : Except Refusal NodeStep)

/-- The chain and the nodes on it, one node to a name, and the name of the node a step goes to
when it names none. -/
structure World where
  chain : Chain
  nodes : List Node
  firstName : String

open JsonValue

def answer {α : Type} (op : NodeM α) (render : α → JsonValue) (s : Site) : JsonValue × Site :=
  match op.run s with
  | .ok a s' => (render a, s')
  | .error e s' => (e.toJson, s')

def ServiceInit.toJson (i : ServiceInit) : JsonValue :=
  object [("address", str i.address.toText), ("service_pk", hexJson i.serviceKey.serialize),
    ("lock_height", nat i.lockHeight)]

def UnspentAmount.toJson (u : UnspentAmount) : JsonValue :=
  object [("total", nat u.total), ("lock_height", nat u.lockHeight),
    ("utxos", array (u.utxos.map Utxo.toJson))]

def txidJson (t : Txid) : JsonValue := object [("txid", str t.toText)]

def NodeStep.run : NodeStep → Site → JsonValue × Site
  | .setFeeRate r, s => (okJson, { s with node := { s.node with feeRate := r } })
  | .reveal p, s => (okJson, { s with node := s.node.reveal p.hash p })
  | .revealFor h p, s => (okJson, { s with node := s.node.reveal h p })
  | .preimageFailure f, s => (okJson, { s with node := { s.node with preimageFailure := f } })
  | .walletFailure m, s =>
    (okJson, { s with node := { s.node with wallet := { s.node.wallet with failure := m } } })
  | .broadcastFailure m, s => (okJson, { s with node := { s.node with broadcastFailure := m } })
  | .storeRawInsert k v, s =>
    let (ix, inserted) := s.node.index.insertIfAbsent k v.toUTF8.toList
    (object [("inserted", bool inserted)], { s with node := { s.node with index := ix } })
  | .published, s => (object [("txids", array (s.node.published.map (str ·.toText)))], s)
  | .newAddress kind, s =>
    match s.node.wallet.newAddress kind with
    | .ok (a, w) => (object [("address", str a.toText)], { s with node := { s.node with wallet := w } })
    | .error e => (e.toJson, s)
  | .confirmLastRefund, s =>
    match s.node.lastRefund with
    | none => (badInput "no refund signed yet", s)
    | some tx =>
      match s.chain.confirm tx with
      | .ok c => (txidJson tx.txid, { s with chain := c })
      | .error why => (object [("error", str "chain_rejected"), ("message", str why)], s)
  | .clientInit, s =>
    answer Server.clientInit (fun ((key, pk) : String × Secp256k1.PublicKey) =>
      object [("key", str key), ("public_key", hexJson pk.serialize), ("hash_matches", bool true)]) s
  | .serviceInit h c, s => answer (Server.serviceInit h c) ServiceInit.toJson s
  | .clientWatch p key sk lock, s =>
    answer (Server.clientWatch p key sk lock) (fun (w : ClientWatch) =>
      object [("address", str w.address.toText), ("script", hexJson w.script)]) s
  | .unspentAmount h a, s =>
    answer (do Server.unspentAmount (← NodeM.lift (SwapLocator.ofRequest h a s.node.network)))
      UnspentAmount.toJson s
  | .swapStatus h a, s =>
    answer (do Server.status (← NodeM.lift (SwapLocator.ofRequest h a s.node.network)))
      SwapStatus.toJson s
  | .redeemFees h v t, s => answer (Server.redeemFees h v t) (fun f => object [("fee", nat f)]) s
  | .redeem h v t, s => answer (Server.redeem h v t) txidJson s
  | .redeemWithPreimage h p v t, s => answer (Server.redeemWithPreimage h p v t) txidJson s
  | .refund d r v t, s =>
    match (Server.refund d r v t).run s with
    | EStateM.Result.ok signed s' =>
      (object [("tx", hexJson signed.tx.encode), ("txid", str signed.tx.txid.toText),
          ("fee", nat signed.fee)],
        { s' with node := { s'.node with lastRefund := some signed.tx } })
    | EStateM.Result.error e s' => (e.toJson, s')

def ChainStep.run : ChainStep → Chain → JsonValue × Chain
  | .setHeight h, c => (okJson, c.setHeight h)
  | .mine n, c => let c' := c.mine n; (object [("height", nat c'.height)], c')
  | .fund _ _ (.error why), c => (badInput why, c.skipFunding)
  | .fund script amount (.ok height), c =>
    let (u, c') := c.fund script amount (height.getD c.height)
    (u.toJson, c')
  | .unspentFailure m, c => (okJson, { c with unspentFailure := m })
  | .spendsFailure m, c => (okJson, { c with spendsFailure := m })

def World.node? (w : World) (name : String) : Option Node :=
  w.nodes.find? (·.name == name)

def World.put (w : World) (n : Node) : World :=
  { w with nodes := w.nodes.map fun m => if m.name == n.name then n else m }

def World.add (w : World) (n : Node) : World :=
  if w.nodes.any (·.name == n.name) then w.put n else { w with nodes := w.nodes ++ [n] }

/-- Nodes on a chain; a later node replaces an earlier one of the same name. -/
def World.ofNodes (chain : Chain) (nodes : List Node) : World :=
  nodes.foldl World.add ⟨chain, [], ((nodes.find? (·.name != "")).map (·.name)).getD ""⟩

/-- Runs one step: the node is found first, then the step is read. -/
def World.step (w : World) : Step → JsonValue × World
  | .chain (.error why) => (badInput why, w)
  | .chain (.ok st) => let (out, c) := st.run w.chain; (out, { w with chain := c })
  | .node (.error why) _ => (badInput why, w)
  | .node (.ok name) st =>
    let target := name.getD w.firstName
    match w.node? target, st with
    | none, _ => (badInput s!"unknown node {target}", w)
    | some _, .error (.malformed why) => (badInput why, w)
    | some _, .error (.invalid e) => (e.toJson, w)
    | some n, .ok st =>
      let (out, s) := st.run ⟨n, w.chain⟩
      (out, { w.put s.node with chain := s.chain })

def World.run (w : World) : List Step → List JsonValue
  | [] => []
  | st :: rest => let (out, w') := w.step st; out :: w'.run rest

end SubmarineSwap.Simulation
