import SubmarineSwap.Address
import SubmarineSwap.Address.Base58
import SubmarineSwap.Address.Bech32
import SubmarineSwap.Amount
import SubmarineSwap.Bytes
import SubmarineSwap.Decimal.Shortest
import SubmarineSwap.Error
import SubmarineSwap.Fee
import SubmarineSwap.Hash.Hmac
import SubmarineSwap.Hash.Ripemd160
import SubmarineSwap.Hash.Sha256
import SubmarineSwap.Json.Decode
import SubmarineSwap.Json.Document
import SubmarineSwap.Json.Field
import SubmarineSwap.Json.Forms
import SubmarineSwap.Json.Reader
import SubmarineSwap.Json.Unexpected
import SubmarineSwap.Json.Value
import SubmarineSwap.Network
import SubmarineSwap.Proofs.Bytes
import SubmarineSwap.Proofs.Fee
import SubmarineSwap.Proofs.Scan
import SubmarineSwap.Proofs.Json.Literal
import SubmarineSwap.Proofs.Json.Reading
import SubmarineSwap.Proofs.Json.Text
import SubmarineSwap.Proofs.Script
import SubmarineSwap.Proofs.Secp256k1.Ecdsa
import SubmarineSwap.Proofs.Secp256k1.Group
import SubmarineSwap.Proofs.Secp256k1.Key
import SubmarineSwap.Proofs.Secp256k1.Points
import SubmarineSwap.Proofs.Secp256k1.Prime
import SubmarineSwap.Proofs.Server.Broker
import SubmarineSwap.Proofs.Server.Config
import SubmarineSwap.Proofs.Server.Effects
import SubmarineSwap.Proofs.Server.Notifier
import SubmarineSwap.Proofs.Server.Redeem
import SubmarineSwap.Proofs.Server.Steps
import SubmarineSwap.Proofs.Server.Store
import SubmarineSwap.Proofs.Server.Watch
import SubmarineSwap.Proofs.Settlement.Built
import SubmarineSwap.Proofs.Settlement.Draft
import SubmarineSwap.Proofs.Settlement.Outcomes
import SubmarineSwap.Proofs.Settlement.Quote
import SubmarineSwap.Proofs.Settlement.Rates
import SubmarineSwap.Proofs.Settlement.Signing
import SubmarineSwap.Proofs.Settlement.Weight
import SubmarineSwap.Proofs.Status
import SubmarineSwap.Proofs.Swap.Index
import SubmarineSwap.Proofs.Swap.Lookup
import SubmarineSwap.Proofs.Swap.PreimageJson
import SubmarineSwap.Proofs.Swap.Stored
import SubmarineSwap.Proofs.Swap.Terms
import SubmarineSwap.Scanner
import SubmarineSwap.Script
import SubmarineSwap.Secp256k1.Curve
import SubmarineSwap.Secp256k1.Ecdsa
import SubmarineSwap.Secp256k1.Key
import SubmarineSwap.Server.Broker
import SubmarineSwap.Server.Client
import SubmarineSwap.Server.Config
import SubmarineSwap.Server.Locator
import SubmarineSwap.Server.Node
import SubmarineSwap.Server.PeerNotifier
import SubmarineSwap.Server.Permission
import SubmarineSwap.Server.Service
import SubmarineSwap.Settlement
import SubmarineSwap.Simulation.Chain
import SubmarineSwap.Simulation.Failure
import SubmarineSwap.Simulation.Scenario
import SubmarineSwap.Simulation.Wallet
import SubmarineSwap.Status
import SubmarineSwap.Swap.Derive
import SubmarineSwap.Swap.Index
import SubmarineSwap.Swap.Params
import SubmarineSwap.Swap.Preimage
import SubmarineSwap.Swap.Record
import SubmarineSwap.Swap.Stored
import SubmarineSwap.Text.GraphemeExtend
import SubmarineSwap.Text.Printable
import SubmarineSwap.Toml.Document
import SubmarineSwap.Toml.Parse
import SubmarineSwap.Transaction
import SubmarineSwap.Transaction.Decode
import SubmarineSwap.Transaction.Sighash
import SubmarineSwap.Utxo
import SubmarineSwap.Proofs.Fee
