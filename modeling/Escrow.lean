import Escrow.Error
import Escrow.Abi.Word
import Escrow.Address
import Escrow.Binary64
import Escrow.Main
import Escrow.Cli.Command
import Escrow.Cli.Run
import Escrow.Cli.Help
import Escrow.Cli.World
import Escrow.Cli.Parse
import Escrow.Cli.Spec
import Escrow.Cli.Suggest
import Escrow.Config
import Escrow.Proofs.Criterion.Atomicity
import Escrow.Criterion.Spec
import Escrow.Criterion.Record
import Escrow.Crypto.Keccak
import Escrow.Crypto.Merkle
import Escrow.FixedPoint
import Escrow.Engine.Basic
import Escrow.Engine.Create
import Escrow.Engine.Settings
import Escrow.Engine.Unlock
import Escrow.Engine.Views
import Escrow.Fee
import Escrow.Json.Fault
import Escrow.Json.Scan
import Escrow.Json.Parse
import Escrow.Json.Reader
import Escrow.Json.Value
import Escrow.Ledger
import Escrow.Lock
import Escrow.Log
import Escrow.Policy.Grammar
import Escrow.Policy.Eval
import Escrow.Policy.Token
import Escrow.Proofs.Abi.Bounds
import Escrow.Proofs.Abi.Layout
import Escrow.Proofs.Criterion.Codec
import Escrow.Proofs.Crypto.Merkle
import Escrow.Proofs.Crypto.Whitelist
import Escrow.Proofs.Engine.Action
import Escrow.Proofs.Engine.Consistency
import Escrow.Proofs.Engine.Create
import Escrow.Proofs.Engine.Fee
import Escrow.Proofs.Engine.Maturity
import Escrow.Proofs.Engine.Monotonicity
import Escrow.Proofs.Engine.Operation
import Escrow.Proofs.Engine.OwnerIndex
import Escrow.Proofs.Engine.Payout
import Escrow.Proofs.Engine.Prepare
import Escrow.Proofs.Engine.Resolution
import Escrow.Proofs.Engine.Settings
import Escrow.Proofs.Engine.Signing
import Escrow.Proofs.Engine.Solvency
import Escrow.Proofs.Engine.Staging
import Escrow.Proofs.Engine.Supply
import Escrow.Proofs.Engine.Unlock
import Escrow.Proofs.FixedPoint
import Escrow.Proofs.Json.HexValues
import Escrow.Proofs.Ledger
import Escrow.Proofs.Ledger.Supply
import Escrow.Proofs.Policy.Binding
import Escrow.Proofs.Policy.Compilation
import Escrow.Proofs.Policy.Evaluation
import Escrow.Proofs.Policy.Rendering
import Escrow.Proofs.Policy.Respelling
import Escrow.Proofs.Policy.Shape
import Escrow.Proofs.Policy.Tree
import Escrow.Proofs.Text.BigEndian
import Escrow.Proofs.Text.Decimal
import Escrow.Proofs.Text.HexText
import Escrow.Proofs.Text.Utf8
import Escrow.Store
import Escrow.Store.Document
import Escrow.Text.Alphanumeric
import Escrow.Text.Printable
import Escrow.Text.Hex


