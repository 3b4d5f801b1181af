import Escrow.Engine.Basic
import Escrow.Text.Printable

/-!
Signing multisig criteria, and changing the engine's settings. A signature is checked against the
engine's proof depth limit and stored only when accepted. A change of settings is applied to a
copy, the copy is validated, and only then is it stored and put in force; each change is logged.
-/

set_option autoImplicit false

namespace Escrow.Action

def sign (signer : Address) (id : Nat) (proof : List Digest) : Action MultisigStatus := do
  let c ← match (← store).multisigRecord? id with
    | some c => pure c
    | none => throw (.criterionNotFound .multisig id)
  match (applySignature signer proof (← config).maxProofDepth).run.run c with
  | (.error err, _) =>
    emit .debug .engine "signature rejected"
      [("criterion_id", toString id), ("signer", signer.toHex), ("error", err.message)]
    throw err
  | (.ok status, c) =>
    setStore ((← store).putCriterion (.multisig c))
    emit .info .engine "signature accepted"
      [("criterion_id", toString id), ("signer", signer.toHex),
       ("signed", toString c.signedCount), ("threshold", toString c.threshold)]
    pure status

def updateConfig (change : Config → Except LockError Config) : Action Unit := do
  let next ← lift (change (← config))
  lift next.validate
  fun s => .ok () { s with engine := { config := next,
                                        store := { s.engine.store with config? := some next } } }

def setFeeWallet (wallet : Option Address) : Action Unit := do
  updateConfig fun c => .ok { c with fee := { c.fee with feeWallet := wallet } }
  emit .info .engine "fee wallet set" [("wallet", debugAddress? wallet)]

def setFeeToken (token : Option Address) : Action Unit := do
  updateConfig fun c => .ok { c with fee := { c.fee with feeToken := token } }
  emit .info .engine "fee token set" [("token", debugAddress? token)]

def setFeeAmount (amount : Nat) : Action Unit := do
  updateConfig fun c => .ok { c with fee := { c.fee with flatFee := amount } }
  emit .info .engine "flat fee set" [("amount", toString amount)]

def setFeePercent (percent : Nat) : Action Unit := do
  updateConfig fun c => do pure { c with fee := ← c.fee.setFeePercent percent }
  emit .info .engine "fee percent set" [("percent", toString percent)]

def feeModeName : FeeMode → String
  | .flat => "Flat"
  | .percent => "Percent"

def toggleFeeType (token : Address) : Action FeeMode := do
  updateConfig fun c => .ok { c with fee := c.fee.toggleMode token }
  let mode := (← config).fee.modeFor token
  emit .info .engine "fee type toggled" [("token", token.toHex), ("mode", feeModeName mode)]
  pure mode

def toggleBurnSink (sink : Address) : Action Bool := do
  updateConfig fun c =>
    .ok { c with burnSinks :=
      if c.burnSinks.contains sink then c.burnSinks.erase sink else c.burnSinks.insert sink }
  let authorised := (← config).burnSinks.contains sink
  emit .info .engine "burn sink toggled" [("sink", sink.toHex), ("authorised", toString authorised)]
  pure authorised

/-- Starts the engine afresh over its stored state, with `config` or else the stored settings, and
gives the settings now in force. If starting fails, the engine stays as it was. -/
def reopen (config : Option Config) : Action Config := fun s =>
  let (lines, started) := match config with
    | some c => ([], Engine.start c s.engine.store)
    | none => Engine.resume s.engine.store
  let s := { s with log := s.log ++ lines.toArray }
  match started with
  | .ok e => .ok e.config { s with engine := e }
  | .error err => .error err s

end Escrow.Action

/-! ## Token operations

Ledger and oracle operations run through the engine, so that they share its state and log.
Registering, minting and setting a price are logged by the ledger; approvals and transfers are
not.
-/

namespace Escrow.Action

def registerToken (token : Address) (symbol : String) (decimals : Nat) : Action Unit := do
  setLedger ((← store).ledger.register token symbol decimals)
  emit .debug .ledger "token registered"
    [("token", token.toHex), ("symbol", Text.quoteText symbol), ("decimals", toString decimals)]

def mint (token receiver : Address) (amount : Nat) : Action Unit := do
  setLedger (← lift ((← store).ledger.mint token receiver amount))
  emit .debug .ledger "minted"
    [("token", token.toHex), ("to", receiver.toHex), ("amount", toString amount)]

def approve (token owner spender : Address) (amount : Nat) : Action Unit := do
  setLedger (← lift ((← store).ledger.approve token owner spender amount))

def transfer (token sender receiver : Address) (amount : Nat) : Action Unit := do
  setLedger (← lift ((← store).ledger.transfer token sender receiver amount))

def transferFrom (token spender owner receiver : Address) (amount : Nat) : Action Unit := do
  setLedger (← lift ((← store).ledger.transferFrom token spender owner receiver amount))

def setPrice (token : Address) (price : Nat) : Action Unit := do
  setLedger ((← store).ledger.setPrice token price)
  emit .debug .ledger "price set" [("token", token.toHex), ("price", toString price)]

end Escrow.Action
