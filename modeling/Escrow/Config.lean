import Escrow.Json.Reader
import Escrow.Fee

/-!
Settings documents. Settings are read from a JSON object whose members are named
`custody_address`, `fee`, `burn_sinks`, `max_expression_tokens` and `max_proof_depth`, or from an
array of the same values in that order; a member left out keeps its default, and a member of
another name is read past. The fee schedule inside is read the same way, except that all of its
members but the two wallets are required. Addresses are hexadecimal strings; amounts are written
with digits only.
-/

set_option autoImplicit false

/-! ## Engine settings

Engine settings: the address that holds locked tokens, the fee schedule, the burn sinks that burn
criteria may name, the longest policy accepted and the deepest whitelist proof accepted. A
setting is checked as a whole by `Config.validate`, which reports the first fault in a fixed
order.
-/

namespace Escrow

def defaultCustody : Address := Address.ofNat 0xc0570d1a00000000000000000000000000000001

def deadAddress : Address := Address.ofNat 0xdead

/-- Engine settings. -/
structure Config where
  custody : Address := defaultCustody
  fee : FeeSchedule := {}
  burnSinks : AddressSet := AddressSet.ofList [deadAddress]
  maxExpressionTokens : Nat := 64
  maxProofDepth : Nat := 32
  deriving Inhabited

namespace Config

/-- Checks the settings: custody is not the zero address, a policy may hold a token, the fee
percentage is at most 10^18, and fees do not go to custody. -/
def validate (c : Config) : Except LockError Unit :=
  if c.custody.isZero then .error (.config .zeroCustody)
  else if c.maxExpressionTokens = 0 then .error (.config .noExpressionTokens)
  else if fixedOne < c.fee.feePercent then .error (.config .feePercentTooLarge)
  else if c.fee.feeWallet = some c.custody then .error (.config .feeWalletIsCustody)
  else .ok ()

end Config

/-! ## Reading settings -/

open Json Json.Reading

def readAddress : Reading Address := do
  let s ← str
  match Address.ofHex s with
  | .ok a => pure a
  | .error e => raise (.custom e.message)

def readDigest : Reading Digest := do
  let s ← str
  match Digest.ofHex s with
  | .ok d => pure d
  | .error e => raise (.custom e.message)

def readAddressSet (bound : Nat) : Reading AddressSet :=
  seq "a sequence" (elements (fun acc => do let a ← readAddress; pure (acc.insert a)) bound true {})

/-- The members of a fee schedule met so far. -/
structure FeeFields where
  wallet : Option (Option Address) := none
  token : Option (Option Address) := none
  flat : Option Nat := none
  percent : Option Nat := none
  tokens : Option AddressSet := none

def feeMember (bound : Nat) (key : String) (acc : FeeFields) : Reading FeeFields :=
  match key with
  | "fee_wallet" => do
    if acc.wallet.isSome then raise (.duplicateField "fee_wallet")
    colon
    let v ← optional readAddress
    pure { acc with wallet := some v }
  | "fee_token" => do
    if acc.token.isSome then raise (.duplicateField "fee_token")
    colon
    let v ← optional readAddress
    pure { acc with token := some v }
  | "flat_fee" => do
    if acc.flat.isSome then raise (.duplicateField "flat_fee")
    colon
    let v ← amount
    pure { acc with flat := some v }
  | "fee_percent" => do
    if acc.percent.isSome then raise (.duplicateField "fee_percent")
    colon
    let v ← amount
    pure { acc with percent := some v }
  | "percent_tokens" => do
    if acc.tokens.isSome then raise (.duplicateField "percent_tokens")
    colon
    let v ← readAddressSet bound
    pure { acc with tokens := some v }
  | _ => do colon; skipValue bound; pure acc

def required {α : Type} (name : String) : Option α → Reading α
  | some v => pure v
  | none => raise (.missingField name)

def FeeFields.schedule (acc : FeeFields) : Reading FeeSchedule := do
  let flat ← required "flat_fee" acc.flat
  let percent ← required "fee_percent" acc.percent
  let tokens ← required "percent_tokens" acc.tokens
  pure { feeWallet := acc.wallet.getD none, feeToken := acc.token.getD none, flatFee := flat,
         feePercent := percent, percentTokens := tokens }

def requiredElement {α : Type} (index total : Nat) (what : String) (r : Reading α) : Reading α := do
  if ← nextElement (index = 0) then r
  else raise (.invalidLength index (what ++ " with " ++ toString total ++ " elements"))

def readFeeSchedule (bound : Nat) : Reading FeeSchedule :=
  let what := "struct FeeSchedule"
  record what
    (do
      let wallet ← requiredElement 0 5 what (optional readAddress)
      let token ← requiredElement 1 5 what (optional readAddress)
      let flat ← requiredElement 2 5 what amount
      let percent ← requiredElement 3 5 what amount
      let tokens ← requiredElement 4 5 what (readAddressSet bound)
      pure { feeWallet := wallet, feeToken := token, flatFee := flat, feePercent := percent,
             percentTokens := tokens })
    (do
      let acc ← members (feeMember bound) bound true {}
      acc.schedule)

/-- The members of a settings document met so far. -/
structure ConfigFields where
  custody : Option Address := none
  fee : Option FeeSchedule := none
  burnSinks : Option AddressSet := none
  maxExpressionTokens : Option Nat := none
  maxProofDepth : Option Nat := none

def configMember (bound : Nat) (key : String) (acc : ConfigFields) : Reading ConfigFields :=
  match key with
  | "custody_address" => do
    if acc.custody.isSome then raise (.duplicateField "custody_address")
    colon
    let v ← readAddress
    pure { acc with custody := some v }
  | "fee" => do
    if acc.fee.isSome then raise (.duplicateField "fee")
    colon
    let v ← readFeeSchedule bound
    pure { acc with fee := some v }
  | "burn_sinks" => do
    if acc.burnSinks.isSome then raise (.duplicateField "burn_sinks")
    colon
    let v ← readAddressSet bound
    pure { acc with burnSinks := some v }
  | "max_expression_tokens" => do
    if acc.maxExpressionTokens.isSome then raise (.duplicateField "max_expression_tokens")
    colon
    let v ← count
    pure { acc with maxExpressionTokens := some v }
  | "max_proof_depth" => do
    if acc.maxProofDepth.isSome then raise (.duplicateField "max_proof_depth")
    colon
    let v ← count
    pure { acc with maxProofDepth := some v }
  | _ => do colon; skipValue bound; pure acc

def ConfigFields.settings (acc : ConfigFields) : Config :=
  let d : Config := {}
  { custody := acc.custody.getD d.custody, fee := acc.fee.getD d.fee,
    burnSinks := acc.burnSinks.getD d.burnSinks,
    maxExpressionTokens := acc.maxExpressionTokens.getD d.maxExpressionTokens,
    maxProofDepth := acc.maxProofDepth.getD d.maxProofDepth }

def optionalElement {α : Type} (index : Nat) (r : Reading α) : Reading (Option α) := do
  if ← nextElement (index = 0) then some <$> r else pure none

def readConfig (bound : Nat) : Reading Config :=
  record "struct EngineConfig"
    (do
      let custody ← optionalElement 0 readAddress
      let fee ← optionalElement 1 (readFeeSchedule bound)
      let sinks ← optionalElement 2 (readAddressSet bound)
      let tokens ← optionalElement 3 count
      let depth ← optionalElement 4 count
      pure (ConfigFields.settings
        { custody, fee, burnSinks := sinks, maxExpressionTokens := tokens, maxProofDepth := depth }))
    (do
      let acc ← members (configMember bound) bound true {}
      pure acc.settings)

namespace Config

def ofJson (text : String) : Except JsonError Config := Reading.document readConfig text

end Config

def Address.ofJson (text : String) : Except JsonError Address :=
  Reading.document (fun _ => readAddress) text

def Digest.ofJson (text : String) : Except JsonError Digest :=
  Reading.document (fun _ => readDigest) text

end Escrow
