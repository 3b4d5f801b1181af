import Escrow.Engine.Basic
import Escrow.Policy.Grammar
import Escrow.Criterion.Spec

/-!
Creating a lock. The request's policy is compiled against the engine's size limit, each criterion
is checked against the live ledger and oracle and given the next criterion id, and the fee is
quoted; only then is the amount taken into custody on the custody's allowance. If the fee cannot
be collected the intake is refunded (the allowance stays spent). The lock, its criteria and the
counters are written last, so a refused request leaves no lock and no criterion behind.
-/

set_option autoImplicit false

namespace Escrow

open Escrow.Policy

/-- A request to lock tokens under a policy. -/
structure LockRequest where
  token : Address
  amount : Nat
  /-- The policy's symbols, such as `(`, `c1`, `and`. -/
  expression : List String
  /-- The number of criteria the caller declares. -/
  criterionCount : Nat
  /-- The placeholder positions the caller declares. -/
  positions : List Nat
  /-- One descriptor per placeholder, left to right. -/
  criteria : List Descriptor
  deriving Inhabited

/-- The positions of the symbols that name placeholders, counting the first symbol as the given
index. -/
def placeholderPositions : List String → Nat → List Nat
  | [], _ => []
  | s :: rest, i =>
    if (Token.ofSymbol? s).any Token.isPlaceholder then i :: placeholderPositions rest (i + 1)
    else placeholderPositions rest (i + 1)

def LockRequest.ofExpression (token : Address) (amount : Nat) (expression : List String)
    (criteria : List Descriptor) : LockRequest :=
  let positions := placeholderPositions expression 0
  { token, amount, expression, criterionCount := positions.length, positions, criteria }

/-- Checks a criterion for a lock on `token` made at `now`, and builds the record that `id`
will hold. -/
def Engine.prepare (e : Engine) (id : Nat) (d : Descriptor) (token : Address) (now : Int) :
    Except LockError CriterionRecord := do
  match ← CriterionSpec.decode d with
  | .time duration =>
    if duration = 0 then throw (.invalidParameters "lock duration must be greater than zero")
    if timestampMax < duration ∨ timestampMax < now + duration then
      throw (.invalidParameters "lock duration out of range")
    pure (.time { id, lockTimestamp := now, unlockTimestamp := now + duration })
  | .burn sink target =>
    if !e.config.burnSinks.contains sink then
      throw (.invalidParameters "burn address is not authorised")
    if target = 0 ∨ fixedOne < target then
      throw (.invalidParameters "burn percentage must be in (0, 1e18]")
    let current ← e.store.ledger.burnRatio token sink
    if target ≤ current then
      throw (.invalidParameters "given burn percentage is less than current burn percentage")
    pure (.burn { id, token, burnSink := sink, targetRatio := target, ratioAtLock := current })
  | .price target =>
    if target = 0 then throw (.invalidParameters "target price must be greater than zero")
    let price ← e.store.ledger.fetchPrice token
    pure (.price { id, token, priceAtLock := price, targetPrice := target })
  | .marketCap target =>
    if target = 0 then throw (.invalidParameters "target market cap must be greater than zero")
    let cap ← e.store.ledger.currentMarketCap token
    pure (.marketCap { id, token, marketCapAtLock := cap, targetMarketCap := target })
  | .multisig threshold signers root listing =>
    if threshold = 0 then throw (.invalidParameters "multisig threshold must be at least 1")
    if root.isZero then throw (.invalidParameters "whitelist root must not be zero")
    pure (.multisig { id, threshold, whitelistRoot := root, announcedSigners := signers,
                      listingType := listing, signed := {}, signedCount := 0 })

/-- Collects a fee: a percentage moves from custody to the wallet, a flat fee moves from the
owner to the wallet on the custody's allowance. -/
def Ledger.chargeFee (l : Ledger) (custody owner token : Address) :
    FeeCharge → Except LockError Ledger
  | .none => .ok l
  | .percent wallet amount => l.transfer token custody wallet amount
  | .flat wallet feeToken amount => l.transferFrom feeToken custody owner wallet amount

namespace Action

def refund (token recipient : Address) (amount : Nat) : Action Unit := do
  let custody := (← config).custody
  match (← store).ledger.transfer token custody recipient amount with
  | .ok l =>
    setLedger l
    emit .info .engine "custody intake refunded"
      [("to", recipient.toHex), ("token", token.toHex), ("amount", toString amount)]
  | .error err =>
    emit .warn .engine "custody refund failed"
      [("to", recipient.toHex), ("token", token.toHex), ("amount", toString amount),
       ("error", err.message)]

abbrev Staging := StateT (List CriterionRecord × Nat) (Except LockError)

/-- Prepares the criterion a descriptor describes under the next criterion id, stages its
record, and gives the id. -/
def allocate (e : Engine) (token : Address) (now : Int) (d : Descriptor) : Staging Nat := do
  let (records, next) ← get
  let record ← StateT.lift (e.prepare next d token now)
  set (records ++ [record], next + 1)
  pure next

/-- Locks `req.amount` of `req.token` from `caller` under the request's policy, and gives the
new lock's id. -/
def create (caller : Address) (req : LockRequest) (now : Int) : Action Nat := do
  if req.amount = 0 then throw .zeroAmount
  let e ← engine
  let compiled ← lift ((compile req.expression req.criterionCount req.positions
    req.criteria.length { maxTokens := e.config.maxExpressionTokens }).mapError
    LockError.malformedExpression)
  let (refs, records, nextCriterion) ← lift
    ((bindCriteria compiled req.criteria (allocate e req.token now)).run ([], e.store.nextCriterionId))
  let charge ← lift (e.config.fee.quote req.token req.amount)
  let custody := e.config.custody
  match e.store.ledger.transferFrom req.token custody caller custody req.amount with
  | .error err => throw (.custodyTransferFailed .intake err)
  | .ok l => setLedger l
  match (← store).ledger.chargeFee custody caller req.token charge with
  | .error err =>
    emit .warn .engine "fee collection failed; refunding custody intake"
      [("owner", caller.toHex), ("token", req.token.toHex), ("error", err.message)]
    refund req.token caller req.amount
    throw (.custodyTransferFailed .feeCollection err)
  | .ok l => setLedger l
  let lockId := e.store.nextLockId
  let lock : Lock :=
    { id := lockId, owner := caller, token := req.token, amount := charge.netOf req.amount,
      feePaid := charge.paid, expression := compiled.tokens, criteria := refs, createdAt := now }
  let st ← store
  setStore { (records.foldl Store.putCriterion st).putLock lock with
    nextCriterionId := nextCriterion, nextLockId := lockId + 1 }
  for r in records do
    emit .debug .engine "criterion appended"
      [("lock_id", toString lockId), ("criterion_id", toString r.id), ("kind", r.kind.name)]
  emit .info .engine "lock created"
    [("lock_id", toString lockId), ("owner", caller.toHex), ("token", req.token.toHex),
     ("amount", toString (charge.netOf req.amount)), ("fee", toString charge.paid),
     ("criteria", toString records.length)]
  pure lockId

end Action

end Escrow
