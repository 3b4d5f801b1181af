import Escrow.Engine.Basic
import Escrow.Policy.Eval
import Escrow.Lock

/-!
Evaluating and unlocking. A criterion holds at a time: a time criterion from its unlock time on,
a burn criterion once the sink holds its share of the supply, a price or market-cap criterion
once the current value reaches its target, a multisig criterion once quorate. A lock's policy is
evaluated over its criteria, each resolution logged.

Unlocking checks the mode, the lock, its owner, that it is still active and that its policy
holds, in that order. The lock is marked consumed before the payout; if the payout fails the
active lock is written back.
-/

set_option autoImplicit false

namespace Escrow

def Engine.isSatisfied (e : Engine) (r : CriterionRef) (now : Int) : Except LockError Bool :=
  let missing : LockError := .criterionNotFound r.kind r.id
  let ledger := e.store.ledger
  match r.kind with
  | .time =>
    match e.store.timeRecord? r.id with
    | some c => .ok (c.unlockTimestamp ≤ now)
    | none => .error missing
  | .burn =>
    match e.store.burnRecord? r.id with
    | some c => do pure (c.targetRatio ≤ (← ledger.burnRatio c.token c.burnSink))
    | none => .error missing
  | .price =>
    match e.store.priceRecord? r.id with
    | some c => do pure (c.targetPrice ≤ (← ledger.fetchPrice c.token))
    | none => .error missing
  | .marketCap =>
    match e.store.marketCapRecord? r.id with
    | some c => do pure (c.targetMarketCap ≤ (← ledger.currentMarketCap c.token))
    | none => .error missing
  | .multisig =>
    match e.store.multisigRecord? r.id with
    | some c => .ok c.isSatisfied
    | none => .error missing

namespace Action

def loadLock (id : Nat) : Action Lock := do
  match (← store).locks.get? id with
  | some l => pure l
  | none => throw (.lockNotFound id)

def evaluateLock (l : Lock) (now : Int) : Action Bool := do
  let e ← engine
  Policy.evaluate l.expression l.criteria fun r => do
    let v ← lift (e.isSatisfied r now)
    emit .trace .evaluator "criterion resolved"
      [("kind", r.kind.name), ("id", toString r.id), ("position", toString r.position),
       ("satisfied", toString v)]
    pure v

def checkUnlock (id : Nat) (now : Int) : Action Bool := do
  evaluateLock (← loadLock id) now

/-- Pays out a lock to `recipient` if its policy holds, and gives the amount paid: all of it,
or the fraction the mode names, rounded down. -/
def unlockWith (caller : Address) (id : Nat) (recipient : Address) (mode : UnlockMode)
    (now : Int) : Action Nat := do
  lift mode.validate
  let l ← loadLock id
  if l.owner ≠ caller then throw .notLockOwner
  if !l.isActive then
    emit .warn .engine "unlock rejected: lock already consumed" [("lock_id", toString id)]
    throw .unlockConditionsMismatch
  if !(← evaluateLock l now) then
    emit .warn .engine "unlock rejected: policy not satisfied" [("lock_id", toString id)]
    throw .unlockConditionsMismatch
  let paid ← lift (mode.payout l.amount)
  if l.amount < paid then throw .arithmeticOverflow
  let retained := l.amount - paid
  setStore ((← store).putLock { l with state := .consumed now recipient paid retained })
  if 0 < paid then
    let custody := (← config).custody
    match (← store).ledger.transfer l.token custody recipient paid with
    | .error err =>
      emit .warn .engine "payout failed; restoring active lock"
        [("lock_id", toString id), ("error", err.message)]
      setStore ((← store).putLock l)
      throw (.custodyTransferFailed .payout err)
    | .ok ledger => setLedger ledger
  emit .info .engine "lock unlocked"
    [("lock_id", toString id), ("recipient", recipient.toHex), ("paid", toString paid),
     ("retained", toString retained)]
  pure paid

def unlock (caller : Address) (id : Nat) (recipient : Address) (mode : Nat) (data : List UInt8)
    (now : Int) : Action Nat := do
  unlockWith caller id recipient (← lift (UnlockMode.decode mode data)) now

end Action

end Escrow
