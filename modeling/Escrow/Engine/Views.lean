import Escrow.Engine.Unlock

/-!
Views of locks and criteria: summaries, the stored records, and a text description. The
description's first line gives the lock's id, amount, token, owner, policy and status, and each
criterion follows on a line of its own; an active lock's status evaluates its policy.
-/

set_option autoImplicit false

namespace Escrow

/-- One lock as listings show it. -/
structure LockSummary where
  id : Nat
  owner : Address
  amount : Nat
  token : Address
  /-- The policy in wire spelling. -/
  operations : List String
  criterionKinds : List CriterionKind
  criterionIds : List Nat
  active : Bool

def Lock.summary (l : Lock) : LockSummary :=
  { id := l.id, owner := l.owner, amount := l.amount, token := l.token, operations := l.symbols,
    criterionKinds := l.criterionKinds, criterionIds := l.criterionIds, active := l.isActive }

def timestampGap (later earlier : Int) : Int :=
  max (-Int.ofNat (Nat.pow 2 63)) (min timestampMax (later - earlier))

namespace Action

def viewData (owner : Address) : Action (List LockSummary) := do
  ((← store).lockIdsByOwner owner).mapM fun id => return (← loadLock id).summary

def viewById (id : Nat) : Action LockSummary := do
  pure (← loadLock id).summary

def allLocks : Action (List LockSummary) := do
  pure ((← store).allLocks.map Lock.summary)

def viewTime (id : Nat) : Action TimeRecord := do
  match (← store).timeRecord? id with
  | some c => pure c
  | none => throw (.criterionNotFound .time id)

def viewBurn (id : Nat) : Action BurnRecord := do
  match (← store).burnRecord? id with
  | some c => pure c
  | none => throw (.criterionNotFound .burn id)

def viewPrice (id : Nat) : Action PriceRecord := do
  match (← store).priceRecord? id with
  | some c => pure c
  | none => throw (.criterionNotFound .price id)

def viewMarketCap (id : Nat) : Action MarketCapRecord := do
  match (← store).marketCapRecord? id with
  | some c => pure c
  | none => throw (.criterionNotFound .marketCap id)

def viewMultisig (id : Nat) : Action MultisigRecord := do
  match (← store).multisigRecord? id with
  | some c => pure c
  | none => throw (.criterionNotFound .multisig id)

def describeCriterion (r : CriterionRef) (now : Int) : Action String := do
  let detail ← match r.kind with
    | .time => do
      let c ← viewTime r.id
      let remaining := timestampGap c.unlockTimestamp now
      if 0 < remaining then
        pure s!"unlocks in {remaining / 86400} days ({remaining}s)"
      else pure s!"matured at {c.unlockTimestamp}"
    | .burn => do
      let c ← viewBurn r.id
      pure ("burn to " ++ c.burnSink.toHex ++ " reaching " ++ toString c.targetRatio ++
        " (was " ++ toString c.ratioAtLock ++ " at lock)")
    | .price => do
      let c ← viewPrice r.id
      pure s!"price reaching {c.targetPrice} (was {c.priceAtLock} at lock)"
    | .marketCap => do
      let c ← viewMarketCap r.id
      pure s!"market cap reaching {c.targetMarketCap} (was {c.marketCapAtLock} at lock)"
    | .multisig => do
      let c ← viewMultisig r.id
      pure s!"{c.signedCount}/{c.threshold} signatures ({c.status.name})"
  pure ("  " ++ r.kind.name ++ "#" ++ toString r.id ++ ": " ++ detail)

def describe (id : Nat) (now : Int) : Action String := do
  let l ← loadLock id
  let status ← match l.state with
    | .active => do
      if ← checkUnlock id now then pure "Active — conditions met, ready to unlock"
      else pure "Active — conditions not yet met"
    | .consumed consumedAt recipient paid retained =>
      let head := "Consumed at " ++ toString consumedAt ++ " — paid " ++ toString paid ++ " to " ++
        recipient.toHex
      pure (if 0 < retained then head ++ ", " ++ toString retained ++ " retained in custody"
        else head)
  let first := "Lock " ++ toString l.id ++ " | " ++ toString l.amount ++ " of " ++ l.token.toHex ++
    " | owner: " ++ l.owner.toHex ++ " | " ++ l.policy ++ " | " ++ status
  let rest ← l.criteria.mapM fun r => describeCriterion r now
  pure ("\n".intercalate (first :: rest))

end Action

end Escrow
