import Escrow.Address
import Escrow.Crypto.Merkle
import Escrow.Error

/-!
The stored records of criteria, one shape per kind, and the signing of multisig criteria.
Records never change after creation except a multisig record's signers and their count.
A signature needs a proof no longer than the depth limit, a proof that the signer's leaf is
under the whitelist root, and a signer who has not signed yet; the checks run in that order.
-/

set_option autoImplicit false

namespace Escrow

open Escrow.Crypto

/-- A time criterion: satisfied from `unlockTimestamp` on. -/
structure TimeRecord where
  id : Nat
  lockTimestamp : Int
  unlockTimestamp : Int
  deriving Inhabited

/-- A burn criterion: satisfied once the sink holds `targetRatio` of the token's supply. -/
structure BurnRecord where
  id : Nat
  token : Address
  burnSink : Address
  targetRatio : Nat
  ratioAtLock : Nat
  deriving Inhabited

/-- A price criterion: satisfied once the oracle price reaches `targetPrice`. -/
structure PriceRecord where
  id : Nat
  token : Address
  priceAtLock : Nat
  targetPrice : Nat
  deriving Inhabited

/-- A market-cap criterion: satisfied once supply times price reaches the target. -/
structure MarketCapRecord where
  id : Nat
  token : Address
  marketCapAtLock : Nat
  targetMarketCap : Nat
  deriving Inhabited

/-- The signing progress of a multisig criterion. -/
inductive MultisigStatus where
  | unsigned
  | partiallySigned
  /-- The threshold has been reached. -/
  | quorate
  deriving DecidableEq, Repr, Inhabited

def MultisigStatus.name : MultisigStatus → String
  | .unsigned => "Unsigned"
  | .partiallySigned => "PartiallySigned"
  | .quorate => "Quorate"

/-- A multisig criterion: satisfied once `threshold` distinct whitelisted addresses signed. -/
structure MultisigRecord where
  id : Nat
  threshold : Nat
  whitelistRoot : Digest
  /-- Signers named at creation; membership is decided by proof against the root. -/
  announcedSigners : List Address
  listingType : Nat
  signed : AddressSet
  signedCount : Nat
  deriving Inhabited

namespace MultisigRecord

def status (c : MultisigRecord) : MultisigStatus :=
  if c.signedCount ≥ c.threshold then .quorate
  else if c.signedCount = 0 then .unsigned
  else .partiallySigned

def isSatisfied (c : MultisigRecord) : Bool := c.status == .quorate

def hasSigned (c : MultisigRecord) (signer : Address) : Bool := c.signed.contains signer

end MultisigRecord

def signedCountBound : Nat := Nat.pow 2 32

/-- Records a signature on the multisig record held as state. The signer is added before the
count is raised, so a count at its limit leaves the signer recorded. -/
def applySignature (signer : Address) (proof : List Digest) (maxDepth : Nat) :
    ExceptT LockError (StateM MultisigRecord) MultisigStatus := do
  let c ← get
  if proof.length > maxDepth then throw (.proofTooDeep maxDepth proof.length)
  if !verifyProof c.whitelistRoot (leafHash signer) proof then throw .notWhitelisted
  if c.hasSigned signer then throw .alreadySigned
  let c := { c with signed := c.signed.insert signer }
  set c
  if c.signedCount + 1 ≥ signedCountBound then throw .arithmeticOverflow
  let c := { c with signedCount := c.signedCount + 1 }
  set c
  pure c.status

end Escrow
