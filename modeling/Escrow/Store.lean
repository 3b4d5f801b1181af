import Escrow.Lock
import Escrow.Ledger
import Escrow.Criterion.Record
import Escrow.Config

/-!
What the engine keeps between operations: the settings last stored, the ledger, the criterion
records, the locks with an index of them by owner, and the next lock and criterion ids. Criterion
ids are drawn from one counter for all kinds, so an id names at most one record; asking for a
record of another kind under that id finds nothing.

A lock is stored under its id written in 8 bytes, most significant first, and indexed under its
owner's 20 bytes followed by those 8. Tables keyed by bytes are listed in ascending lexicographic
order of their keys, and the owner index is read by the keys that start with an owner's bytes.
-/

set_option autoImplicit false

namespace Escrow

/-- A stored criterion record of any kind. -/
inductive CriterionRecord where
  | time (r : TimeRecord)
  | burn (r : BurnRecord)
  | price (r : PriceRecord)
  | marketCap (r : MarketCapRecord)
  | multisig (r : MultisigRecord)
  deriving Inhabited

namespace CriterionRecord

def id : CriterionRecord → Nat
  | .time r => r.id
  | .burn r => r.id
  | .price r => r.id
  | .marketCap r => r.id
  | .multisig r => r.id

def kind : CriterionRecord → CriterionKind
  | .time _ => .time
  | .burn _ => .burn
  | .price _ => .price
  | .marketCap _ => .marketCap
  | .multisig _ => .multisig

end CriterionRecord

/-- The engine's stored state. -/
structure Store where
  config? : Option Config := none
  ledger : Ledger := {}
  criteria : Table Nat CriterionRecord := {}
  locks : Table Nat Lock := {}
  /-- One key for each lock written, made of its owner and its id. -/
  ownerIndex : Table (List UInt8) Unit := {}
  nextLockId : Nat := 0
  nextCriterionId : Nat := 0
  deriving Inhabited

namespace Store

def timeRecord? (s : Store) (id : Nat) : Option TimeRecord :=
  match s.criteria.get? id with
  | some (.time r) => some r
  | _ => none

def burnRecord? (s : Store) (id : Nat) : Option BurnRecord :=
  match s.criteria.get? id with
  | some (.burn r) => some r
  | _ => none

def priceRecord? (s : Store) (id : Nat) : Option PriceRecord :=
  match s.criteria.get? id with
  | some (.price r) => some r
  | _ => none

def marketCapRecord? (s : Store) (id : Nat) : Option MarketCapRecord :=
  match s.criteria.get? id with
  | some (.marketCap r) => some r
  | _ => none

def multisigRecord? (s : Store) (id : Nat) : Option MultisigRecord :=
  match s.criteria.get? id with
  | some (.multisig r) => some r
  | _ => none

def putCriterion (s : Store) (c : CriterionRecord) : Store :=
  { s with criteria := s.criteria.insert c.id c }

def lockKey (id : Nat) : List UInt8 := Text.bigEndian 8 id

def ownerLockKey (owner : Address) (id : Nat) : List UInt8 := owner.toBytes ++ lockKey id

def inByteOrder {α : Type} (key : α → List UInt8) (items : List α) : List α :=
  items.mergeSort fun a b => decide (key a ≤ key b)

def putLock (s : Store) (l : Lock) : Store :=
  { s with locks := s.locks.insert l.id l,
           ownerIndex := s.ownerIndex.insert (ownerLockKey l.owner l.id) () }

def allLocks (s : Store) : List Lock :=
  (inByteOrder (fun entry => lockKey entry.1) s.locks.entries).map Prod.snd

/-- The lock ids the owner index lists for `owner`: the keys that start with the owner's bytes,
in byte order, each read back from the bytes after the owner's. -/
def lockIdsByOwner (s : Store) (owner : Address) : List Nat :=
  ((inByteOrder (fun key => key) (s.ownerIndex.entries.map Prod.fst)).filter
    (owner.toBytes.isPrefixOf ·)).map fun key => Text.ofBigEndian (key.drop 20)

end Store

end Escrow
