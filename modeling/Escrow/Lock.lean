import Escrow.Address
import Escrow.Policy.Token
import Escrow.Abi.Word
import Escrow.Error
import Escrow.FixedPoint

/-!
Locks. A lock holds an amount of a token for its owner under a policy: the policy's tokens and
the criteria bound to its placeholders. A lock is active until it is unlocked once; it then
records when, to whom and how much was paid, and what stayed in custody.
-/

set_option autoImplicit false

namespace Escrow

open Escrow.Policy

/-- Whether a lock may still be unlocked, or how it was. -/
inductive LockState where
  | active
  | consumed (consumedAt : Int) (recipient : Address) (paid retained : Nat)
  deriving Inhabited

/-- A lock. -/
structure Lock where
  id : Nat
  owner : Address
  token : Address
  /-- The amount held, after any percentage fee. -/
  amount : Nat
  feePaid : Nat
  expression : List Token
  criteria : List CriterionRef
  createdAt : Int
  state : LockState := .active
  deriving Inhabited

namespace Lock

def isActive (l : Lock) : Bool :=
  match l.state with
  | .active => true
  | .consumed .. => false

def symbols (l : Lock) : List String := l.expression.map Token.symbol

def criterionKinds (l : Lock) : List CriterionKind := l.criteria.map CriterionRef.kind

def criterionIds (l : Lock) : List Nat := l.criteria.map CriterionRef.id

def policy (l : Lock) : String := renderPolicy l.expression l.criteria

end Lock

end Escrow

/-! ## Unlock modes

How much of a lock an unlock pays out: all of it (mode 0), or a fraction `ratio / 10^18` of
it with `0 < ratio ≤ 10^18` (mode 1, the ratio in one payload word).
-/

namespace Escrow

open Escrow.Abi

/-- How much of a lock an unlock pays out. -/
inductive UnlockMode where
  | full
  | fraction (ratio : Nat)
  deriving DecidableEq, Repr, Inhabited

namespace UnlockMode

def validate : UnlockMode → Except LockError Unit
  | .fraction ratio =>
    if ratio = 0 || ratio > fixedOne then .error (.invalidParameters "withdrawal ratio must be in (0, 1e18]")
    else .ok ()
  | .full => .ok ()

/-- What an unlock in this mode pays out of `amount`: all of it, or the fraction, rounded
down. -/
def payout (mode : UnlockMode) (amount : Nat) : Except LockError Nat :=
  match mode with
  | .full => .ok amount
  | .fraction ratio => mulDiv amount ratio fixedOne

def decode (mode : Nat) (data : List UInt8) : Except LockError UnlockMode :=
  if mode = 0 then .ok .full
  else if mode = 1 then do
    let r : Reader := ⟨data⟩
    (r.expectWords 1).mapError LockError.abiDecode
    let m := UnlockMode.fraction (← (r.uint 0).mapError LockError.abiDecode)
    m.validate
    pure m
  else .error (.unsupportedUnlockMode mode)

def encode : UnlockMode → Nat × List UInt8
  | .full => (0, Abi.encode [.uint 0])
  | .fraction ratio => (1, Abi.encode [.uint ratio])

end UnlockMode

end Escrow
