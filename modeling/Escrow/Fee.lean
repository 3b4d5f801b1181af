import Escrow.Address
import Escrow.FixedPoint

/-!
The creation fee. While no fee wallet is set nothing is charged. A token in percent mode pays
`amount · feePercent / 10^18` of the locked token, taken from custody; every other token pays
`flatFee` units of the fee token, pulled from the owner, if both are set. A percentage fee must
leave something locked.
-/

set_option autoImplicit false

namespace Escrow

/-- How the creation fee is charged for a token. -/
inductive FeeMode where
  | flat
  | percent
  deriving DecidableEq, Repr, Inhabited

/-- The treasury settings. -/
structure FeeSchedule where
  feeWallet : Option Address := none
  feeToken : Option Address := none
  flatFee : Nat := 0
  /-- In the 10^18 scale, at most 10^18. -/
  feePercent : Nat := 0
  /-- Tokens in percent mode; every other token pays the flat fee. -/
  percentTokens : AddressSet := {}
  deriving Inhabited

/-- The fee one lock request owes. -/
inductive FeeCharge where
  | none
  | flat (wallet token : Address) (amount : Nat)
  | percent (wallet : Address) (amount : Nat)
  deriving Inhabited

namespace FeeCharge

def netOf (c : FeeCharge) (locked : Nat) : Nat :=
  match c with
  | .percent _ amount => locked - amount
  | _ => locked

def paid : FeeCharge → Nat
  | .none => 0
  | .flat _ _ amount => amount
  | .percent _ amount => amount

end FeeCharge

namespace FeeSchedule

def modeFor (s : FeeSchedule) (token : Address) : FeeMode :=
  if s.percentTokens.contains token then .percent else .flat

def toggleMode (s : FeeSchedule) (token : Address) : FeeSchedule :=
  if s.percentTokens.contains token then { s with percentTokens := s.percentTokens.erase token }
  else { s with percentTokens := s.percentTokens.insert token }

def setFeePercent (s : FeeSchedule) (percent : Nat) : Except LockError FeeSchedule :=
  if percent > fixedOne then .error (.invalidParameters "fee percent must not exceed 1e18")
  else .ok { s with feePercent := percent }

def quote (s : FeeSchedule) (token : Address) (amount : Nat) : Except LockError FeeCharge :=
  match s.feeWallet with
  | none => .ok .none
  | some wallet =>
    match s.modeFor token with
    | .percent => do
      let fee ← mulDiv amount s.feePercent fixedOne
      if fee = 0 then return .none
      if fee ≥ amount then throw (.invalidParameters "fee consumes the whole locked amount")
      return .percent wallet fee
    | .flat =>
      match s.feeToken with
      | some feeToken => if s.flatFee > 0 then .ok (.flat wallet feeToken s.flatFee) else .ok .none
      | none => .ok .none

end FeeSchedule

end Escrow
