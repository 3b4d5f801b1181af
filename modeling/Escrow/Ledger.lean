import Escrow.Error
import Escrow.FixedPoint

/-!
The token ledger and the price oracle that the engine works against. A token must be registered
before it is minted, approved or moved; balances and allowances of any holder read as zero until
written. Every operation checks all it needs before it writes, so a refused operation changes
nothing. Amounts stay below 2^128: a mint or credit past that is an overflow.
-/

set_option autoImplicit false

/-! ## Tables

Finite maps kept as lists of entries, one entry per key, the most recently written first. Reading
a key finds its entry; writing a key replaces its entry. Every store of the engine (balances,
allowances, prices, criteria, locks) is such a table; where an order is shown, it is imposed when
listing.
-/

namespace Escrow

/-- A finite map from keys to values. -/
structure Table (κ ν : Type) where
  entries : List (κ × ν) := []
  deriving Inhabited

namespace Table

variable {κ ν : Type} [DecidableEq κ]

def get? (t : Table κ ν) (k : κ) : Option ν :=
  (t.entries.find? (fun e => decide (e.1 = k))).map Prod.snd

def getD (t : Table κ ν) (k : κ) (d : ν) : ν := (t.get? k).getD d

def insert (t : Table κ ν) (k : κ) (v : ν) : Table κ ν :=
  ⟨(k, v) :: t.entries.filter (fun e => !decide (e.1 = k))⟩

def values (t : Table κ ν) : List ν := t.entries.map Prod.snd

@[simp]
theorem get?_empty (k : κ) : ({} : Table κ ν).get? k = none := rfl

@[simp]
theorem get?_insert_self (t : Table κ ν) (k : κ) (v : ν) : (t.insert k v).get? k = some v := by
  simp [get?, insert]

theorem get?_insert_ne (t : Table κ ν) {k k' : κ} (v : ν) (h : k ≠ k') :
    (t.insert k v).get? k' = t.get? k' := by
  simp only [get?, insert, List.find?_cons, h, decide_false]
  congr 1
  rw [List.find?_filter]
  congr 1
  funext e
  by_cases he : e.1 = k'
  · simp [he, Ne.symm h]
  · simp [he]

end Table

/-! ## The ledger -/

/-- What the ledger knows of a registered token. -/
structure TokenInfo where
  symbol : String
  decimals : Nat
  totalSupply : Nat
  deriving Inhabited

/-- Tokens, balances, allowances and prices. -/
structure Ledger where
  tokens : Table Address TokenInfo := {}
  /-- Balances by token and holder. -/
  balances : Table (Address × Address) Nat := {}
  /-- Allowances by token, owner and spender. -/
  allowances : Table (Address × Address × Address) Nat := {}
  /-- Prices by token, in the 10^18 scale. -/
  prices : Table Address Nat := {}
  deriving Inhabited

namespace Ledger

def tokenInfo (l : Ledger) (token : Address) : Except LockError TokenInfo :=
  match l.tokens.get? token with
  | some info => .ok info
  | none => .error (.unknownToken token)

def register (l : Ledger) (token : Address) (symbol : String) (decimals : Nat) : Ledger :=
  let supply := ((l.tokens.get? token).map TokenInfo.totalSupply).getD 0
  { l with tokens := l.tokens.insert token { symbol, decimals, totalSupply := supply } }

def balanceOf (l : Ledger) (token holder : Address) : Nat := l.balances.getD (token, holder) 0

def allowance (l : Ledger) (token owner spender : Address) : Nat :=
  l.allowances.getD (token, owner, spender) 0

def totalSupply (l : Ledger) (token : Address) : Except LockError Nat :=
  (l.tokenInfo token).map TokenInfo.totalSupply

def decimalsOf (l : Ledger) (token : Address) : Except LockError Nat :=
  (l.tokenInfo token).map TokenInfo.decimals

def mint (l : Ledger) (token receiver : Address) (amount : Nat) : Except LockError Ledger := do
  let info ← l.tokenInfo token
  let supply := info.totalSupply + amount
  if amountBound ≤ supply then throw .arithmeticOverflow
  let balance := l.balanceOf token receiver + amount
  if amountBound ≤ balance then throw .arithmeticOverflow
  pure { l with
    tokens := l.tokens.insert token { info with totalSupply := supply }
    balances := l.balances.insert (token, receiver) balance }

def approve (l : Ledger) (token owner spender : Address) (amount : Nat) : Except LockError Ledger := do
  let _ ← l.tokenInfo token
  pure { l with allowances := l.allowances.insert (token, owner, spender) amount }

/-- Moves `amount` from `sender` to `receiver`. Moving to oneself changes nothing once the
balance is found sufficient. -/
def transfer (l : Ledger) (token sender receiver : Address) (amount : Nat) :
    Except LockError Ledger := do
  let _ ← l.tokenInfo token
  let held := l.balanceOf token sender
  if held < amount then throw (.insufficientBalance amount held)
  if sender = receiver then return l
  let credited := l.balanceOf token receiver + amount
  if amountBound ≤ credited then throw .arithmeticOverflow
  pure { l with
    balances := (l.balances.insert (token, sender) (held - amount)).insert (token, receiver) credited }

/-- Moves `amount` of `owner`'s tokens to `receiver` on `spender`'s allowance, which shrinks by
the amount moved. -/
def transferFrom (l : Ledger) (token spender owner receiver : Address) (amount : Nat) :
    Except LockError Ledger := do
  let allowed := l.allowance token owner spender
  if allowed < amount then throw (.insufficientAllowance amount allowed)
  let moved ← l.transfer token owner receiver amount
  pure { moved with allowances := moved.allowances.insert (token, owner, spender) (allowed - amount) }

def setPrice (l : Ledger) (token : Address) (price : Nat) : Ledger :=
  { l with prices := l.prices.insert token price }

def fetchPrice (l : Ledger) (token : Address) : Except LockError Nat :=
  match l.prices.get? token with
  | some p => .ok p
  | none => .error (.oracleUnavailable token)

def tokenList (l : Ledger) : List (Address × TokenInfo) :=
  l.tokens.entries.mergeSort (fun a b => a.1.val ≤ b.1.val)

/-- The share of `token`'s supply held by `sink`, in the 10^18 scale; zero while the supply is
zero. -/
def burnRatio (l : Ledger) (token sink : Address) : Except LockError Nat := do
  let supply ← l.totalSupply token
  pure ((ratio (l.balanceOf token sink) supply).getD 0)

def currentMarketCap (l : Ledger) (token : Address) : Except LockError Nat := do
  let supply ← l.totalSupply token
  let price ← l.fetchPrice token
  let decimals ← l.decimalsOf token
  marketCap supply price decimals

end Ledger

end Escrow
