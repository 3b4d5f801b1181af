import Escrow.Ledger
import Escrow.Proofs.FixedPoint

/-! What each ledger operation does to balances and allowances.

Every operation checks before it writes, so a refused operation returns no ledger at all; the
lemmas below describe the ledger an accepted operation returns. A transfer moves the amount
between two balances and nothing else, unless sender and receiver coincide, when it changes
nothing; a transfer on an allowance also lowers that allowance by the amount.
-/

set_option autoImplicit false

namespace Escrow

theorem bind_eq_ok {ε α β : Type} {x : Except ε α} {f : α → Except ε β} {b : β} :
    x >>= f = .ok b ↔ ∃ a, x = .ok a ∧ f a = .ok b := by
  cases x <;> simp [bind, Except.bind]

theorem bind_eq_error {ε α β : Type} {x : Except ε α} {f : α → Except ε β} {fault : ε} :
    x >>= f = .error fault ↔ x = .error fault ∨ ∃ a, x = .ok a ∧ f a = .error fault := by
  cases x <;> simp [bind, Except.bind]

theorem exists_eq_ok_iff_isOk {ε α : Type} (x : Except ε α) : (∃ a, x = .ok a) ↔ x.isOk = true := by
  cases x <;> simp [Except.isOk, Except.toBool]

namespace Table

variable {κ ν : Type} [DecidableEq κ]

@[simp]
theorem getD_insert_self (t : Table κ ν) (k : κ) (v d : ν) : (t.insert k v).getD k d = v := by
  simp [getD]

theorem getD_insert_ne (t : Table κ ν) {k k' : κ} (v d : ν) (h : k ≠ k') :
    (t.insert k v).getD k' d = t.getD k' d := by
  simp [getD, get?_insert_ne t v h]

theorem getD_insert (t : Table κ ν) (k k' : κ) (v d : ν) :
    (t.insert k v).getD k' d = if k = k' then v else t.getD k' d := by
  by_cases same : k = k'
  · subst same
    simp
  · simp [same, getD_insert_ne t v d same]

theorem get?_insert (t : Table κ ν) (k k' : κ) (v : ν) :
    (t.insert k v).get? k' = if k = k' then some v else t.get? k' := by
  by_cases same : k = k'
  · subst same
    simp
  · simp [same, get?_insert_ne t v same]

end Table

namespace Ledger

variable (l : Ledger) (token sender receiver : Address) (amount : Nat)

theorem transfer_eq :
    l.transfer token sender receiver amount =
      match l.tokenInfo token with
      | .error fault => .error fault
      | .ok _ =>
        if l.balanceOf token sender < amount then
          .error (.insufficientBalance amount (l.balanceOf token sender))
        else if sender = receiver then .ok l
        else if amountBound ≤ l.balanceOf token receiver + amount then .error .arithmeticOverflow
        else .ok { l with
          balances := (l.balances.insert (token, sender) (l.balanceOf token sender - amount)).insert
            (token, receiver) (l.balanceOf token receiver + amount) } := by
  cases known : l.tokenInfo token with
  | error fault => simp [transfer, known, bind, Except.bind]
  | ok info =>
    simp only [transfer, known, bind, Except.bind]
    by_cases poor : l.balanceOf token sender < amount
    · simp [poor, throw, throwThe, MonadExceptOf.throw]
    by_cases same : sender = receiver
    · subst same
      simp [poor, pure, Except.pure]
    by_cases overflow : amountBound ≤ l.balanceOf token receiver + amount
    · simp [poor, same, overflow, throw, throwThe, MonadExceptOf.throw]
    · simp [poor, same, overflow, pure, Except.pure]

variable {l token sender receiver amount}
variable {moved : Ledger}

theorem le_balanceOf_of_transfer (transferred : l.transfer token sender receiver amount = .ok moved) :
    amount ≤ l.balanceOf token sender := by
  rw [transfer_eq] at transferred
  split at transferred
  · cases transferred
  · split at transferred
    · cases transferred
    · omega

theorem transfer_frame (transferred : l.transfer token sender receiver amount = .ok moved) :
    moved.tokens = l.tokens ∧ moved.allowances = l.allowances ∧ moved.prices = l.prices := by
  rw [transfer_eq] at transferred
  split at transferred
  · cases transferred
  · split at transferred
    · cases transferred
    · split at transferred
      · cases transferred
        exact ⟨rfl, rfl, rfl⟩
      · split at transferred
        · cases transferred
        · cases transferred
          exact ⟨rfl, rfl, rfl⟩

theorem allowance_of_transfer (transferred : l.transfer token sender receiver amount = .ok moved)
    (t owner spender : Address) : moved.allowance t owner spender = l.allowance t owner spender := by
  simp [allowance, (transfer_frame transferred).2.1]

/-- The balances after a transfer: the sender's falls and the receiver's rises by the amount,
unless they are one holder. -/
theorem balanceOf_of_transfer (transferred : l.transfer token sender receiver amount = .ok moved)
    (t holder : Address) :
    moved.balanceOf t holder =
      if sender ≠ receiver ∧ t = token ∧ holder = sender then l.balanceOf t holder - amount
      else if sender ≠ receiver ∧ t = token ∧ holder = receiver then l.balanceOf t holder + amount
      else l.balanceOf t holder := by
  rw [transfer_eq] at transferred
  split at transferred
  · cases transferred
  · split at transferred
    · cases transferred
    · split at transferred
      · rename_i same
        cases transferred
        simp [same]
      · rename_i same
        split at transferred
        · cases transferred
        · cases transferred
          -- the receiver's entry is written last, over the sender's
          simp only [balanceOf, Table.getD_insert, Prod.mk.injEq]
          by_cases onToken : t = token
          · subst onToken
            by_cases toReceiver : holder = receiver
            · subst toReceiver
              simp [Ne.symm same, same]
            · by_cases fromSender : holder = sender
              · subst fromSender
                simp [same, Ne.symm toReceiver]
              · simp [Ne.symm toReceiver, Ne.symm fromSender, toReceiver, fromSender]
          · simp [onToken, Ne.symm onToken]

/-- A transfer lowers no balance but the sender's, and the sender's only when it pays someone
else a positive amount. -/
theorem balanceOf_le_of_transfer_unless
    (transferred : l.transfer token sender receiver amount = .ok moved) (t : Address)
    {holder : Address} (spared : holder = sender → receiver = sender ∨ amount = 0) :
    l.balanceOf t holder ≤ moved.balanceOf t holder := by
  rw [balanceOf_of_transfer transferred]
  split
  · rename_i lowered
    obtain ⟨differ, -, rfl⟩ := lowered
    rcases spared rfl with same | nothing
    · exact absurd same.symm differ
    · omega
  · split <;> omega

theorem tokenInfo_of_transfer (transferred : l.transfer token sender receiver amount = .ok moved) :
    ∃ info, l.tokenInfo token = .ok info := by
  rw [transfer_eq] at transferred
  split at transferred
  · cases transferred
  · exact ⟨_, ‹_›⟩

theorem transfer_ok {info : TokenInfo} (known : l.tokenInfo token = .ok info)
    (held : amount ≤ l.balanceOf token sender)
    (fits : sender ≠ receiver → l.balanceOf token receiver + amount < amountBound) :
    ∃ moved, l.transfer token sender receiver amount = .ok moved := by
  rw [transfer_eq, known]
  by_cases same : sender = receiver
  · simp [same, Nat.not_lt.mpr (same ▸ held)]
  · have fitsReceiver := fits same
    simp [same, Nat.not_lt.mpr held, Nat.not_le.mpr fitsReceiver]

/-- Sending the amount straight back restores every balance, as long as the sender's balance
was in range. -/
theorem transfer_back (transferred : l.transfer token sender receiver amount = .ok moved)
    (inRange : l.balanceOf token sender < amountBound) :
    ∃ back, moved.transfer token receiver sender amount = .ok back ∧
      back.allowances = l.allowances ∧ ∀ t holder, back.balanceOf t holder = l.balanceOf t holder := by
  obtain ⟨info, known⟩ := tokenInfo_of_transfer transferred
  have frame := transfer_frame transferred
  have held := le_balanceOf_of_transfer transferred
  have moving := balanceOf_of_transfer transferred
  have movedKnown : moved.tokenInfo token = .ok info := by
    simpa [tokenInfo, frame.1] using known
  by_cases same : sender = receiver
  · -- a transfer to oneself changed nothing, and neither does sending it back
    subst same
    obtain ⟨back, returned⟩ : ∃ back, moved.transfer token sender sender amount = .ok back :=
      transfer_ok movedKnown (by simpa [moving] using held) (fun differ => absurd rfl differ)
    refine ⟨back, returned, (transfer_frame returned).2.1.trans frame.2.1, fun t holder => ?_⟩
    simp [balanceOf_of_transfer returned, moving]
  · obtain ⟨back, returned⟩ : ∃ back, moved.transfer token receiver sender amount = .ok back :=
      transfer_ok movedKnown (by simp [moving, same, Ne.symm same])
        (fun _ => by simp [moving, same]; omega)
    refine ⟨back, returned, (transfer_frame returned).2.1.trans frame.2.1, fun t holder => ?_⟩
    rw [balanceOf_of_transfer returned, moving]
    by_cases onToken : t = token
    · subst onToken
      by_cases toSender : holder = sender
      · subst toSender
        simp [same, Ne.symm same]
        omega
      · by_cases toReceiver : holder = receiver
        · subst toReceiver
          simp [same, toSender]
        · simp [toSender, toReceiver]
    · simp [onToken]
@[simp]
theorem balanceOf_setAllowances (allowances : Table (Address × Address × Address) Nat) (t holder : Address) :
    ({ l with allowances } : Ledger).balanceOf t holder = l.balanceOf t holder := rfl

theorem transfer_setAllowances (allowances : Table (Address × Address × Address) Nat) :
    ({ l with allowances } : Ledger).transfer token sender receiver amount =
      (l.transfer token sender receiver amount).map fun moved => { moved with allowances } := by
  have known : ({ l with allowances } : Ledger).tokenInfo token = l.tokenInfo token := rfl
  rw [transfer_eq, transfer_eq, known, balanceOf_setAllowances, balanceOf_setAllowances]
  cases l.tokenInfo token with
  | error fault => rfl
  | ok info =>
    by_cases poor : l.balanceOf token sender < amount
    · simp [poor, Except.map]
    by_cases same : sender = receiver
    · subst same
      simp [poor, Except.map]
    by_cases overflow : amountBound ≤ l.balanceOf token receiver + amount
    · simp [poor, same, overflow, Except.map]
    · simp [poor, same, overflow, Except.map]
variable {spender : Address} {after : Ledger}

theorem transferFrom_eq_ok :
    l.transferFrom token spender sender receiver amount = .ok after ↔
      amount ≤ l.allowance token sender spender ∧
        ∃ moved, l.transfer token sender receiver amount = .ok moved ∧
          after = { moved with
            allowances := moved.allowances.insert (token, sender, spender)
              (l.allowance token sender spender - amount) } := by
  simp only [transferFrom, bind, Except.bind]
  by_cases short : l.allowance token sender spender < amount
  · simp only [short, if_true, throw, throwThe, MonadExceptOf.throw, reduceCtorEq, false_iff,
      not_and]
    intro enough
    omega
  · cases transferred : l.transfer token sender receiver amount with
    | error fault => simp [short]
    | ok moved =>
      simp only [short, if_false, pure, Except.pure, Except.ok.injEq]
      constructor
      · intro same
        exact ⟨by omega, moved, rfl, same.symm⟩
      · rintro ⟨-, _, same, rfl⟩
        cases same
        rfl

theorem balanceOf_of_transferFrom
    (transferred : l.transferFrom token spender sender receiver amount = .ok after)
    (t holder : Address) :
    after.balanceOf t holder =
      if sender ≠ receiver ∧ t = token ∧ holder = sender then l.balanceOf t holder - amount
      else if sender ≠ receiver ∧ t = token ∧ holder = receiver then l.balanceOf t holder + amount
      else l.balanceOf t holder := by
  obtain ⟨-, moved, moving, rfl⟩ := transferFrom_eq_ok.mp transferred
  exact balanceOf_of_transfer moving t holder

theorem allowance_of_transferFrom
    (transferred : l.transferFrom token spender sender receiver amount = .ok after)
    (t owner other : Address) :
    after.allowance t owner other =
      if (token, sender, spender) = (t, owner, other) then l.allowance t owner other - amount
      else l.allowance t owner other := by
  obtain ⟨-, moved, moving, rfl⟩ := transferFrom_eq_ok.mp transferred
  by_cases spent : (token, sender, spender) = (t, owner, other)
  · simp only [Prod.mk.injEq] at spent
    obtain ⟨rfl, rfl, rfl⟩ := spent
    simp [allowance]
  · simp only [allowance, Table.getD_insert, spent, if_false]
    exact allowance_of_transfer moving t owner other

theorem balanceOf_le_of_transferFrom_unless
    (transferred : l.transferFrom token spender sender receiver amount = .ok after) (t : Address)
    {holder : Address} (spared : holder = sender → receiver = sender ∨ amount = 0) :
    l.balanceOf t holder ≤ after.balanceOf t holder := by
  obtain ⟨-, moved, moving, rfl⟩ := transferFrom_eq_ok.mp transferred
  exact balanceOf_le_of_transfer_unless moving t spared

theorem balanceOf_le_of_transferFrom
    (transferred : l.transferFrom token spender sender receiver amount = .ok after) (t : Address)
    {holder : Address} (notSender : holder ≠ sender) :
    l.balanceOf t holder ≤ after.balanceOf t holder :=
  balanceOf_le_of_transferFrom_unless transferred t fun same => absurd same notSender

/-- Returning what a transfer on an allowance moved restores every balance but leaves the
allowance spent. -/
theorem transferFrom_back (transferred : l.transferFrom token spender sender receiver amount = .ok after)
    (inRange : l.balanceOf token sender < amountBound) :
    ∃ back, after.transfer token receiver sender amount = .ok back ∧
      back.allowances = after.allowances ∧ ∀ t holder, back.balanceOf t holder = l.balanceOf t holder := by
  obtain ⟨-, moved, moving, rfl⟩ := transferFrom_eq_ok.mp transferred
  obtain ⟨back, returned, -, restored⟩ := transfer_back moving inRange
  refine ⟨{ back with allowances := _ }, ?_, rfl, restored⟩
  rw [transfer_setAllowances, returned]
  rfl

theorem balanceOf_le_of_mint {minted : Ledger} (done : l.mint token receiver amount = .ok minted)
    (t holder : Address) : l.balanceOf t holder ≤ minted.balanceOf t holder := by
  simp only [mint, bind, Except.bind] at done
  split at done
  · cases done
  · split at done
    · cases done
    · split at done
      · cases done
      · cases done
        simp only [balanceOf, Table.getD_insert]
        split
        · rename_i same
          simp only [Prod.mk.injEq] at same
          obtain ⟨rfl, rfl⟩ := same
          simp
        · exact Nat.le_refl _

theorem balanceOf_of_approve {approved : Ledger} {owner : Address}
    (done : l.approve token owner spender amount = .ok approved) (t holder : Address) :
    approved.balanceOf t holder = l.balanceOf t holder := by
  simp only [approve, bind, Except.bind] at done
  split at done
  · cases done
  · cases done
    rfl

/-! Balances fit 128 bits: minting and crediting refuse to go past `amountBound`, and a debit
only lowers a balance. -/

def Bounded (l : Ledger) : Prop := ∀ token holder, l.balanceOf token holder < amountBound

theorem bounded_empty : Bounded {} := by
  intro token holder
  simp [balanceOf, Table.getD, amountBound]

theorem credit_lt_of_transfer (transferred : l.transfer token sender receiver amount = .ok moved)
    (differ : sender ≠ receiver) : l.balanceOf token receiver + amount < amountBound := by
  rw [transfer_eq] at transferred
  split at transferred
  · cases transferred
  · split at transferred
    · cases transferred
    · split at transferred
      · cases transferred
      · omega

theorem Bounded.transfer (bounded : l.Bounded)
    (transferred : l.transfer token sender receiver amount = .ok moved) : moved.Bounded := by
  intro t holder
  rw [balanceOf_of_transfer transferred]
  -- the sender's balance falls, the receiver's rises only as far as the transfer checked
  split
  · have := bounded t holder
    omega
  · split
    · rename_i credited
      obtain ⟨differ, rfl, rfl⟩ := credited
      exact credit_lt_of_transfer transferred differ
    · exact bounded t holder

theorem Bounded.transferFrom (bounded : l.Bounded)
    (transferred : l.transferFrom token spender sender receiver amount = .ok after) : after.Bounded := by
  obtain ⟨-, moved, moving, rfl⟩ := transferFrom_eq_ok.mp transferred
  -- lowering the allowance leaves every balance as the transfer left it
  exact fun t holder => bounded.transfer moving t holder

theorem Bounded.mint (bounded : l.Bounded) {minted : Ledger}
    (done : l.mint token receiver amount = .ok minted) : minted.Bounded := by
  simp only [Ledger.mint, bind, Except.bind] at done
  split at done
  · cases done
  · split at done
    · cases done
    · split at done
      · cases done
      · rename_i _ fits
        cases done
        intro t holder
        simp only [balanceOf, Table.getD_insert]
        split
        · rename_i same
          simp only [Prod.mk.injEq] at same
          obtain ⟨rfl, rfl⟩ := same
          exact Nat.lt_of_not_le fits
        · exact bounded t holder

theorem Bounded.approve (bounded : l.Bounded) {approved : Ledger} {owner : Address}
    (done : l.approve token owner spender amount = .ok approved) : approved.Bounded := by
  intro t holder
  rw [balanceOf_of_approve done]
  exact bounded t holder

end Ledger

/-! Reading the ledger and the oracle, and the fixed-point arithmetic, fail only with their own
faults: an unknown token, a missing price, an overflow or a division by zero. -/

def LockError.FromLedger : LockError → Prop
  | .unknownToken _ | .oracleUnavailable _ | .arithmeticOverflow | .divisionByZero => True
  | _ => False

theorem mulDiv_eq_error {a b d : Nat} {fault : LockError} (failed : mulDiv a b d = .error fault) :
    fault.FromLedger := by
  rcases mulDiv_error_cases failed with rfl | rfl <;> trivial

theorem marketCap_eq_error {supply price decimals : Nat} {fault : LockError}
    (failed : marketCap supply price decimals = .error fault) : fault.FromLedger := by
  unfold marketCap at failed
  rcases bind_eq_error.mp failed with unitFailed | ⟨unit, -, failed⟩
  · unfold tokenUnit at unitFailed
    split at unitFailed
    · cases unitFailed
    · cases unitFailed
      trivial
  · exact mulDiv_eq_error failed

namespace Ledger

variable {l : Ledger} {token : Address} {fault : LockError}

theorem tokenInfo_map_eq_error {α : Type} {detail : TokenInfo → α}
    (failed : (l.tokenInfo token).map detail = .error fault) : fault.FromLedger := by
  unfold tokenInfo at failed
  split at failed
  · cases failed
  · cases failed
    trivial

theorem burnRatio_eq_error {sink : Address} (failed : l.burnRatio token sink = .error fault) :
    fault.FromLedger := by
  unfold burnRatio at failed
  rcases bind_eq_error.mp failed with supplyFailed | ⟨supply, -, failed⟩
  · exact tokenInfo_map_eq_error supplyFailed
  · cases failed

theorem fetchPrice_eq_error (failed : l.fetchPrice token = .error fault) : fault.FromLedger := by
  unfold fetchPrice at failed
  split at failed
  · cases failed
  · cases failed
    trivial

theorem currentMarketCap_eq_error (failed : l.currentMarketCap token = .error fault) :
    fault.FromLedger := by
  unfold currentMarketCap at failed
  rcases bind_eq_error.mp failed with supplyFailed | ⟨supply, -, failed⟩
  · exact tokenInfo_map_eq_error supplyFailed
  rcases bind_eq_error.mp failed with priceFailed | ⟨price, -, failed⟩
  · exact fetchPrice_eq_error priceFailed
  rcases bind_eq_error.mp failed with decimalsFailed | ⟨decimals, -, failed⟩
  · exact tokenInfo_map_eq_error decimalsFailed
  · exact marketCap_eq_error failed

end Ledger

end Escrow
