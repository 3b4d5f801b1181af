import Mathlib.Algebra.Order.BigOperators.Group.Finset
import Mathlib.Algebra.BigOperators.Group.Finset.Piecewise
import Mathlib.Data.Fintype.EquivFin
import Escrow.Proofs.Ledger

/-! The ledger conserves supply.

A registered token's supply is what all holders hold of it together, that supply fits 128 bits,
and nobody holds a token that is not registered (`Ledger.Conserved`). Minting raises one
balance and the supply by the same amount; a transfer moves an amount from one balance to
another; registering keeps the supply of a token registered before, and starts a new one at
zero, which is what its holders hold. So every sequence of calls from the empty ledger keeps
the supply accounted for (`conserved_of_reachable`). Two balances of a token then fit in its
supply, so crediting a transfer never overflows (`Conserved.transfer_ne_overflow`).
-/

set_option autoImplicit false

namespace Escrow

def Address.equivFin : Address ≃ Fin (Nat.pow 2 160) where
  toFun a := ⟨a.val, a.isLt⟩
  invFun i := ⟨i.val, i.isLt⟩
  left_inv _ := rfl
  right_inv _ := rfl

instance : Fintype Address := Fintype.ofEquiv _ Address.equivFin.symm

theorem sum_eq_of_move {f g : Address → Nat} (sender receiver : Address) (amount : Nat)
    (moved : ∀ holder, g holder + (if holder = sender then amount else 0) =
      f holder + (if holder = receiver then amount else 0)) :
    ∑ holder, g holder = ∑ holder, f holder := by
  have total := Finset.sum_congr rfl fun holder (_ : holder ∈ Finset.univ) => moved holder
  simp only [Finset.sum_add_distrib, Finset.sum_ite_eq', Finset.mem_univ, if_true] at total
  omega

theorem add_le_sum {f : Address → Nat} {a b : Address} (differ : a ≠ b) :
    f a + f b ≤ ∑ holder, f holder := by
  rw [← Finset.sum_pair differ]
  exact Finset.sum_le_sum_of_subset (Finset.subset_univ _)

namespace Ledger

/-- One call of the ledger's token operations, with its arguments. -/
inductive Call where
  | register (token : Address) (symbol : String) (decimals : Nat)
  | mint (token receiver : Address) (amount : Nat)
  | approve (token owner spender : Address) (amount : Nat)
  | transfer (token sender receiver : Address) (amount : Nat)
  | transferFrom (token spender owner receiver : Address) (amount : Nat)

def Call.apply : Call → Ledger → Except LockError Ledger
  | .register token symbol decimals, l => .ok (l.register token symbol decimals)
  | .mint token receiver amount, l => l.mint token receiver amount
  | .approve token owner spender amount, l => l.approve token owner spender amount
  | .transfer token sender receiver amount, l => l.transfer token sender receiver amount
  | .transferFrom token spender owner receiver amount, l =>
    l.transferFrom token spender owner receiver amount

def Call.perform (call : Call) (l : Ledger) : Ledger :=
  match call.apply l with
  | .ok after => after
  | .error _ => l

/-- The ledgers that a sequence of calls reaches from the empty ledger. -/
inductive Reachable : Ledger → Prop
  | empty : Reachable {}
  | call {l : Ledger} (call : Call) (reached : Reachable l) : Reachable (call.perform l)

/-- Every registered token's supply is what all holders hold of it and fits 128 bits, and nobody
holds an unregistered token. -/
structure Conserved (l : Ledger) : Prop where
  supply : ∀ token, (l.tokens.get? token).isSome →
    l.totalSupply token = .ok (∑ holder, l.balanceOf token holder)
  unregistered : ∀ token, l.tokens.get? token = none → ∀ holder, l.balanceOf token holder = 0
  inRange : ∀ token info, l.tokens.get? token = some info → info.totalSupply < amountBound

variable {l after : Ledger} {token : Address}

theorem totalSupply_of_get? {info : TokenInfo} (registered : l.tokens.get? token = some info) :
    l.totalSupply token = .ok info.totalSupply := by
  simp [totalSupply, tokenInfo, registered, Except.map]

theorem get?_of_tokenInfo {info : TokenInfo} (known : l.tokenInfo token = .ok info) :
    l.tokens.get? token = some info := by
  unfold tokenInfo at known
  split at known
  · cases known
    assumption
  · cases known

theorem Conserved.supply_eq (conserved : l.Conserved) {info : TokenInfo}
    (registered : l.tokens.get? token = some info) :
    info.totalSupply = ∑ holder, l.balanceOf token holder := by
  have same := conserved.supply token (by simp [registered])
  rw [totalSupply_of_get? registered] at same
  exact Except.ok.inj same

theorem Conserved.balanceOf_le_supply (conserved : l.Conserved) {supply : Nat}
    (supplied : l.totalSupply token = .ok supply) (holder : Address) :
    l.balanceOf token holder ≤ supply := by
  cases registered : l.tokens.get? token with
  | none =>
    rw [conserved.unregistered token registered holder]
    exact Nat.zero_le _
  | some info =>
    have total := conserved.supply token (by simp [registered])
    rw [supplied, Except.ok.injEq] at total
    rw [total]
    exact Finset.single_le_sum (fun _ _ => Nat.zero_le _) (Finset.mem_univ holder)

theorem Conserved.congr (conserved : l.Conserved) (sameTokens : after.tokens = l.tokens)
    (sameBalances : after.balances = l.balances) : after.Conserved := by
  have sameBalance : ∀ token holder, after.balanceOf token holder = l.balanceOf token holder :=
    fun _ _ => by simp [balanceOf, sameBalances]
  refine ⟨fun token registered => ?_, fun token unregistered holder => ?_,
    fun token info registered => ?_⟩
  · simp only [totalSupply, tokenInfo, sameTokens, sameBalance] at registered ⊢
    exact conserved.supply token registered
  · rw [sameBalance]
    exact conserved.unregistered token (sameTokens ▸ unregistered) holder
  · exact conserved.inRange token info (sameTokens ▸ registered)

theorem conserved_empty : Conserved {} where
  supply token registered := by simp at registered
  unregistered _ _ holder := by simp [balanceOf, Table.getD]
  inRange _ _ registered := by simp at registered

/-! ### What each call does to the supply -/

section Register

variable {symbol : String} {decimals : Nat}

theorem tokens_register :
    (l.register token symbol decimals).tokens = l.tokens.insert token
      { symbol, decimals, totalSupply := ((l.tokens.get? token).map TokenInfo.totalSupply).getD 0 } :=
  rfl

theorem Conserved.register (conserved : l.Conserved) : (l.register token symbol decimals).Conserved := by
  -- the registered token keeps its supply, or starts at zero with every balance zero
  have supplyKept : ((l.tokens.get? token).map TokenInfo.totalSupply).getD 0 =
      ∑ holder, l.balanceOf token holder := by
    cases registered : l.tokens.get? token with
    | some info => exact conserved.supply_eq registered
    | none =>
      exact (Finset.sum_eq_zero fun holder _ => conserved.unregistered token registered holder).symm
  have sameBalance : ∀ t holder, (l.register token symbol decimals).balanceOf t holder =
      l.balanceOf t holder := fun _ _ => rfl
  have otherToken : ∀ t, token ≠ t → (l.register token symbol decimals).tokens.get? t = l.tokens.get? t :=
    fun t other => by rw [tokens_register, Table.get?_insert_ne _ _ other]
  refine ⟨fun t registered => ?_, fun t unregistered holder => ?_, fun t info registered => ?_⟩
  · simp only [sameBalance]
    by_cases same : token = t
    · subst same
      rw [totalSupply_of_get? (by rw [tokens_register, Table.get?_insert_self])]
      exact congrArg Except.ok supplyKept
    · rw [otherToken t same] at registered
      rw [← conserved.supply t registered]
      simp only [totalSupply, tokenInfo, otherToken t same]
  · have other : token ≠ t := by
      rintro rfl
      rw [tokens_register, Table.get?_insert_self] at unregistered
      cases unregistered
    rw [sameBalance]
    exact conserved.unregistered t (otherToken t other ▸ unregistered) holder
  · by_cases same : token = t
    · subst same
      rw [tokens_register, Table.get?_insert_self, Option.some.injEq] at registered
      subst registered
      cases before : l.tokens.get? token with
      | some old => simpa [before] using conserved.inRange token old before
      | none => simp [amountBound]
    · exact conserved.inRange t info (otherToken t same ▸ registered)

end Register

section Mint

variable {receiver : Address} {amount : Nat}

theorem exists_of_mint_eq_ok (minted : l.mint token receiver amount = .ok after) :
    ∃ info, l.tokens.get? token = some info ∧ info.totalSupply + amount < amountBound ∧
      after = { l with
        tokens := l.tokens.insert token { info with totalSupply := info.totalSupply + amount }
        balances := l.balances.insert (token, receiver) (l.balanceOf token receiver + amount) } := by
  cases known : l.tokenInfo token with
  | error fault => simp [mint, known, bind, Except.bind] at minted
  | ok info =>
    simp only [mint, known, bind, Except.bind] at minted
    split at minted
    · cases minted
    · rename_i fits
      split at minted
      · cases minted
      · cases minted
        exact ⟨info, get?_of_tokenInfo known, Nat.lt_of_not_le fits, rfl⟩

theorem balanceOf_of_mint (minted : l.mint token receiver amount = .ok after) (t holder : Address) :
    after.balanceOf t holder =
      l.balanceOf t holder + if t = token ∧ holder = receiver then amount else 0 := by
  obtain ⟨info, -, -, rfl⟩ := exists_of_mint_eq_ok minted
  by_cases here : t = token ∧ holder = receiver
  · obtain ⟨rfl, rfl⟩ := here
    simp [balanceOf]
  · have other : (token, receiver) ≠ (t, holder) := by
      rintro ⟨⟩
      exact here ⟨rfl, rfl⟩
    simp only [here, if_false, Nat.add_zero]
    exact Table.getD_insert_ne _ _ _ other

theorem Conserved.mint (conserved : l.Conserved) (minted : l.mint token receiver amount = .ok after) :
    after.Conserved := by
  obtain ⟨info, registered, fits, shape⟩ := exists_of_mint_eq_ok minted
  have raised := balanceOf_of_mint minted
  have tokensAfter : after.tokens = l.tokens.insert token
      { info with totalSupply := info.totalSupply + amount } := by rw [shape]
  refine ⟨fun t registered' => ?_, fun t unregistered holder => ?_, fun t info' registered' => ?_⟩
  · by_cases same : t = token
    · -- the supply and the receiver's balance rise by the same amount
      subst same
      rw [totalSupply_of_get? (by rw [tokensAfter, Table.get?_insert_self])]
      simp only [raised, true_and, Finset.sum_add_distrib, Finset.sum_ite_eq', Finset.mem_univ,
        if_true, conserved.supply_eq registered]
    · have before : (l.tokens.get? t).isSome := by
        simpa [tokensAfter, Table.get?_insert_ne _ _ (Ne.symm same)] using registered'
      have sameTotal : after.totalSupply t = l.totalSupply t := by
        simp [totalSupply, tokenInfo, tokensAfter, Table.get?_insert_ne _ _ (Ne.symm same)]
      simp only [sameTotal, raised, same, false_and, if_false, Nat.add_zero]
      exact conserved.supply t before
  · have other : t ≠ token := by
      rintro rfl
      simp [tokensAfter] at unregistered
    rw [raised, conserved.unregistered t (by
      simpa [tokensAfter, Table.get?_insert_ne _ _ (Ne.symm other)] using unregistered) holder]
    simp [other]
  · by_cases same : t = token
    · subst same
      rw [tokensAfter, Table.get?_insert_self, Option.some.injEq] at registered'
      subst registered'
      exact fits
    · exact conserved.inRange t info' (by
        simpa [tokensAfter, Table.get?_insert_ne _ _ (Ne.symm same)] using registered')

end Mint

section Transfer

variable {sender receiver : Address} {amount : Nat}

theorem sum_balanceOf_of_transfer (transferred : l.transfer token sender receiver amount = .ok after)
    (t : Address) : ∑ holder, after.balanceOf t holder = ∑ holder, l.balanceOf t holder := by
  have moving := balanceOf_of_transfer transferred t
  by_cases moves : sender ≠ receiver ∧ t = token
  · obtain ⟨differ, rfl⟩ := moves
    have held := le_balanceOf_of_transfer transferred
    -- the sender gives what the receiver gets
    refine sum_eq_of_move sender receiver amount fun holder => ?_
    rw [moving]
    by_cases fromSender : holder = sender
    · subst fromSender
      simp [differ]
      omega
    · by_cases toReceiver : holder = receiver
      · subst toReceiver
        simp [differ, fromSender]
      · simp [fromSender, toReceiver]
  · refine Finset.sum_congr rfl fun holder _ => ?_
    rw [moving]
    have unmoved : ¬(sender ≠ receiver ∧ t = token ∧ holder = sender) ∧
        ¬(sender ≠ receiver ∧ t = token ∧ holder = receiver) :=
      ⟨fun ⟨differ, same, _⟩ => moves ⟨differ, same⟩, fun ⟨differ, same, _⟩ => moves ⟨differ, same⟩⟩
    simp only [unmoved.1, unmoved.2, if_false]

theorem Conserved.transfer (conserved : l.Conserved)
    (transferred : l.transfer token sender receiver amount = .ok after) : after.Conserved := by
  obtain ⟨sameTokens, -, -⟩ := transfer_frame transferred
  obtain ⟨info, known⟩ := tokenInfo_of_transfer transferred
  refine ⟨fun t registered => ?_, fun t unregistered holder => ?_, fun t info' registered => ?_⟩
  · have sameTotal : after.totalSupply t = l.totalSupply t := by
      simp [totalSupply, tokenInfo, sameTokens]
    rw [sameTotal, sum_balanceOf_of_transfer transferred t]
    exact conserved.supply t (sameTokens ▸ registered)
  · -- the token moved is registered, so an unregistered one is another token
    have other : t ≠ token := by
      rintro rfl
      rw [sameTokens, get?_of_tokenInfo known] at unregistered
      cases unregistered
    rw [balanceOf_of_transfer transferred]
    simp only [other, false_and, and_false, if_false]
    exact conserved.unregistered t (sameTokens ▸ unregistered) holder
  · exact conserved.inRange t info' (sameTokens ▸ registered)

theorem Conserved.transfer_ne_overflow (conserved : l.Conserved) :
    l.transfer token sender receiver amount ≠ .error .arithmeticOverflow := by
  intro overflowed
  rw [transfer_eq] at overflowed
  cases known : l.tokenInfo token with
  | error fault =>
    rw [known] at overflowed
    unfold tokenInfo at known
    split at known <;> cases known
    cases overflowed
  | ok info =>
    rw [known] at overflowed
    have registered := get?_of_tokenInfo known
    have within := conserved.inRange token info registered
    rw [conserved.supply_eq registered] at within
    simp only at overflowed
    split at overflowed
    · cases overflowed
    · rename_i enough
      split at overflowed
      · cases overflowed
      · rename_i differ
        have together := add_le_sum (f := l.balanceOf token) differ
        split at overflowed
        · rename_i past
          omega
        · cases overflowed

theorem Conserved.transferFrom_ne_overflow (conserved : l.Conserved) {spender : Address} :
    l.transferFrom token spender sender receiver amount ≠ .error .arithmeticOverflow := by
  intro overflowed
  simp only [transferFrom, bind, Except.bind] at overflowed
  split at overflowed
  · cases overflowed
  · cases moving : l.transfer token sender receiver amount with
    | error fault =>
      rw [moving] at overflowed
      cases overflowed
      exact conserved.transfer_ne_overflow moving
    | ok moved =>
      rw [moving] at overflowed
      cases overflowed

theorem Conserved.transferFrom (conserved : l.Conserved) {spender : Address}
    (transferred : l.transferFrom token spender sender receiver amount = .ok after) :
    after.Conserved := by
  obtain ⟨-, moved, moving, rfl⟩ := transferFrom_eq_ok.mp transferred
  exact (conserved.transfer moving).congr rfl rfl

end Transfer

theorem Conserved.approve (conserved : l.Conserved) {owner spender : Address} {amount : Nat}
    (approved : l.approve token owner spender amount = .ok after) : after.Conserved := by
  simp only [Ledger.approve, bind, Except.bind] at approved
  split at approved
  · cases approved
  · cases approved
    exact conserved.congr rfl rfl

theorem Conserved.setPrice (conserved : l.Conserved) (price : Nat) :
    (l.setPrice token price).Conserved :=
  conserved.congr rfl rfl

theorem Conserved.perform (conserved : l.Conserved) (call : Call) : (call.perform l).Conserved := by
  unfold Call.perform
  cases calling : call.apply l with
  | error fault => exact conserved
  | ok after =>
    cases call with
    | register token symbol decimals =>
      cases calling
      exact conserved.register
    | mint token receiver amount => exact conserved.mint calling
    | approve token owner spender amount => exact conserved.approve calling
    | transfer token sender receiver amount => exact conserved.transfer calling
    | transferFrom token spender owner receiver amount => exact conserved.transferFrom calling

theorem conserved_of_reachable (reached : l.Reachable) : l.Conserved := by
  induction reached with
  | empty => exact conserved_empty
  | call call _ conserved => exact conserved.perform call

end Ledger

end Escrow
