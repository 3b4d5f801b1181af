import Escrow.Proofs.Engine.Consistency

/-! Unlocking pays a lock out once.

A successful unlock finds its lock active and leaves it consumed, with what it paid and what it
retained. No operation writes a consumed lock again (`settled_perform`), so along any operations
each lock is paid out at most once (`nodup_unlockedAlong`), and every later call with a valid mode
is refused for the lock's state or its owner. A refused call leaves every lock and every balance
as it found them, a failed payout included. What a call pays is the mode's share of the amount,
never more than the amount; lock amounts fit 128 bits along every run (`Store.Bounded`), so the
payout's arithmetic never overflows, and an overflow can only come from evaluating the policy.
-/

set_option autoImplicit false

namespace Escrow

open Escrow.Action

theorem fixedOne_ne_zero : fixedOne ≠ 0 := by decide

namespace UnlockMode

def share : UnlockMode → Nat → Nat
  | .full, amount => amount
  | .fraction ratio, amount => amount * ratio / fixedOne

theorem ratio_of_validate {ratio : Nat} (valid : (fraction ratio).validate = .ok ()) :
    0 < ratio ∧ ratio ≤ fixedOne := by
  by_cases outside : (ratio = 0 || ratio > fixedOne) = true
  · simp [validate, outside] at valid
  · simp only [Bool.or_eq_true, decide_eq_true_eq, not_or] at outside
    omega

theorem share_le {mode : UnlockMode} (valid : mode.validate = .ok ()) (amount : Nat) :
    mode.share amount ≤ amount := by
  cases mode with
  | full => exact Nat.le_refl amount
  | fraction ratio =>
    have atMostOne := (ratio_of_validate valid).2
    calc amount * ratio / fixedOne ≤ amount * fixedOne / fixedOne :=
          Nat.div_le_div_right (Nat.mul_le_mul_left amount atMostOne)
      _ = amount := Nat.mul_div_cancel amount (Nat.pos_of_ne_zero fixedOne_ne_zero)

theorem payout_eq_ok {mode : UnlockMode} {amount paid : Nat} (paying : mode.payout amount = .ok paid) :
    paid = mode.share amount := by
  cases mode with
  | full =>
    cases paying
    rfl
  | fraction ratio => exact mulDiv_eq_ok paying

theorem payout_eq_share {mode : UnlockMode} (valid : mode.validate = .ok ()) {amount : Nat}
    (fits : amount < amountBound) : mode.payout amount = .ok (mode.share amount) := by
  cases mode with
  | full => rfl
  | fraction ratio =>
    have atMost := share_le valid amount
    have ratioFits : ratio < amountBound :=
      Nat.lt_of_le_of_lt (ratio_of_validate valid).2 (by decide)
    simp only [share] at atMost
    simp only [payout, mulDiv_eq fixedOne fits ratioFits, fixedOne_ne_zero, if_false]
    rw [if_pos (by omega)]
    rfl

theorem validate_of_decode {code : Nat} {data : List UInt8} {mode : UnlockMode}
    (decoded : decode code data = .ok mode) : mode.validate = .ok () := by
  unfold decode at decoded
  split at decoded
  · cases decoded
    rfl
  · split at decoded
    · -- the ratio read from the payload passed the check before the mode is returned
      simp only [bind, Except.bind] at decoded
      repeat' split at decoded
      all_goals cases decoded <;> assumption
    · cases decoded

end UnlockMode

/-! ### Amounts fit 128 bits along every run -/

/-- Every balance, and every lock's amount, fits 128 bits. -/
structure Store.Bounded (st : Store) : Prop where
  balances : st.ledger.Bounded
  amounts : ∀ id l, st.locks.get? id = some l → l.amount < amountBound

theorem FeeCharge.netOf_le (charge : FeeCharge) (amount : Nat) : charge.netOf amount ≤ amount := by
  cases charge <;> simp only [FeeCharge.netOf] <;> omega

theorem Ledger.Bounded.chargeFee {l charged : Ledger} (bounded : l.Bounded)
    {custody owner token : Address} {charge : FeeCharge}
    (charging : l.chargeFee custody owner token charge = .ok charged) : charged.Bounded := by
  cases charge with
  | none =>
    cases charging
    exact bounded
  | percent wallet fee => exact bounded.transfer charging
  | flat wallet feeToken fee => exact bounded.transferFrom charging

theorem Ledger.Bounded.payout {l paidOut : Ledger} (bounded : l.Bounded) {token custody recipient : Address}
    {paid : Nat}
    (paying : (if 0 < paid then l.transfer token custody recipient paid else .ok l) = .ok paidOut) :
    paidOut.Bounded := by
  split at paying
  · exact bounded.transfer paying
  · cases paying
    exact bounded

namespace Store.Bounded

variable {st : Store}

theorem setState (bounded : st.Bounded) {id : Nat} {l : Lock} (found : st.locks.get? id = some l)
    (state : LockState) {ledger : Ledger} (inRange : ledger.Bounded) :
    Bounded { st.putLock { l with state } with ledger } := by
  refine ⟨inRange, fun k l' present => ?_⟩
  simp only [locks_putLock] at present
  by_cases here : l.id = k
  · subst here
    rw [Table.get?_insert_self] at present
    cases present
    exact bounded.amounts id l found
  · rw [Table.get?_insert_ne _ _ here] at present
    exact bounded.amounts k l' present

theorem restore (bounded : st.Bounded) {id : Nat} {l : Lock} (found : st.locks.get? id = some l)
    (state : LockState) : Bounded ((st.putLock { l with state }).putLock l) := by
  have marked := bounded.setState found state bounded.balances
  refine ⟨bounded.balances, fun k l' present => ?_⟩
  simp only [locks_putLock] at present
  by_cases here : l.id = k
  · subst here
    rw [Table.get?_insert_self] at present
    cases present
    exact bounded.amounts id l found
  · rw [Table.get?_insert_ne _ _ here] at present
    exact marked.amounts k l' (by simpa using present)

end Store.Bounded

theorem Store.bounded_empty (config? : Option Config) : Bounded { config? } :=
  ⟨Ledger.bounded_empty, fun id l found => by simp at found⟩

namespace Action

variable {s : Session}

theorem bounded_create (bounded : s.engine.store.Bounded) (caller : Address) (req : LockRequest)
    (now : Int) : (sessionAfter ((create caller req now).run s)).engine.store.Bounded := by
  rcases run_create_cases (show (create caller req now).run s = _ from rfl) with
    ⟨fault, refused⟩ | ⟨charge, intake, inner, after, -, taking, -, refused, restored⟩ |
      ⟨compiled, refs, records, next, charge, intake, charged, after, -, -, -, -, taking, charging,
        accepted, written⟩
  · rw [refused]
    exact bounded
  · -- the intake is refunded if it can be; either way every balance stays in range
    rw [refused, sessionAfter_error, restored]
    have intaken := bounded.balances.transferFrom taking
    refine ⟨?_, bounded.amounts⟩
    split
    · exact intaken.transfer ‹_›
    · exact intaken
  · rw [accepted, sessionAfter_ok, written]
    -- the new lock holds at most what its owner held
    obtain ⟨-, moved, moving, -⟩ := Ledger.transferFrom_eq_ok.mp taking
    have held := Ledger.le_balanceOf_of_transfer moving
    have fits := bounded.balances req.token caller
    have net := FeeCharge.netOf_le charge req.amount
    refine ⟨?_, fun id l found => ?_⟩
    · simp only [Store.foldl_putCriterion, Store.ledger_putLock]
      exact (bounded.balances.transferFrom taking).chargeFee charging
    · simp only [Store.foldl_putCriterion, Store.locks_putLock] at found
      by_cases here : s.engine.store.nextLockId = id
      · subst here
        rw [Table.get?_insert_self] at found
        cases found
        show charge.netOf req.amount < amountBound
        omega
      · rw [Table.get?_insert_ne _ _ here] at found
        exact bounded.amounts id l found

theorem bounded_unlockWith (bounded : s.engine.store.Bounded) (caller : Address) (id : Nat)
    (recipient : Address) (mode : UnlockMode) (now : Int) :
    (sessionAfter ((unlockWith caller id recipient mode now).run s)).engine.store.Bounded := by
  rcases run_unlockWith_cases (show (unlockWith caller id recipient mode now).run s = _ from rfl) with
    ⟨fault, after, refused, same, -⟩ |
      ⟨l, paid, inner, after, found, -, -, -, -, -, -, refused, restored⟩ |
      ⟨l, paid, paidOut, checked, after, -, found, -, -, -, -, -, paying, accepted, written⟩
  · rw [refused, sessionAfter_error, same]
    exact bounded
  · rw [refused, sessionAfter_error, restored]
    exact bounded.restore found _
  · rw [accepted, sessionAfter_ok, written]
    exact bounded.setState found _ (bounded.balances.payout paying)

theorem bounded_unlock (bounded : s.engine.store.Bounded) (caller : Address) (id : Nat)
    (recipient : Address) (mode : Nat) (data : List UInt8) (now : Int) :
    (sessionAfter ((unlock caller id recipient mode data now).run s)).engine.store.Bounded := by
  rw [run_unlock]
  cases UnlockMode.decode mode data with
  | ok decoded => exact bounded_unlockWith bounded caller id recipient decoded now
  | error fault => exact bounded

theorem bounded_sign (bounded : s.engine.store.Bounded) (signer : Address) (id : Nat)
    (proof : List Digest) : (sessionAfter ((sign signer id proof).run s)).engine.store.Bounded := by
  rcases engine_sign signer id proof s with same | ⟨record, signed⟩
  · rw [same]
    exact bounded
  · rw [signed]
    exact ⟨bounded.balances, bounded.amounts⟩

theorem bounded_reopen (bounded : s.engine.store.Bounded) (config : Option Config) :
    (sessionAfter ((reopen config).run s)).engine.store.Bounded := by
  rcases engine_reopen config s with same | ⟨c, -, started⟩
  · rw [same]
    exact bounded
  · obtain ⟨reopened, -⟩ := Engine.start_eq_ok started
    rw [reopened]
    exact ⟨bounded.balances, bounded.amounts⟩

theorem ResetsSettings.bounded {α : Type} {action : Action α} (resets : ResetsSettings action)
    (bounded : s.engine.store.Bounded) : (sessionAfter (action.run s)).engine.store.Bounded := by
  rcases resets s with same | ⟨next, -, changed⟩
  · rw [same]
    exact bounded
  · rw [changed]
    exact ⟨bounded.balances, bounded.amounts⟩

theorem ReplacesLedger.bounded {α : Type} {action : Action α}
    {change : Ledger → Except LockError Ledger} (replaces : ReplacesLedger action change)
    (keeps : ∀ l l', l.Bounded → change l = .ok l' → l'.Bounded) (bounded : s.engine.store.Bounded) :
    (sessionAfter (action.run s)).engine.store.Bounded := by
  rw [replaces s]
  cases changing : change s.engine.store.ledger with
  | ok l => exact ⟨keeps _ _ bounded.balances changing, bounded.amounts⟩
  | error fault => exact bounded

end Action

theorem bounded_perform {s : Session} (bounded : s.engine.store.Bounded) (op : Operation) :
    (op.perform s).engine.store.Bounded := by
  cases op with
  | create caller req now => exact bounded_create bounded caller req now
  | unlock caller id recipient mode data now =>
    exact bounded_unlock bounded caller id recipient mode data now
  | unlockWith caller id recipient mode now =>
    exact bounded_unlockWith bounded caller id recipient mode now
  | sign signer id proof => exact bounded_sign bounded signer id proof
  | checkUnlock id now =>
    show (sessionAfter ((checkUnlock id now).run s)).engine.store.Bounded
    rw [keepsEngine_checkUnlock id now s]
    exact bounded
  | setFeeWallet wallet => exact (resetsSettings_setFeeWallet wallet).bounded bounded
  | setFeeToken token => exact (resetsSettings_setFeeToken token).bounded bounded
  | setFeeAmount amount => exact (resetsSettings_setFeeAmount amount).bounded bounded
  | setFeePercent percent => exact (resetsSettings_setFeePercent percent).bounded bounded
  | toggleFeeType token => exact (resetsSettings_toggleFeeType token).bounded bounded
  | toggleBurnSink sink => exact (resetsSettings_toggleBurnSink sink).bounded bounded
  | reopen config => exact bounded_reopen bounded config
  | registerToken token symbol decimals =>
    -- registering rewrites a token's details, never a balance
    exact (replacesLedger_registerToken token symbol decimals).bounded
      (fun l _ inRange registered => by cases registered; exact inRange) bounded
  | mint token receiver amount =>
    exact (replacesLedger_mint token receiver amount).bounded
      (fun _ _ inRange minted => inRange.mint minted) bounded
  | approve token owner spender amount =>
    exact (replacesLedger_approve token owner spender amount).bounded
      (fun _ _ inRange approved => inRange.approve approved) bounded
  | transfer token sender receiver amount =>
    exact (replacesLedger_transfer token sender receiver amount).bounded
      (fun _ _ inRange moved => inRange.transfer moved) bounded
  | transferFrom token spender owner receiver amount =>
    exact (replacesLedger_transferFrom token spender owner receiver amount).bounded
      (fun _ _ inRange moved => inRange.transferFrom moved) bounded
  | setPrice token price =>
    exact (replacesLedger_setPrice token price).bounded
      (fun l _ inRange priced => by cases priced; exact inRange) bounded

theorem bounded_of_reachable {allowed : Operation → Session → Prop} {s : Session}
    (reached : Reachable allowed s) : s.engine.store.Bounded := by
  induction reached with
  | start config started =>
    obtain ⟨rfl, -⟩ := Engine.start_eq_ok started
    exact Store.bounded_empty _
  | step _ _ bounded => exact bounded_perform bounded _

/-! ### One unlock call -/

namespace Action

variable {s : Session} {caller : Address} {id : Nat} {recipient : Address} {mode : UnlockMode}
  {now : Int}

/-- A successful unlock found its lock active and owned by the caller, paid the mode's share of
it, marked it consumed under its id, and paid out of custody. -/
theorem unlockWith_eq_ok (consistent : s.engine.store.Consistent) {paid : Nat} {after : Session}
    (ran : (unlockWith caller id recipient mode now).run s = .ok paid after) :
    ∃ l paidOut, s.engine.store.locks.get? id = some l ∧ l.owner = caller ∧ l.isActive = true ∧
      mode.validate = .ok () ∧ paid = mode.share l.amount ∧ paid ≤ l.amount ∧
      (if 0 < paid then
        s.engine.store.ledger.transfer l.token s.engine.config.custody recipient paid
      else .ok s.engine.store.ledger) = .ok paidOut ∧
      after.engine.store.ledger = paidOut ∧
      ∀ k, after.engine.store.locks.get? k =
        if id = k then some { l with state := .consumed now recipient paid (l.amount - paid) }
        else s.engine.store.locks.get? k := by
  rcases run_unlockWith_cases ran with ⟨_, _, refused, -⟩ | ⟨_, _, _, _, -, -, -, -, -, -, -, refused, -⟩ |
    ⟨l, paid', paidOut, checked, after', valid, found, owner, active, -, paying, within, payingOut,
      accepted, written⟩
  · cases refused
  · cases refused
  cases accepted
  have keyed := consistent.keyed id l found
  refine ⟨l, paidOut, found, owner, active, valid, UnlockMode.payout_eq_ok paying, within, payingOut,
    by rw [written], fun k => ?_⟩
  rw [written]
  by_cases here : id = k
  · subst here
    simp [keyed]
  · simp [keyed, Table.get?_insert_ne _ _ here, here]

/-- A refused unlock leaves every lock and the ledger as it found them: either nothing was
written, or the payout failed and the active lock went back over the consumed one. -/
theorem unlockWith_eq_error (consistent : s.engine.store.Consistent) {fault : LockError}
    {after : Session} (ran : (unlockWith caller id recipient mode now).run s = .error fault after) :
    (∀ k, after.engine.store.locks.get? k = s.engine.store.locks.get? k) ∧
      after.engine.store.ledger = s.engine.store.ledger := by
  rcases run_unlockWith_cases ran with ⟨_, _, refused, same, -⟩ |
    ⟨l, paid, inner, after', found, -, -, -, -, -, -, refused, restored⟩ |
    ⟨_, _, _, _, _, -, -, -, -, -, -, -, -, accepted, -⟩
  · cases refused
    rw [same]
    exact ⟨fun _ => rfl, rfl⟩
  · cases refused
    have keyed := consistent.keyed id l found
    refine ⟨fun k => ?_, by rw [restored]; rfl⟩
    rw [restored]
    by_cases here : l.id = k
    · subst here
      simp only [Store.locks_putLock, Table.get?_insert_self]
      rw [keyed, found]
    · simp [Table.get?_insert_ne _ _ here]
  · cases accepted

/-- A consumed lock refuses every unlock with a valid mode: the owner for the lock's state, anyone
else for not owning it. -/
theorem unlockWith_of_consumed {l : Lock} {owner : Address}
    (found : s.engine.store.locks.get? id = some l) (consumed : l.isActive = false)
    (owned : l.owner = owner) (valid : mode.validate = .ok ()) :
    ∃ after, (unlockWith caller id recipient mode now).run s =
      .error (if caller = owner then .unlockConditionsMismatch else .notLockOwner) after := by
  subst owned
  -- every way past the state check needs the lock active
  have notActive : ∀ l', s.engine.store.locks.get? id = some l' → l'.isActive = true → False := by
    intro l' found' active
    rw [found] at found'
    cases found'
    simp [consumed] at active
  rcases run_unlockWith_cases (show (unlockWith caller id recipient mode now).run s = _ from rfl) with
    ⟨fault, after, refused, -, why⟩ | ⟨l', _, _, _, found', -, active, -⟩ |
      ⟨l', _, _, _, _, -, found', -, active, -⟩
  · refine ⟨after, ?_⟩
    rw [refused]
    cases why with
    | invalidMode invalid => simp [valid] at invalid
    | missing _ absent => simp [found] at absent
    | notOwner _ found' other =>
      rw [found] at found'
      cases found'
      rw [if_neg (Ne.symm other)]
    | consumed _ found' owner _ =>
      rw [found] at found'
      cases found'
      rw [if_pos owner.symm]
    | unmet _ found' _ active _ => exact (notActive _ found' active).elim
    | unevaluated _ found' _ active _ => exact (notActive _ found' active).elim
    | unpayable _ found' _ active _ _ => exact (notActive _ found' active).elim
    | overpaid _ found' _ active _ _ _ => exact (notActive _ found' active).elim
  · exact (notActive _ found' active).elim
  · exact (notActive _ found' active).elim

/-- With a valid mode, an unlock that fails with an overflow failed evaluating the lock's policy,
as asking whether the lock unlocks then does: the payout itself never overflows. -/
theorem checkUnlock_of_unlockWith_overflow (bounded : s.engine.store.Bounded)
    (valid : mode.validate = .ok ()) {after : Session}
    (ran : (unlockWith caller id recipient mode now).run s = .error .arithmeticOverflow after) :
    ∃ checked, (checkUnlock id now).run s = .error .arithmeticOverflow checked := by
  rcases run_unlockWith_cases ran with ⟨fault, _, refused, -, why⟩ |
    ⟨_, _, _, _, -, -, -, -, -, -, -, refused, -⟩ | ⟨_, _, _, _, _, -, -, -, -, -, -, -, -, accepted, -⟩
  · cases refused
    cases why with
    | invalidMode invalid => simp [valid] at invalid
    | unevaluated _ found _ _ evaluating =>
      unfold checkUnlock
      rw [EStateM.run_bind, run_loadLock, found]
      exact ⟨_, evaluating⟩
    | unpayable _ found _ _ _ paying =>
      rw [UnlockMode.payout_eq_share valid (bounded.amounts id _ found)] at paying
      cases paying
    | overpaid _ found _ _ _ paying excess =>
      rw [UnlockMode.payout_eq_share valid (bounded.amounts id _ found)] at paying
      cases paying
      exact absurd excess (Nat.not_lt.mpr (UnlockMode.share_le valid _))
  · cases refused
  · cases accepted

end Action

theorem Ledger.balanceOf_of_payout {l paidOut : Ledger} {token custody recipient : Address}
    {paid : Nat}
    (paying : (if 0 < paid then l.transfer token custody recipient paid else .ok l) = .ok paidOut)
    (differ : recipient ≠ custody) :
    paidOut.balanceOf token recipient = l.balanceOf token recipient + paid ∧
      paidOut.balanceOf token custody + paid = l.balanceOf token custody ∧
      ∀ t holder, t ≠ token ∨ holder ≠ recipient ∧ holder ≠ custody →
        paidOut.balanceOf t holder = l.balanceOf t holder := by
  split at paying
  · have held := Ledger.le_balanceOf_of_transfer paying
    refine ⟨?_, ?_, fun t holder other => ?_⟩
    · simp [Ledger.balanceOf_of_transfer paying, differ, Ne.symm differ]
    · simp [Ledger.balanceOf_of_transfer paying, Ne.symm differ]
      omega
    · rw [Ledger.balanceOf_of_transfer paying]
      rcases other with otherToken | ⟨notRecipient, notCustody⟩
      · simp [otherToken]
      · simp [notRecipient, notCustody]
  · cases paying
    rename_i nothing
    refine ⟨by omega, by omega, fun _ _ _ => rfl⟩

/-! ### Consumed locks stay consumed -/

def Store.Settled (st st' : Store) : Prop :=
  ∀ id l, st.locks.get? id = some l → l.isActive = false → st'.locks.get? id = some l

namespace Store

theorem Settled.trans {st st' st'' : Store} (first : st.Settled st') (second : st'.Settled st'') :
    st.Settled st'' :=
  fun id l found consumed => second id l (first id l found consumed) consumed

theorem settled_of_locks {st st' : Store} (same : st'.locks = st.locks) : st.Settled st' :=
  fun _ _ found _ => by rw [same]; exact found

theorem settled_of_only {st st' : Store} (id : Nat)
    (others : ∀ k, id ≠ k → st'.locks.get? k = st.locks.get? k)
    (untouched : ∀ l, st.locks.get? id = some l → l.isActive = true) : st.Settled st' := by
  intro k l found consumed
  by_cases here : id = k
  · subst here
    simp [untouched l found] at consumed
  · rw [others k here]
    exact found

end Store

namespace Action

variable {s : Session}

theorem settled_create (consistent : s.engine.store.Consistent) (caller : Address)
    (req : LockRequest) (now : Int) :
    s.engine.store.Settled (sessionAfter ((create caller req now).run s)).engine.store := by
  rcases run_create_cases (show (create caller req now).run s = _ from rfl) with
    ⟨fault, refused⟩ | ⟨_, _, _, _, -, -, -, refused, restored⟩ |
      ⟨_, _, _, _, _, _, _, _, -, -, -, -, -, -, accepted, written⟩
  · rw [refused]
    exact Store.settled_of_locks rfl
  · rw [refused, sessionAfter_error, restored]
    exact Store.settled_of_locks rfl
  · -- the new lock goes under the lock counter, below which every stored lock sits
    rw [accepted, sessionAfter_ok, written]
    refine Store.settled_of_only s.engine.store.nextLockId (fun k here => ?_) fun l found => ?_
    · simp [Table.get?_insert_ne _ _ here]
    · have below := (consistent.lockIds s.engine.store.nextLockId).mp (by simp [found])
      omega

theorem settled_unlockWith (consistent : s.engine.store.Consistent) (caller : Address) (id : Nat)
    (recipient : Address) (mode : UnlockMode) (now : Int) :
    s.engine.store.Settled (sessionAfter ((unlockWith caller id recipient mode now).run s)).engine.store := by
  cases ran : (unlockWith caller id recipient mode now).run s with
  | error fault after =>
    obtain ⟨locks, -⟩ := unlockWith_eq_error consistent ran
    exact fun k l found _ => by rw [sessionAfter_error, locks]; exact found
  | ok paid after =>
    -- only the paid lock is written, and it was active
    obtain ⟨l, -, found, -, active, -, -, -, -, -, locks⟩ := unlockWith_eq_ok consistent ran
    refine Store.settled_of_only id (fun k here => ?_) fun l' found' => ?_
    · rw [sessionAfter_ok, locks, if_neg here]
    · rw [found] at found'
      cases found'
      exact active

end Action

namespace Action

theorem ResetsSettings.store_eq {α : Type} {action : Action α} (resets : ResetsSettings action)
    (s : Session) : ∃ config?, (sessionAfter (action.run s)).engine.store = { s.engine.store with config? } := by
  rcases resets s with same | ⟨next, -, changed⟩
  · exact ⟨s.engine.store.config?, by rw [same]⟩
  · exact ⟨some next, by rw [changed]⟩

theorem ReplacesLedger.store_eq {α : Type} {action : Action α}
    {change : Ledger → Except LockError Ledger} (replaces : ReplacesLedger action change) (s : Session) :
    ∃ ledger, (sessionAfter (action.run s)).engine.store = { s.engine.store with ledger } := by
  rw [replaces s]
  split
  · exact ⟨_, rfl⟩
  · exact ⟨s.engine.store.ledger, rfl⟩

end Action

open Escrow.Action

theorem Operation.perform_cases (op : Operation) (s : Session) :
    (∃ caller req now, op = .create caller req now) ∨
    (∃ caller id recipient mode data now, op = .unlock caller id recipient mode data now) ∨
    (∃ caller id recipient mode now, op = .unlockWith caller id recipient mode now) ∨
    (∃ signer id proof, op = .sign signer id proof) ∨
    ∃ config? ledger, (op.perform s).engine.store = { s.engine.store with config?, ledger } := by
  have settings {α : Type} {action : Action α} (resets : ResetsSettings action) :
      ∃ config? ledger, (sessionAfter (action.run s)).engine.store =
        { s.engine.store with config?, ledger } := by
    obtain ⟨config?, same⟩ := resets.store_eq s
    exact ⟨config?, s.engine.store.ledger, same⟩
  have ledger {α : Type} {action : Action α} {change : Ledger → Except LockError Ledger}
      (replaces : ReplacesLedger action change) :
      ∃ config? ledger, (sessionAfter (action.run s)).engine.store =
        { s.engine.store with config?, ledger } := by
    obtain ⟨ledger, same⟩ := replaces.store_eq s
    exact ⟨s.engine.store.config?, ledger, same⟩
  cases op
  case create caller req now => exact .inl ⟨caller, req, now, rfl⟩
  case unlock caller id recipient mode data now =>
    exact .inr (.inl ⟨caller, id, recipient, mode, data, now, rfl⟩)
  case unlockWith caller id recipient mode now =>
    exact .inr (.inr (.inl ⟨caller, id, recipient, mode, now, rfl⟩))
  case sign signer id proof => exact .inr (.inr (.inr (.inl ⟨signer, id, proof, rfl⟩)))
  all_goals refine .inr (.inr (.inr (.inr ?_)))
  case checkUnlock id now =>
    exact ⟨s.engine.store.config?, s.engine.store.ledger,
      congrArg Engine.store (keepsEngine_checkUnlock id now s)⟩
  case reopen config =>
    -- a reopening keeps the store, writing the settings it starts with
    rcases engine_reopen config s with same | ⟨c, -, started⟩
    · exact ⟨s.engine.store.config?, s.engine.store.ledger, congrArg Engine.store same⟩
    · obtain ⟨reopened, -⟩ := Engine.start_eq_ok started
      exact ⟨some c, s.engine.store.ledger, congrArg Engine.store reopened⟩
  case setFeeWallet wallet => exact settings (resetsSettings_setFeeWallet wallet)
  case setFeeToken token => exact settings (resetsSettings_setFeeToken token)
  case setFeeAmount amount => exact settings (resetsSettings_setFeeAmount amount)
  case setFeePercent percent => exact settings (resetsSettings_setFeePercent percent)
  case toggleFeeType token => exact settings (resetsSettings_toggleFeeType token)
  case toggleBurnSink sink => exact settings (resetsSettings_toggleBurnSink sink)
  case registerToken token symbol decimals =>
    exact ledger (replacesLedger_registerToken token symbol decimals)
  case mint token receiver amount => exact ledger (replacesLedger_mint token receiver amount)
  case approve token owner spender amount =>
    exact ledger (replacesLedger_approve token owner spender amount)
  case transfer token sender receiver amount =>
    exact ledger (replacesLedger_transfer token sender receiver amount)
  case transferFrom token spender owner receiver amount =>
    exact ledger (replacesLedger_transferFrom token spender owner receiver amount)
  case setPrice token price => exact ledger (replacesLedger_setPrice token price)

theorem settled_perform {s : Session} (consistent : s.engine.store.Consistent) (op : Operation) :
    s.engine.store.Settled (op.perform s).engine.store := by
  rcases Operation.perform_cases op s with ⟨caller, req, now, rfl⟩ |
    ⟨caller, id, recipient, mode, data, now, rfl⟩ | ⟨caller, id, recipient, mode, now, rfl⟩ |
    ⟨signer, id, proof, rfl⟩ | ⟨_, _, same⟩
  · exact settled_create consistent caller req now
  · show s.engine.store.Settled (sessionAfter ((unlock caller id recipient mode data now).run s)).engine.store
    rw [run_unlock]
    cases UnlockMode.decode mode data with
    | ok decoded => exact settled_unlockWith consistent caller id recipient decoded now
    | error fault => exact Store.settled_of_locks rfl
  · exact settled_unlockWith consistent caller id recipient mode now
  · rcases engine_sign signer id proof s with same | ⟨record, signed⟩
    · exact Store.settled_of_locks (congrArg (·.store.locks) same)
    · exact Store.settled_of_locks (congrArg (·.store.locks) signed)
  · exact Store.settled_of_locks ((congrArg Store.locks same).trans rfl)

/-! ### Along a sequence of operations -/

def Operation.unlocked? : Operation → Session → Option Nat
  | .unlock caller id recipient mode data now, s =>
    match (Action.unlock caller id recipient mode data now).run s with
    | .ok _ _ => some id
    | .error _ _ => none
  | .unlockWith caller id recipient mode now, s =>
    match (Action.unlockWith caller id recipient mode now).run s with
    | .ok _ _ => some id
    | .error _ _ => none
  | _, _ => none

def Operation.performAll (ops : List Operation) (s : Session) : Session :=
  ops.foldl (fun s op => op.perform s) s

def Operation.unlockedAlong : List Operation → Session → List Nat
  | [], _ => []
  | op :: rest, s => (op.unlocked? s).toList ++ unlockedAlong rest (op.perform s)

namespace Operation

variable {s : Session}

theorem consumed_of_unlocked? (consistent : s.engine.store.Consistent) {op : Operation} {id : Nat}
    (unlocked : op.unlocked? s = some id) :
    (∀ l, s.engine.store.locks.get? id = some l → l.isActive = true) ∧
      ∃ l, (op.perform s).engine.store.locks.get? id = some l ∧ l.isActive = false := by
  -- both call forms come down to a successful unlock with a decoded mode
  have paidOut : ∀ {caller recipient mode now paid after},
      (Action.unlockWith caller id recipient mode now).run s = .ok paid after →
      (∀ l, s.engine.store.locks.get? id = some l → l.isActive = true) ∧
        ∃ l, after.engine.store.locks.get? id = some l ∧ l.isActive = false := by
    intro caller recipient mode now paid after ran
    obtain ⟨l, -, found, -, active, -, -, -, -, -, locks⟩ := unlockWith_eq_ok consistent ran
    refine ⟨fun l' found' => ?_, _, by rw [locks, if_pos rfl], rfl⟩
    rw [found] at found'
    cases found'
    exact active
  cases op with
  | unlock caller id' recipient mode data now =>
    cases ran : (Action.unlock caller id' recipient mode data now).run s with
    | error fault after => simp [unlocked?, ran] at unlocked
    | ok paid after =>
      simp only [unlocked?, ran, Option.some.injEq] at unlocked
      subst unlocked
      have decodedRan := ran
      rw [run_unlock] at decodedRan
      cases decoding : UnlockMode.decode mode data with
      | error fault => simp [decoding] at decodedRan
      | ok decoded =>
        simp only [decoding] at decodedRan
        obtain ⟨active, consumed⟩ := paidOut decodedRan
        exact ⟨active, by simpa [perform, ran] using consumed⟩
  | unlockWith caller id' recipient mode now =>
    cases ran : (Action.unlockWith caller id' recipient mode now).run s with
    | error fault after => simp [unlocked?, ran] at unlocked
    | ok paid after =>
      simp only [unlocked?, ran, Option.some.injEq] at unlocked
      subst unlocked
      obtain ⟨active, consumed⟩ := paidOut ran
      exact ⟨active, by simpa [perform, ran] using consumed⟩
  | _ => simp [unlocked?] at unlocked

theorem consistent_performAll : ∀ (ops : List Operation) {s : Session},
    s.engine.store.Consistent → (performAll ops s).engine.store.Consistent
  | [], _, consistent => consistent
  | op :: rest, _, consistent => consistent_performAll rest (consistent_perform consistent op)

theorem settled_performAll : ∀ (ops : List Operation) {s : Session},
    s.engine.store.Consistent → s.engine.store.Settled (performAll ops s).engine.store
  | [], _, _ => fun _ _ found _ => found
  | op :: rest, _, consistent =>
    (settled_perform consistent op).trans (settled_performAll rest (consistent_perform consistent op))

theorem not_mem_unlockedAlong : ∀ (ops : List Operation) {s : Session},
    s.engine.store.Consistent → ∀ {id : Nat} {l : Lock}, s.engine.store.locks.get? id = some l →
    l.isActive = false → id ∉ unlockedAlong ops s
  | [], _, _, _, _, _, _ => by simp [unlockedAlong]
  | op :: rest, s, consistent, id, l, found, consumed => by
    rw [unlockedAlong, List.mem_append, not_or]
    refine ⟨fun paying => ?_, not_mem_unlockedAlong rest (consistent_perform consistent op)
      (settled_perform consistent op id l found consumed) consumed⟩
    have active := (consumed_of_unlocked? consistent (Option.mem_toList.mp paying)).1 l found
    simp [consumed] at active

/-- Along any operations, no lock is paid out twice: the call that pays it leaves it consumed,
and a consumed lock stays consumed. -/
theorem nodup_unlockedAlong : ∀ (ops : List Operation) {s : Session},
    s.engine.store.Consistent → (unlockedAlong ops s).Nodup
  | [], _, _ => List.nodup_nil
  | op :: rest, s, consistent => by
    rw [unlockedAlong, List.nodup_append]
    refine ⟨?_, nodup_unlockedAlong rest (consistent_perform consistent op), fun a paying b later same => ?_⟩
    · cases op.unlocked? s <;> simp
    · subst same
      obtain ⟨-, l, consumed, inactive⟩ := consumed_of_unlocked? consistent (Option.mem_toList.mp paying)
      exact not_mem_unlockedAlong rest (consistent_perform consistent op) consumed inactive later

end Operation

/-- Unlocking pays a lock out once. From any reachable session: along any operations no lock is
paid out by two calls. A successful call found the lock active and owned by the caller, and left
it consumed at the call's time, to the recipient, with the mode's share of the amount paid and
the rest retained; unless the recipient is custody, the share moved from custody to the
recipient and no other balance changed. Every later call on the lock with a valid mode, or with
a mode that decodes, is refused: for the lock's state if the owner makes it, for not owning it
otherwise. A refused call leaves every lock and every balance as it found them, and with a valid
mode it fails with an overflow only when evaluating the lock's policy does. A call with an
invalid mode is refused with the mode's fault before anything else is read. An unlock in wire
form is refused with the decoding's fault, changing nothing, or is the call with its decoded
mode, which is valid. -/
theorem unlock_pays_out_once {allowed : Operation → Session → Prop} {s : Session}
    (reached : Reachable allowed s) :
    (∀ ops, (Operation.unlockedAlong ops s).Nodup) ∧
    (∀ caller id recipient mode now paid after,
      (unlockWith caller id recipient mode now).run s = .ok paid after →
      ∃ l retained, s.engine.store.locks.get? id = some l ∧ l.owner = caller ∧ l.isActive = true ∧
        after.engine.store.locks.get? id =
          some { l with state := .consumed now recipient paid retained } ∧
        paid = mode.share l.amount ∧ paid ≤ l.amount ∧ paid + retained = l.amount ∧
        (recipient ≠ s.engine.config.custody →
          after.engine.store.ledger.balanceOf l.token recipient =
            s.engine.store.ledger.balanceOf l.token recipient + paid ∧
          after.engine.store.ledger.balanceOf l.token s.engine.config.custody + paid =
            s.engine.store.ledger.balanceOf l.token s.engine.config.custody ∧
          ∀ t holder, t ≠ l.token ∨ holder ≠ recipient ∧ holder ≠ s.engine.config.custody →
            after.engine.store.ledger.balanceOf t holder = s.engine.store.ledger.balanceOf t holder) ∧
        ∀ ops caller' recipient' now',
          (∀ mode', mode'.validate = .ok () → ∃ later,
            (unlockWith caller' id recipient' mode' now').run (Operation.performAll ops after) =
              .error (if caller' = caller then .unlockConditionsMismatch else .notLockOwner) later) ∧
          (∀ code data mode', UnlockMode.decode code data = .ok mode' → ∃ later,
            (unlock caller' id recipient' code data now').run (Operation.performAll ops after) =
              .error (if caller' = caller then .unlockConditionsMismatch else .notLockOwner) later)) ∧
    (∀ caller id recipient mode now fault after,
      (unlockWith caller id recipient mode now).run s = .error fault after →
      (∀ k, after.engine.store.locks.get? k = s.engine.store.locks.get? k) ∧
      (∀ t holder, after.engine.store.ledger.balanceOf t holder =
        s.engine.store.ledger.balanceOf t holder) ∧
      (mode.validate = .ok () → fault = .arithmeticOverflow →
        ∃ checked, (checkUnlock id now).run s = .error .arithmeticOverflow checked)) ∧
    (∀ caller id recipient mode now fault, mode.validate = .error fault →
      (unlockWith caller id recipient mode now).run s = .error fault s) ∧
    (∀ caller id recipient code data now,
      (∃ fault, UnlockMode.decode code data = .error fault ∧
        (unlock caller id recipient code data now).run s = .error fault s) ∨
      (∃ mode, UnlockMode.decode code data = .ok mode ∧ mode.validate = .ok () ∧
        (unlock caller id recipient code data now).run s =
          (unlockWith caller id recipient mode now).run s)) := by
  have consistent := consistent_of_reachable reached
  have bounded := bounded_of_reachable reached
  refine ⟨fun ops => Operation.nodup_unlockedAlong ops consistent,
    fun caller id recipient mode now paid after ran => ?_,
    fun caller id recipient mode now fault after ran => ?_,
    fun caller id recipient mode now fault invalid => run_unlockWith_of_invalid invalid,
    fun caller id recipient code data now => ?_⟩
  · obtain ⟨l, paidOut, found, owner, active, -, share, within, paying, ledger, locks⟩ :=
      unlockWith_eq_ok consistent ran
    have consumed : after.engine.store.locks.get? id =
        some { l with state := .consumed now recipient paid (l.amount - paid) } := by
      rw [locks, if_pos rfl]
    have afterConsistent : after.engine.store.Consistent := by
      have stepped := consistent_unlockWith consistent caller id recipient mode now
      rwa [ran] at stepped
    refine ⟨l, l.amount - paid, found, owner, active, consumed, share, within, by omega,
      fun differ => ?_, fun ops caller' recipient' now' => ?_⟩
    · rw [ledger]
      exact Ledger.balanceOf_of_payout paying differ
    · -- the lock stays consumed through any operations, and refuses every later call
      have still := Operation.settled_performAll ops afterConsistent id _ consumed rfl
      refine ⟨fun mode' valid => ?_, fun code data mode' decoded => ?_⟩
      · exact unlockWith_of_consumed still rfl owner valid
      · rw [run_unlock, decoded]
        exact unlockWith_of_consumed still rfl owner (UnlockMode.validate_of_decode decoded)
  · obtain ⟨locks, ledger⟩ := unlockWith_eq_error consistent ran
    refine ⟨locks, fun t holder => by rw [ledger], fun valid overflow => ?_⟩
    subst overflow
    exact checkUnlock_of_unlockWith_overflow bounded valid ran
  · cases decoding : UnlockMode.decode code data with
    | error fault => exact .inl ⟨fault, rfl, by rw [run_unlock, decoding]⟩
    | ok mode =>
      exact .inr ⟨mode, rfl, UnlockMode.validate_of_decode decoding, by rw [run_unlock, decoding]⟩

theorem unlock_pays_out_once_ownerLockRun :
    Reachable (fun _ _ => True) ownerLockRun ∧
      ∀ ops, (Operation.unlockedAlong ops ownerLockRun).Nodup := by
  have reached : Reachable (fun _ _ => True) ownerLockRun :=
    .step (.step (.step (.step (.start {} rfl) trivial) trivial) trivial) trivial
  exact ⟨reached, (unlock_pays_out_once reached).1⟩

section Runs

def paidOutRun : Session :=
  (Operation.unlockWith lockOwner 0 lockOwner .full 60).perform ownerLockRun

def capRequest : LockRequest :=
  LockRequest.ofExpression lockToken 100 ["c1"] [(CriterionSpec.marketCap (5 * fixedOne)).encode]

/-- An owner of 10^30 base units locks 100 of them on the market capitalisation while the price
is one base unit, and the price then rises to 10^38. -/
def capOverflowRun : Session :=
  (Operation.setPrice lockToken (Nat.pow 10 38)).perform <|
  (Operation.create lockOwner capRequest 0).perform <|
  (Operation.setPrice lockToken 1).perform <|
  (Operation.approve lockToken lockOwner defaultCustody 1000).perform <|
  (Operation.mint lockToken lockOwner (Nat.pow 10 30)).perform <|
  (Operation.registerToken lockToken "TKN" 18).perform freshSession

/-- Two limits of the unlock. The mode is checked before the lock: once a lock is paid out, its
owner asking again for a share of zero is refused for the mode, not for the lock's state. And a
valid mode can still end in an overflow: the market capitalisation `10^30 · 10^38 / 10^18` of
the capped lock's token does not fit 128 bits, so the full unlock is refused with it. -/
theorem unlock_checks_mode_first_and_can_overflow :
    Reachable (fun _ _ => True) paidOutRun ∧
      (match (unlockWith lockOwner 0 lockOwner .full 60).run ownerLockRun with
        | .ok paid _ => some paid
        | .error _ _ => none) = some 100 ∧
      (paidOutRun.engine.store.locks.get? 0).map Lock.isActive = some false ∧
      (unlockWith lockOwner 0 lockOwner (.fraction 0) 120).run paidOutRun =
        .error (.invalidParameters "withdrawal ratio must be in (0, 1e18]") paidOutRun ∧
    Reachable (fun _ _ => True) capOverflowRun ∧
      (capOverflowRun.engine.store.locks.get? 0).map Lock.isActive = some true ∧
      (match (unlockWith lockOwner 0 lockOwner .full 60).run capOverflowRun with
        | .error .arithmeticOverflow _ => true
        | _ => false) = true := by
  refine ⟨.step (.step (.step (.step (.step (.start {} rfl) trivial) trivial) trivial) trivial)
    trivial, by decide +kernel, by decide +kernel, rfl,
    .step (.step (.step (.step (.step (.step (.start {} rfl) trivial) trivial) trivial) trivial)
      trivial) trivial, by decide +kernel, by decide +kernel⟩

end Runs

end Escrow
