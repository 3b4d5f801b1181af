import Escrow.Proofs.Ledger.Supply
import Escrow.Proofs.Engine.Payout

/-! The engine's runs conserve supply.

The engine changes its ledger only through the ledger's own calls: a lock's intake, its fee and
the refund of a refused fee are transfers on an allowance or plain transfers, a payout is a
transfer, and the remaining operations leave the ledger alone or make one ledger call. So a
property of ledgers that each call keeps holds along every run of the engine
(`Ledger.Invariant.of_reachable`); conservation of supply is one (`conserved_of_engine_run`). A
ledger call made through the engine that fails leaves the session as it found it.
-/

set_option autoImplicit false

namespace Escrow

/-- A property of ledgers that every ledger call keeps. -/
structure Ledger.Invariant (P : Ledger → Prop) : Prop where
  register : ∀ {l : Ledger} (token : Address) (symbol : String) (decimals : Nat), P l →
    P (l.register token symbol decimals)
  mint : ∀ {l after : Ledger} {token receiver : Address} {amount : Nat}, P l →
    l.mint token receiver amount = .ok after → P after
  approve : ∀ {l after : Ledger} {token owner spender : Address} {amount : Nat}, P l →
    l.approve token owner spender amount = .ok after → P after
  transfer : ∀ {l after : Ledger} {token sender receiver : Address} {amount : Nat}, P l →
    l.transfer token sender receiver amount = .ok after → P after
  transferFrom : ∀ {l after : Ledger} {token spender owner receiver : Address} {amount : Nat}, P l →
    l.transferFrom token spender owner receiver amount = .ok after → P after
  setPrice : ∀ {l : Ledger} (token : Address) (price : Nat), P l → P (l.setPrice token price)

namespace Ledger.Invariant

variable {P : Ledger → Prop} (invariant : Ledger.Invariant P)
include invariant

theorem chargeFee {l after : Ledger} {custody owner token : Address} {charge : FeeCharge}
    (holds : P l) (charging : l.chargeFee custody owner token charge = .ok after) : P after := by
  cases charge with
  | none =>
    cases charging
    exact holds
  | percent wallet fee => exact invariant.transfer holds charging
  | flat wallet feeToken fee => exact invariant.transferFrom holds charging

variable {s : Session}

theorem create (holds : P s.engine.store.ledger) (caller : Address) (req : LockRequest) (now : Int) :
    P (Action.sessionAfter ((Action.create caller req now).run s)).engine.store.ledger := by
  rcases Action.run_create_cases (show (Action.create caller req now).run s = _ from rfl) with
    ⟨fault, refused⟩ | ⟨charge, intake, inner, after, -, taking, -, refused, restored⟩ |
      ⟨compiled, refs, records, next, charge, intake, charged, after, -, -, -, -, taking, charging,
        accepted, written⟩
  · rw [refused]
    exact holds
  · -- the intake stands, refunded if the refund goes through
    rw [refused, Action.sessionAfter_error, restored]
    have intaken := invariant.transferFrom holds taking
    split
    · exact invariant.transfer intaken ‹_›
    · exact intaken
  · rw [accepted, Action.sessionAfter_ok, written]
    simp only [Store.foldl_putCriterion, Store.ledger_putLock]
    exact invariant.chargeFee (invariant.transferFrom holds taking) charging

theorem unlockWith (holds : P s.engine.store.ledger) (caller : Address) (id : Nat)
    (recipient : Address) (mode : UnlockMode) (now : Int) :
    P (Action.sessionAfter ((Action.unlockWith caller id recipient mode now).run s)).engine.store.ledger := by
  rcases Action.run_unlockWith_cases
      (show (Action.unlockWith caller id recipient mode now).run s = _ from rfl) with
    ⟨fault, after, refused, same, -⟩ | ⟨l, paid, inner, after, -, -, -, -, -, -, -, refused, restored⟩ |
      ⟨l, paid, paidOut, checked, after, -, -, -, -, -, -, -, paying, accepted, written⟩
  · rw [refused, Action.sessionAfter_error, same]
    exact holds
  · -- a failed payout puts the lock back and leaves the ledger alone
    rw [refused, Action.sessionAfter_error, restored]
    exact holds
  · rw [accepted, Action.sessionAfter_ok, written]
    split at paying
    · exact invariant.transfer holds paying
    · cases paying
      exact holds

theorem unlock (holds : P s.engine.store.ledger) (caller : Address) (id : Nat) (recipient : Address)
    (mode : Nat) (data : List UInt8) (now : Int) :
    P (Action.sessionAfter ((Action.unlock caller id recipient mode data now).run s)).engine.store.ledger := by
  rw [Action.run_unlock]
  cases UnlockMode.decode mode data with
  | ok decoded => exact invariant.unlockWith holds caller id recipient decoded now
  | error fault => exact holds

omit invariant in
theorem replacesLedger {α : Type} {action : Action α} {change : Ledger → Except LockError Ledger}
    (replaces : Action.ReplacesLedger action change)
    (keeps : ∀ l after, P l → change l = .ok after → P after) (holds : P s.engine.store.ledger) :
    P (Action.sessionAfter (action.run s)).engine.store.ledger := by
  rw [replaces s]
  cases changing : change s.engine.store.ledger with
  | ok after => exact keeps _ _ holds changing
  | error fault => exact holds

omit invariant in
theorem resetsSettings {α : Type} {action : Action α} (resets : Action.ResetsSettings action)
    (holds : P s.engine.store.ledger) : P (Action.sessionAfter (action.run s)).engine.store.ledger := by
  rcases resets s with same | ⟨next, -, changed⟩
  · exact (congrArg (fun e : Engine => P e.store.ledger) same).mpr holds
  · exact (congrArg (fun e : Engine => P e.store.ledger) changed).mpr holds

theorem perform (holds : P s.engine.store.ledger) (op : Operation) :
    P (op.perform s).engine.store.ledger := by
  cases op with
  | create caller req now => exact invariant.create holds caller req now
  | unlock caller id recipient mode data now =>
    exact invariant.unlock holds caller id recipient mode data now
  | unlockWith caller id recipient mode now =>
    exact invariant.unlockWith holds caller id recipient mode now
  | sign signer id proof =>
    -- a signature rewrites one criterion, never the ledger
    rcases Action.engine_sign signer id proof s with same | ⟨record, signed⟩
    · exact (congrArg (fun e : Engine => P e.store.ledger) same).mpr holds
    · exact (congrArg (fun e : Engine => P e.store.ledger) signed).mpr holds
  | checkUnlock id now =>
    exact (congrArg (fun e : Engine => P e.store.ledger) (Action.keepsEngine_checkUnlock id now s)).mpr
      holds
  | setFeeWallet wallet => exact resetsSettings (Action.resetsSettings_setFeeWallet wallet) holds
  | setFeeToken token => exact resetsSettings (Action.resetsSettings_setFeeToken token) holds
  | setFeeAmount amount => exact resetsSettings (Action.resetsSettings_setFeeAmount amount) holds
  | setFeePercent percent => exact resetsSettings (Action.resetsSettings_setFeePercent percent) holds
  | toggleFeeType token => exact resetsSettings (Action.resetsSettings_toggleFeeType token) holds
  | toggleBurnSink sink => exact resetsSettings (Action.resetsSettings_toggleBurnSink sink) holds
  | reopen config =>
    rcases Action.engine_reopen config s with same | ⟨c, -, started⟩
    · exact (congrArg (fun e : Engine => P e.store.ledger) same).mpr holds
    · obtain ⟨reopened, -⟩ := Engine.start_eq_ok started
      exact (congrArg (fun e : Engine => P e.store.ledger) reopened).mpr holds
  | registerToken token symbol decimals =>
    exact replacesLedger (Action.replacesLedger_registerToken token symbol decimals)
      (fun l _ kept registered => by cases registered; exact invariant.register token symbol decimals kept)
      holds
  | mint token receiver amount =>
    exact replacesLedger (Action.replacesLedger_mint token receiver amount)
      (fun _ _ kept minted => invariant.mint kept minted) holds
  | approve token owner spender amount =>
    exact replacesLedger (Action.replacesLedger_approve token owner spender amount)
      (fun _ _ kept approved => invariant.approve kept approved) holds
  | transfer token sender receiver amount =>
    exact replacesLedger (Action.replacesLedger_transfer token sender receiver amount)
      (fun _ _ kept moved => invariant.transfer kept moved) holds
  | transferFrom token spender owner receiver amount =>
    exact replacesLedger
      (Action.replacesLedger_transferFrom token spender owner receiver amount)
      (fun _ _ kept moved => invariant.transferFrom kept moved) holds
  | setPrice token price =>
    exact replacesLedger (Action.replacesLedger_setPrice token price)
      (fun l _ kept priced => by cases priced; exact invariant.setPrice token price kept) holds

/-- A property of ledgers that the empty ledger has and every ledger call keeps holds of the
ledger of every engine a run reaches. -/
theorem of_reachable (empty : P {}) {allowed : Operation → Session → Prop}
    (reached : Escrow.Reachable allowed s) : P s.engine.store.ledger := by
  induction reached with
  | start config started =>
    obtain ⟨rfl, -⟩ := Engine.start_eq_ok started
    exact empty
  | step _ _ holds => exact invariant.perform holds _

end Ledger.Invariant

theorem Ledger.conserved_invariant : Ledger.Invariant Ledger.Conserved where
  register _ _ _ conserved := conserved.register
  mint conserved minted := conserved.mint minted
  approve conserved approved := conserved.approve approved
  transfer conserved moved := conserved.transfer moved
  transferFrom conserved moved := conserved.transferFrom moved
  setPrice _ price conserved := conserved.setPrice price

theorem conserved_of_engine_run {allowed : Operation → Session → Prop} {s : Session}
    (reached : Reachable allowed s) : s.engine.store.ledger.Conserved :=
  Ledger.conserved_invariant.of_reachable Ledger.conserved_empty reached

namespace Ledger

def Call.action : Call → Action Unit
  | .register token symbol decimals => Action.registerToken token symbol decimals
  | .mint token receiver amount => Action.mint token receiver amount
  | .approve token owner spender amount => Action.approve token owner spender amount
  | .transfer token sender receiver amount => Action.transfer token sender receiver amount
  | .transferFrom token spender owner receiver amount =>
    Action.transferFrom token spender owner receiver amount

theorem Call.run_action_error (call : Call) {s after : Session} {fault : LockError}
    (failed : call.action.run s = .error fault after) :
    after = s ∧ call.apply s.engine.store.ledger = .error fault := by
  cases call with
  | register token symbol decimals => simp [action, Action.registerToken] at failed
  | mint token receiver amount =>
    cases calling : s.engine.store.ledger.mint token receiver amount with
    | ok minted => simp [action, Action.mint, calling] at failed
    | error other =>
      simp only [action, Action.mint, EStateM.run_bind, Action.run_store, calling,
        Action.run_lift_error, EStateM.Result.error.injEq] at failed
      exact ⟨failed.2.symm, failed.1 ▸ calling⟩
  | approve token owner spender amount =>
    cases calling : s.engine.store.ledger.approve token owner spender amount with
    | ok approved => simp [action, Action.approve, calling] at failed
    | error other =>
      simp only [action, Action.approve, EStateM.run_bind, Action.run_store, calling,
        Action.run_lift_error, EStateM.Result.error.injEq] at failed
      exact ⟨failed.2.symm, failed.1 ▸ calling⟩
  | transfer token sender receiver amount =>
    cases calling : s.engine.store.ledger.transfer token sender receiver amount with
    | ok moved => simp [action, Action.transfer, calling] at failed
    | error other =>
      simp only [action, Action.transfer, EStateM.run_bind, Action.run_store, calling,
        Action.run_lift_error, EStateM.Result.error.injEq] at failed
      exact ⟨failed.2.symm, failed.1 ▸ calling⟩
  | transferFrom token spender owner receiver amount =>
    cases calling : s.engine.store.ledger.transferFrom token spender owner receiver amount with
    | ok moved => simp [action, Action.transferFrom, calling] at failed
    | error other =>
      simp only [action, Action.transferFrom, EStateM.run_bind, Action.run_store, calling,
        Action.run_lift_error, EStateM.Result.error.injEq] at failed
      exact ⟨failed.2.symm, failed.1 ▸ calling⟩

end Ledger

/-- The ledger conserves supply. Along every sequence of ledger calls from the empty ledger, and
along every run of the engine, which makes such calls itself, each registered token's supply is
what all holders hold of it (and fits 128 bits), and nobody holds an unregistered token. A
ledger call that fails leaves the session, its ledger included, as it was. A transfer on an
allowance that succeeds spends exactly its amount of that allowance and of no other. While
supply is conserved, neither kind of transfer overflows. -/
theorem supply_conserved :
    (∀ l : Ledger, l.Reachable → l.Conserved) ∧
    (∀ (allowed : Operation → Session → Prop) (s : Session), Reachable allowed s →
      s.engine.store.ledger.Conserved) ∧
    (∀ (call : Ledger.Call) (s after : Session) (fault : LockError),
      call.action.run s = .error fault after →
        after = s ∧ call.apply s.engine.store.ledger = .error fault) ∧
    (∀ (l after : Ledger) (token spender owner receiver : Address) (amount : Nat),
      l.transferFrom token spender owner receiver amount = .ok after →
        amount ≤ l.allowance token owner spender ∧
        after.allowance token owner spender = l.allowance token owner spender - amount ∧
        ∀ t owner' spender', (t, owner', spender') ≠ (token, owner, spender) →
          after.allowance t owner' spender' = l.allowance t owner' spender') ∧
    (∀ l : Ledger, l.Conserved → ∀ (token spender sender receiver : Address) (amount : Nat),
      l.transfer token sender receiver amount ≠ .error .arithmeticOverflow ∧
      l.transferFrom token spender sender receiver amount ≠ .error .arithmeticOverflow) := by
  refine ⟨fun _ reached => Ledger.conserved_of_reachable reached,
    fun _ _ reached => conserved_of_engine_run reached,
    fun call _ _ _ failed => call.run_action_error failed, ?_,
    fun _ conserved _ _ _ _ _ => ⟨conserved.transfer_ne_overflow, conserved.transferFrom_ne_overflow⟩⟩
  intro l after token spender owner receiver amount transferred
  have spent := Ledger.allowance_of_transferFrom transferred
  refine ⟨(Ledger.transferFrom_eq_ok.mp transferred).1, by simp [spent], fun t owner' spender' other => ?_⟩
  rw [spent, if_neg (Ne.symm other)]

/-- A token registered and minted to one holder: its supply is what its holders hold, and moving
part of it to another holder cannot overflow. -/
theorem supply_conserved_minted :
    ((Ledger.Call.mint (.ofNat 7) (.ofNat 1) 100).perform
        ((Ledger.Call.register (.ofNat 7) "TKN" 18).perform {})).totalSupply (.ofNat 7) =
      .ok (∑ holder, ((Ledger.Call.mint (.ofNat 7) (.ofNat 1) 100).perform
        ((Ledger.Call.register (.ofNat 7) "TKN" 18).perform {})).balanceOf (.ofNat 7) holder) ∧
    ((Ledger.Call.mint (.ofNat 7) (.ofNat 1) 100).perform
        ((Ledger.Call.register (.ofNat 7) "TKN" 18).perform {})).transfer (.ofNat 7) (.ofNat 1)
      (.ofNat 2) 60 ≠ .error .arithmeticOverflow := by
  have conserved := supply_conserved.1 _
    (.call (.mint (.ofNat 7) (.ofNat 1) 100) (.call (.register (.ofNat 7) "TKN" 18) .empty))
  exact ⟨conserved.supply _ (by decide),
    (supply_conserved.2.2.2.2 _ conserved (.ofNat 7) (.ofNat 1) (.ofNat 1) (.ofNat 2) 60).1⟩

end Escrow
