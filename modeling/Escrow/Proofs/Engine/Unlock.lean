import Escrow.Proofs.Engine.Action
import Escrow.Engine.Unlock

/-! What evaluating and unlocking do to the engine.

Evaluating a policy only reads the engine and logs (`keepsEngine_evaluateLock`), so checking a
lock changes nothing. `run_unlockWith_cases` says once what an unlock can do: be refused with
the engine untouched; fail at the payout, with the active lock written back over the consumed
one; or mark the lock consumed and pay out of custody.
-/

set_option autoImplicit false

namespace Escrow.Action

open Escrow.Policy

theorem keepsEngine_resolveRefs (tokens : List Token) {resolve : CriterionRef → Action Bool}
    (keepsResolve : ∀ r, KeepsEngine (resolve r)) (refs : List CriterionRef)
    (values : List (Option Bool)) : KeepsEngine (resolveRefs tokens resolve refs values) := by
  induction refs generalizing values with
  | nil => exact keepsEngine_pure values
  | cons r rest ih =>
    unfold resolveRefs
    -- a reference is resolved if it points at a placeholder, and refused otherwise
    split
    · exact (keepsResolve r).bind fun v => ih _
    · exact keepsEngine_throw _

theorem keepsEngine_evaluate (tokens : List Token) (refs : List CriterionRef)
    {resolve : CriterionRef → Action Bool} (keepsResolve : ∀ r, KeepsEngine (resolve r)) :
    KeepsEngine (evaluate tokens refs resolve) := by
  unfold evaluate
  refine (keepsEngine_resolveRefs tokens keepsResolve refs _).bind fun values => ?_
  split
  · exact keepsEngine_pure _
  · exact keepsEngine_throw _

theorem keepsEngine_evaluateLock (l : Lock) (now : Int) : KeepsEngine (evaluateLock l now) :=
  keepsEngine_engine.bind fun _ => keepsEngine_evaluate _ _ fun _ =>
    (keepsEngine_lift _).bind fun _ => (keepsEngine_emit _ _ _ _).bind fun _ => keepsEngine_pure _

theorem run_loadLock (id : Nat) (s : Session) :
    (loadLock id).run s = match s.engine.store.locks.get? id with
      | some l => .ok l s
      | none => .error (.lockNotFound id) s := by
  cases found : s.engine.store.locks.get? id with
  | none => simp [loadLock, found]
  | some l => simp [loadLock, found]

theorem keepsEngine_checkUnlock (id : Nat) (now : Int) : KeepsEngine (checkUnlock id now) := by
  intro s
  unfold checkUnlock
  rw [engine_sessionAfter_bind _ (fun l => keepsEngine_evaluateLock l now), run_loadLock]
  split <;> rfl

variable {caller : Address} {id : Nat} {recipient : Address} {mode : UnlockMode} {now : Int}
  {s : Session}

/-- Why an unlock is refused before it writes anything, one constructor per check in the order
the checks are made: the mode, the lock's presence, its owner, its state, its policy, the
policy's evaluation, and the payout's arithmetic. -/
inductive UnlockRefused (s : Session) (caller : Address) (id : Nat) (mode : UnlockMode) (now : Int) :
    LockError → Prop
  | invalidMode {fault : LockError} (invalid : mode.validate = .error fault) :
      UnlockRefused s caller id mode now fault
  | missing (valid : mode.validate = .ok ()) (absent : s.engine.store.locks.get? id = none) :
      UnlockRefused s caller id mode now (.lockNotFound id)
  | notOwner {l : Lock} (valid : mode.validate = .ok ()) (found : s.engine.store.locks.get? id = some l)
      (other : l.owner ≠ caller) : UnlockRefused s caller id mode now .notLockOwner
  | consumed {l : Lock} (valid : mode.validate = .ok ()) (found : s.engine.store.locks.get? id = some l)
      (owner : l.owner = caller) (inactive : l.isActive = false) :
      UnlockRefused s caller id mode now .unlockConditionsMismatch
  | unmet {l : Lock} {checked : Session} (valid : mode.validate = .ok ())
      (found : s.engine.store.locks.get? id = some l) (owner : l.owner = caller)
      (active : l.isActive = true) (evaluating : (evaluateLock l now).run s = .ok false checked) :
      UnlockRefused s caller id mode now .unlockConditionsMismatch
  | unevaluated {l : Lock} {fault : LockError} {checked : Session} (valid : mode.validate = .ok ())
      (found : s.engine.store.locks.get? id = some l) (owner : l.owner = caller)
      (active : l.isActive = true) (evaluating : (evaluateLock l now).run s = .error fault checked) :
      UnlockRefused s caller id mode now fault
  | unpayable {l : Lock} {fault : LockError} {checked : Session} (valid : mode.validate = .ok ())
      (found : s.engine.store.locks.get? id = some l) (owner : l.owner = caller)
      (active : l.isActive = true) (evaluating : (evaluateLock l now).run s = .ok true checked)
      (paying : mode.payout l.amount = .error fault) : UnlockRefused s caller id mode now fault
  | overpaid {l : Lock} {paid : Nat} {checked : Session} (valid : mode.validate = .ok ())
      (found : s.engine.store.locks.get? id = some l) (owner : l.owner = caller)
      (active : l.isActive = true) (evaluating : (evaluateLock l now).run s = .ok true checked)
      (paying : mode.payout l.amount = .ok paid) (excess : l.amount < paid) :
      UnlockRefused s caller id mode now .arithmeticOverflow

/-- Every run of an unlock ends in one of three ways. It is refused with the engine untouched,
for one of the reasons `UnlockRefused` lists. Or the payout transfer fails after the lock was
marked consumed, and the active lock is written back. Or the lock, found active, owned by the
caller and with its policy holding, is marked consumed with what it retains, and what it pays
leaves custody. -/
theorem run_unlockWith_cases {result : EStateM.Result LockError Session Nat}
    (ran : (unlockWith caller id recipient mode now).run s = result) :
    (∃ fault after, result = .error fault after ∧ after.engine = s.engine ∧
      UnlockRefused s caller id mode now fault) ∨
    (∃ l paid inner after,
      s.engine.store.locks.get? id = some l ∧ l.owner = caller ∧ l.isActive = true ∧
      mode.payout l.amount = .ok paid ∧ paid ≤ l.amount ∧ 0 < paid ∧
      s.engine.store.ledger.transfer l.token s.engine.config.custody recipient paid = .error inner ∧
      result = .error (.custodyTransferFailed .payout inner) after ∧
      after.engine = { s.engine with store := (s.engine.store.putLock
        { l with state := .consumed now recipient paid (l.amount - paid) }).putLock l }) ∨
    (∃ l paid paidOut checked after,
      mode.validate = .ok () ∧
      s.engine.store.locks.get? id = some l ∧ l.owner = caller ∧ l.isActive = true ∧
      (evaluateLock l now).run s = .ok true checked ∧
      mode.payout l.amount = .ok paid ∧ paid ≤ l.amount ∧
      (if 0 < paid then s.engine.store.ledger.transfer l.token s.engine.config.custody recipient paid
        else .ok s.engine.store.ledger) = .ok paidOut ∧
      result = .ok paid after ∧
      after.engine = { s.engine with store :=
        { s.engine.store.putLock { l with state := .consumed now recipient paid (l.amount - paid) } with
          ledger := paidOut } }) := by
  unfold unlockWith at ran
  simp only [EStateM.run_bind] at ran
  split at ran
  case h_2 fault _ validateRan =>
    obtain ⟨validating, rfl⟩ := run_lift_eq_error.mp validateRan
    exact .inl ⟨fault, _, ran.symm, rfl, .invalidMode validating⟩
  rename_i u _ validateRan
  obtain ⟨validating, rfl⟩ := run_lift_eq_ok.mp validateRan
  cases u
  cases found : s.engine.store.locks.get? id with
  | none =>
    simp only [run_loadLock, found] at ran
    exact .inl ⟨_, _, ran.symm, rfl, .missing validating found⟩
  | some l =>
  simp only [run_loadLock, found] at ran
  by_cases owner : l.owner = caller
  case neg =>
    simp only [ne_eq, owner, not_false_eq_true, if_true, EStateM.run_bind, run_throw] at ran
    exact .inl ⟨_, _, ran.symm, rfl, .notOwner validating found owner⟩
  rw [if_neg fun differ => differ owner] at ran
  cases active : l.isActive
  case false =>
    simp only [active, Bool.not_false, if_true, EStateM.run_bind, run_emit, run_throw] at ran
    exact .inl ⟨_, _, ran.symm, rfl, .consumed validating found owner active⟩
  simp only [active, Bool.not_true, Bool.false_eq_true, if_false, EStateM.run_bind] at ran
  -- the policy is evaluated without touching the engine
  split at ran
  case h_2 fault checked evaluating =>
    have keep := keepsEngine_evaluateLock l now s
    rw [evaluating] at keep
    exact .inl ⟨fault, checked, ran.symm, keep, .unevaluated validating found owner active evaluating⟩
  rename_i holds checked evaluating
  have keep : checked.engine = s.engine := by
    have := keepsEngine_evaluateLock l now s
    rwa [evaluating] at this
  cases holds
  case false =>
    simp only [Bool.not_false, if_true, EStateM.run_bind, run_emit, run_throw] at ran
    exact .inl ⟨_, _, ran.symm, keep, .unmet validating found owner active evaluating⟩
  simp only [Bool.not_true, Bool.false_eq_true, if_false, EStateM.run_bind] at ran
  split at ran
  case h_2 fault _ payRan =>
    obtain ⟨paying, rfl⟩ := run_lift_eq_error.mp payRan
    exact .inl ⟨fault, _, ran.symm, keep, .unpayable validating found owner active evaluating paying⟩
  rename_i paid _ payRan
  obtain ⟨paying, rfl⟩ := run_lift_eq_ok.mp payRan
  by_cases overpaid : l.amount < paid
  case pos =>
    simp only [overpaid, if_true, EStateM.run_bind, run_throw] at ran
    exact .inl ⟨_, _, ran.symm, keep, .overpaid validating found owner active evaluating paying overpaid⟩
  simp only [overpaid, if_false, EStateM.run_bind, run_store, run_setStore] at ran
  by_cases positive : 0 < paid
  case neg =>
    simp only [positive, if_false, EStateM.run_bind, run_emit, EStateM.run_pure] at ran
    refine .inr (.inr ⟨l, paid, s.engine.store.ledger, checked, _, validating, rfl, owner, active,
      evaluating, paying, by omega, by simp [positive], ran.symm, ?_⟩)
    rw [← keep]
    rfl
  simp only [positive, if_true, EStateM.run_bind, run_config, run_store] at ran
  split at ran
  case h_1 inner moving =>
    simp only [EStateM.run_bind, run_emit, run_store, run_setStore, run_throw] at ran
    rw [keep] at moving
    refine .inr (.inl ⟨l, paid, inner, _, rfl, owner, active, paying, by omega, positive, moving,
      ran.symm, ?_⟩)
    rw [← keep]
  rename_i moved moving
  simp only [EStateM.run_bind, run_setLedger, run_emit, EStateM.run_pure] at ran
  rw [Store.ledger_putLock, keep] at moving
  refine .inr (.inr ⟨l, paid, moved, checked, _, validating, rfl, owner, active, evaluating, paying,
    by omega, by simp [positive, moving], ran.symm, ?_⟩)
  rw [← keep]

theorem run_unlockWith_of_invalid {fault : LockError} (invalid : mode.validate = .error fault) :
    (unlockWith caller id recipient mode now).run s = .error fault s := by
  simp [unlockWith, EStateM.run_bind, invalid, run_lift_error]

theorem run_unlock (mode : Nat) (data : List UInt8) :
    (unlock caller id recipient mode data now).run s =
      match UnlockMode.decode mode data with
      | .ok decoded => (unlockWith caller id recipient decoded now).run s
      | .error fault => .error fault s := by
  cases decoding : UnlockMode.decode mode data <;> simp [unlock, decoding]

end Escrow.Action
